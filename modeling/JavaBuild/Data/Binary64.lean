/-!
# Binary64 values

Modification times, tolerances and the numbers of a stored build status are binary64 values.
This module keeps them as exact numbers: a finite value is its rational value together with the
sign of a zero, and `round` gives the binary64 value nearest to a rational, a tie going to the
even mantissa. Every arithmetic step that the build performs on times is exact arithmetic followed
by `round`, which is what binary64 hardware computes.

The text of a value (`Binary64.text`) is the shortest decimal that rounds back to it, the nearer
of two such candidates, written positionally unless its decimal exponent is below -4 or above 15.
-/

namespace JavaBuild

/-- A binary64 value: a finite number (with the sign of a zero kept apart), an infinity or NaN. -/
inductive Binary64 where
  | finite (value : Rat) (negativeZero : Bool)
  | infinity (negative : Bool)
  | nan
deriving DecidableEq, Inhabited

namespace Binary64

/-- The largest position of a leading one: `2 ^ floorLog2 a b ≤ a / b < 2 ^ (floorLog2 a b + 1)`. -/
def floorLog2 (a b : Nat) : Int :=
  let t : Int := (Nat.log2 a : Int) - (Nat.log2 b : Int)
  let below : Bool :=
    if 0 ≤ t then decide (a < b * Nat.pow 2 t.toNat) else decide (a * Nat.pow 2 (-t).toNat < b)
  if below then t - 1 else t

/-- The mantissa and exponent of the binary64 number nearest to `a / b`, for positive `a` and `b`:
the mantissa is below `2 ^ 53`, and the exponent is at least `-1074`. -/
def roundPositive (a b : Nat) : Nat × Int :=
  let e : Int := max (floorLog2 a b - 52) (-1074)
  let num := if 0 ≤ e then a else a * Nat.pow 2 (-e).toNat
  let den := if 0 ≤ e then b * Nat.pow 2 e.toNat else b
  let m := num / den
  let r := num % den
  let m := if 2 * r > den ∨ (2 * r = den ∧ m % 2 = 1) then m + 1 else m
  if m = Nat.pow 2 53 then (Nat.pow 2 52, e + 1) else (m, e)

/-- The exact value `m · 2 ^ e`. -/
def scaled (m : Nat) (e : Int) : Rat :=
  if 0 ≤ e then ((m * Nat.pow 2 e.toNat : Nat) : Rat)
  else (m : Rat) / ((Nat.pow 2 (-e).toNat : Nat) : Rat)

/-- The binary64 value nearest to a rational; beyond the largest finite value it is an infinity. -/
def round (q : Rat) : Binary64 :=
  if q = 0 then .finite 0 false
  else
    let neg := decide (q < 0)
    let a := q.num.natAbs
    let b := q.den
    let (m, e) := roundPositive a b
    if 971 < e then .infinity neg
    else
      let v := scaled m e
      if m = 0 then .finite 0 neg else .finite (if neg then -v else v) false

/-- The binary64 value of an integer. -/
def ofInt (n : Int) : Binary64 := round n

/-- The rational value of a finite binary64 value. -/
def toRat? : Binary64 → Option Rat
  | .finite v _ => some v
  | _ => none

/-- Whether a value is NaN. -/
def isNaN : Binary64 → Bool
  | .nan => true
  | _ => false

/-- The difference of two values, rounded. -/
def sub : Binary64 → Binary64 → Binary64
  | .finite a za, .finite b zb =>
    if a - b = 0 then .finite 0 (za && !zb) else round (a - b)
  | .nan, _ => .nan
  | _, .nan => .nan
  | .infinity n, .infinity m => if n = m then .nan else .infinity n
  | .infinity n, _ => .infinity n
  | _, .infinity m => .infinity (!m)

/-- The sum of two values, rounded. -/
def add : Binary64 → Binary64 → Binary64
  | .finite a za, .finite b zb =>
    if a + b = 0 then .finite 0 (za && zb) else round (a + b)
  | .nan, _ => .nan
  | _, .nan => .nan
  | .infinity n, .infinity m => if n = m then .infinity n else .nan
  | .infinity n, _ => .infinity n
  | _, .infinity m => .infinity m

/-- The product of two values, rounded. -/
def mul : Binary64 → Binary64 → Binary64
  | .finite a za, .finite b zb =>
    if a * b = 0 then .finite 0 ((decide (a < 0) || za) != (decide (b < 0) || zb))
    else round (a * b)
  | .nan, _ => .nan
  | _, .nan => .nan
  | .infinity n, .infinity m => .infinity (n != m)
  | .infinity n, .finite b zb => if b = 0 then .nan else .infinity (n != (decide (b < 0) || zb))
  | .finite a za, .infinity m => if a = 0 then .nan else .infinity (m != (decide (a < 0) || za))

/-- The absolute value. -/
def abs : Binary64 → Binary64
  | .finite v _ => .finite (if v < 0 then -v else v) false
  | .infinity _ => .infinity false
  | .nan => .nan

/-- The order of two values; NaN is in no order with anything. -/
def lt : Binary64 → Binary64 → Bool
  | .finite a _, .finite b _ => decide (a < b)
  | .finite _ _, .infinity m => !m
  | .infinity n, .finite _ _ => n
  | .infinity n, .infinity m => n && !m
  | _, _ => false

/-- Numeric equality: a zero equals a zero of either sign, and NaN equals nothing. -/
def eqv : Binary64 → Binary64 → Bool
  | .finite a _, .finite b _ => decide (a = b)
  | .infinity n, .infinity m => n == m
  | _, _ => false

/-- The integer part, toward zero, and the fraction of a finite value. -/
def splitFraction (v : Rat) : Int × Rat :=
  let i : Int := if v < 0 then -((-v).floor) else v.floor
  (i, v - i)

/-- The number of decimal digits of a positive number. -/
def decimalLength (n : Nat) : Nat := (Nat.toDigits 10 n).length

/-- The decimal exponent `E` with `10 ^ E ≤ a / b < 10 ^ (E + 1)`, for positive `a` and `b`. -/
def floorLog10 (a b : Nat) : Int :=
  let t : Int := (decimalLength a : Int) - (decimalLength b : Int)
  let below : Bool :=
    if 0 ≤ t then decide (a < b * Nat.pow 10 t.toNat) else decide (a * Nat.pow 10 (-t).toNat < b)
  if below then t - 1 else t

/-- The value `n · 10 ^ e`. -/
def decimalValue (n : Nat) (e : Int) : Rat :=
  if 0 ≤ e then ((n * Nat.pow 10 e.toNat : Nat) : Rat)
  else (n : Rat) / ((Nat.pow 10 (-e).toNat : Nat) : Rat)

/-- The shortest digits (with the exponent of their last digit) of a positive finite value `v`:
for 1, 2, … 17 digits, the two neighbours of `v` on that decimal grid are tried, and the first
grid with a neighbour that rounds back to `v` gives the nearer such neighbour. -/
def shortestDigits (v : Rat) : Nat × Int :=
  let a := v.num.natAbs
  let b := v.den
  let top := floorLog10 a b
  let x := round v
  let attempt (k : Nat) : Option (Nat × Int) :=
    let e : Int := top - k + 1
    -- lo = floor (v / 10 ^ e)
    let lo : Nat :=
      if 0 ≤ e then a / (b * Nat.pow 10 e.toNat) else (a * Nat.pow 10 (-e).toNat) / b
    let hi := lo + 1
    let okLo := lo ≠ 0 && round (decimalValue lo e) == x
    let okHi := round (decimalValue hi e) == x
    if okLo && okHi then
      let dLo := v - decimalValue lo e
      let dHi := decimalValue hi e - v
      if dLo < dHi ∨ (dLo = dHi ∧ lo % 2 = 0) then some (lo, e) else some (hi, e)
    else if okLo then some (lo, e)
    else if okHi then some (hi, e)
    else none
  match (List.range 17).findSome? (fun k => attempt (k + 1)) with
  | some r => r
  | none => (a / b, 0)

/-- Drops the trailing zeros of a digit run, raising its exponent. -/
def stripZeros (n : Nat) (e : Int) (fuel : Nat := 400) : Nat × Int :=
  match fuel with
  | 0 => (n, e)
  | fuel + 1 => if n ≠ 0 ∧ n % 10 = 0 then stripZeros (n / 10) (e + 1) fuel else (n, e)

/-- The text of a positive finite value: shortest digits, positional when the decimal exponent
of the leading digit is between -5 and 15, and otherwise `d.ddde±XX`. -/
def positiveText (v : Rat) : String :=
  let (n, e) := shortestDigits v
  let (n, e) := stripZeros n e
  let ds := Nat.toDigits 10 n
  let len := ds.length
  -- the value is 0.ds × 10 ^ point
  let point : Int := e + len
  if point ≤ -4 ∨ 16 < point then
    let exp := point - 1
    let mant := match ds with
      | [] => "0"
      | [d] => String.singleton d
      | d :: rest => String.singleton d ++ "." ++ String.ofList rest
    let expDigits := Nat.toDigits 10 exp.natAbs
    let expText := if expDigits.length < 2 then "0" ++ String.ofList expDigits
      else String.ofList expDigits
    mant ++ "e" ++ (if exp < 0 then "-" else "+") ++ expText
  else if point ≤ 0 then
    "0." ++ String.ofList (List.replicate (-point).toNat '0') ++ String.ofList ds
  else if len ≤ point.toNat then
    String.ofList ds ++ String.ofList (List.replicate (point.toNat - len) '0') ++ ".0"
  else
    String.ofList (ds.take point.toNat) ++ "." ++ String.ofList (ds.drop point.toNat)

/-- The shortest text of a value; infinities and NaN are written `inf`, `-inf` and `nan`. -/
def text : Binary64 → String
  | .finite v z =>
    if v = 0 then (if z then "-0.0" else "0.0")
    else if v < 0 then "-" ++ positiveText (-v) else positiveText v
  | .infinity n => if n then "-inf" else "inf"
  | .nan => "nan"

end Binary64

end JavaBuild
