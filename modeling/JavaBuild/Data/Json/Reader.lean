import JavaBuild.Data.Json

/-!
# Reading JSON

`Json.parse` reads a JSON text. Besides the grammar of RFC 8259 it accepts `NaN`, `Infinity` and
`-Infinity`; an object that names a member twice keeps the later value at the earlier place.
Blanks between tokens are spaces, tabs, line feeds and carriage returns only.

A text that is not JSON gives a `SyntaxError`: what was expected and the character offset where
reading stopped. Its message adds the line and column: `Expecting value: line 1 column 1 (char 0)`.
A number has an integer part without leading zeros, then optionally a fraction and an exponent;
a fraction or exponent that is not followed by a digit ends the number before it.
-/

namespace JavaBuild.Json

/-- Where and why a text is not JSON. -/
structure SyntaxError where
  reason : String
  offset : Nat
deriving DecidableEq, Repr

/-- A JSON blank. -/
def isJsonBlank (c : Char) : Bool := c == ' ' || c == '\t' || c == '\n' || c == '\r'

/-- The offset of the first non-blank at or after `i`. -/
def skipBlanks (s : Array Char) (i : Nat) : Nat :=
  if h : i < s.size then
    if isJsonBlank s[i] then skipBlanks s (i + 1) else i
  else i
termination_by s.size - i

/-- The character at offset `i`, or NUL past the end. -/
def at! (s : Array Char) (i : Nat) : Char := s.getD i '\x00'

/-- Whether the text at offset `i` starts with `w`. -/
def hasAt (s : Array Char) (i : Nat) (w : String) : Bool :=
  (List.range w.length).all fun k => i + k < s.size && at! s (i + k) == w.toList.getD k ' '

/-- The value of a hexadecimal digit. -/
def hexValue? (c : Char) : Option Nat :=
  if '0' ≤ c ∧ c ≤ '9' then some (c.toNat - 48)
  else if 'a' ≤ c ∧ c ≤ 'f' then some (c.toNat - 87)
  else if 'A' ≤ c ∧ c ≤ 'F' then some (c.toNat - 55)
  else none

/-- The code unit spelled by four hexadecimal digits at offset `i`. -/
def hex4At? (s : Array Char) (i : Nat) : Option Nat :=
  (List.range 4).foldl (fun acc k => do
    let v ← acc
    let d ← hexValue? (at! s (i + k))
    pure (16 * v + d)) (some 0)

/-- The character of a one-letter escape. -/
def simpleEscape? : Char → Option Char
  | '"' => some '"'
  | '\\' => some '\\'
  | '/' => some '/'
  | 'b' => some '\x08'
  | 'f' => some '\x0c'
  | 'n' => some '\n'
  | 'r' => some '\r'
  | 't' => some '\t'
  | _ => none

/-- A character from a code point; a lone surrogate becomes its stand-in. -/
def charOfCode (n : Nat) : Char :=
  if Text.isSurrogate n then Text.surrogateStandIn n else Char.ofNat n

/-- Reads the rest of a string whose opening quote is at `begin`, from offset `j`. -/
def scanString (s : Array Char) (begin j : Nat) (acc : List Char) :
    Except SyntaxError (String × Nat) :=
  if h : j < s.size then
    let c := s[j]
    if c == '"' then .ok (String.ofList acc.reverse, j + 1)
    else if c == '\\' then
      if j + 1 < s.size then
        let e := at! s (j + 1)
        if e == 'u' then
          if s.size ≤ j + 6 then .error ⟨"Invalid \\uXXXX escape", j + 1⟩
          else
            match hex4At? s (j + 2) with
            | none => .error ⟨"Invalid \\uXXXX escape", j + 1⟩
            | some u =>
              if 0xD800 ≤ u ∧ u < 0xDC00 ∧ j + 12 < s.size ∧ at! s (j + 6) == '\\' ∧
                  at! s (j + 7) == 'u' then
                match hex4At? s (j + 8) with
                | none => .error ⟨"Invalid \\uXXXX escape", j + 7⟩
                | some u2 =>
                  if 0xDC00 ≤ u2 ∧ u2 < 0xE000 then
                    scanString s begin (j + 12)
                      (Char.ofNat (0x10000 + (u - 0xD800) * 1024 + (u2 - 0xDC00)) :: acc)
                  else scanString s begin (j + 6) (charOfCode u :: acc)
              else scanString s begin (j + 6) (charOfCode u :: acc)
        else
          match simpleEscape? e with
          | some c' => scanString s begin (j + 2) (c' :: acc)
          | none => .error ⟨"Invalid \\escape", j⟩
      else .error ⟨"Unterminated string starting at", begin⟩
    else if c.toNat ≤ 0x1F then .error ⟨"Invalid control character at", j⟩
    else scanString s begin (j + 1) (c :: acc)
  else .error ⟨"Unterminated string starting at", begin⟩
termination_by s.size - j

/-- The offset after the ASCII digits that start at `i`. -/
def skipDigits (s : Array Char) (i : Nat) : Nat :=
  if h : i < s.size then
    if '0' ≤ s[i] ∧ s[i] ≤ '9' then skipDigits s (i + 1) else i
  else i
termination_by s.size - i

/-- The number spelled by the ASCII digits from `i` to `j`. -/
def digitsBetween (s : Array Char) (i j : Nat) : Nat :=
  ((s.extract i j).toList).foldl (fun n c => 10 * n + (c.toNat - 48)) 0

/-- The end of the integer part of a number whose first digit is at `p`: the digit `0` alone,
or a digit from 1 to 9 and the digits after it. -/
def intEnd? (s : Array Char) (p : Nat) : Option Nat :=
  let c := at! s p
  if p < s.size ∧ '1' ≤ c ∧ c ≤ '9' then some (skipDigits s (p + 1))
  else if p < s.size ∧ c == '0' then some (p + 1)
  else none

/-- The end of the fraction of a number whose integer part ends at `q`: a point and at least one
digit. -/
def fracEnd? (s : Array Char) (q : Nat) : Option Nat :=
  if q + 1 < s.size ∧ at! s q == '.' ∧ '0' ≤ at! s (q + 1) ∧ at! s (q + 1) ≤ '9' then
    some (skipDigits s (q + 2))
  else none

/-- Where the digits of the exponent of a number whose mantissa ends at `r` start and end, and
whether it is negative: `e` or `E`, an optional sign, and at least one digit. -/
def expPart? (s : Array Char) (r : Nat) : Option (Nat × Nat × Bool) :=
  if r + 1 < s.size ∧ (at! s r == 'e' ∨ at! s r == 'E') then
    let sgn := r + 1 < s.size ∧ r + 2 < s.size + 1 ∧ (at! s (r + 1) == '-' ∨ at! s (r + 1) == '+')
    let d := if r + 2 ≤ s.size ∧ sgn then r + 2 else r + 1
    let e := skipDigits s d
    if d < e then some (d, e, at! s (r + 1) == '-') else none
  else none

/-- A number from its sign, its integer digits from `p` to `q`, the end of its fraction and its
exponent, with the offset after it: an integer when it has neither, else the nearest binary64
value. -/
def numberValue (s : Array Char) (neg : Bool) (p q : Nat) (frac : Option Nat)
    (exp : Option (Nat × Nat × Bool)) : Json × Nat :=
  let intVal := digitsBetween s p q
  match frac, exp with
  | none, none => (.int (if neg then -(intVal : Int) else intVal), q)
  | _, _ =>
    let fracDigits := match frac with
      | some f => (f - (q + 1), digitsBetween s (q + 1) f)
      | none => (0, 0)
    let mant := intVal * Nat.pow 10 fracDigits.1 + fracDigits.2
    let (expVal, stop) := match exp with
      | some (d, e, negExp) =>
        let v : Int := digitsBetween s d e
        ((if negExp then -v else v), e)
      | none => (0, frac.getD q)
    let e10 : Int := expVal - fracDigits.1
    let q : Rat := Binary64.decimalValue mant e10
    let x := Binary64.round (if neg then -q else q)
    let x := match x with
      | .finite 0 _ => .finite 0 neg
      | x => x
    (.float x, stop)

/-- Reads a number at offset `i`: `none` if no number starts there. -/
def scanNumber (s : Array Char) (i : Nat) : Option (Json × Nat) :=
  let neg := at! s i == '-'
  let p := if neg then i + 1 else i
  if neg ∧ s.size ≤ p then none
  else
    match intEnd? s p with
    | none => none
    | some q =>
      let frac := fracEnd? s q
      some (numberValue s neg p q frac (expPart? s (frac.getD q)))

/-- Reads one value at offset `i`, with `fuel` bounding the nesting and the number of items. -/
def parseValue (fuel : Nat) (s : Array Char) (i : Nat) : Except SyntaxError (Json × Nat) :=
  match fuel with
  | 0 => .error ⟨"Expecting value", i⟩
  | fuel + 1 =>
    let c := at! s i
    if s.size ≤ i then .error ⟨"Expecting value", i⟩
    else if c == '"' then (scanString s i (i + 1) []).map fun (t, j) => (.str t, j)
    else if c == '{' then parseMembers fuel s (skipBlanks s (i + 1)) [] true
    else if c == '[' then parseItems fuel s (skipBlanks s (i + 1)) [] true
    else if c == 'n' ∧ i + 3 < s.size ∧ hasAt s i "null" then .ok (.null, i + 4)
    else if c == 't' ∧ i + 3 < s.size ∧ hasAt s i "true" then .ok (.bool true, i + 4)
    else if c == 'f' ∧ i + 4 < s.size ∧ hasAt s i "false" then .ok (.bool false, i + 5)
    else if c == 'N' ∧ i + 2 < s.size ∧ hasAt s i "NaN" then .ok (.float .nan, i + 3)
    else if c == 'I' ∧ i + 7 < s.size ∧ hasAt s i "Infinity" then
      .ok (.float (.infinity false), i + 8)
    else if c == '-' ∧ i + 8 < s.size ∧ hasAt s i "-Infinity" then
      .ok (.float (.infinity true), i + 9)
    else
      match scanNumber s i with
      | some r => .ok r
      | none => .error ⟨"Expecting value", i⟩
where
  /-- Reads the members of an object from offset `i` (after the brace or a comma). -/
  parseMembers (fuel : Nat) (s : Array Char) (i : Nat) (acc : List (String × Json))
      (first : Bool) : Except SyntaxError (Json × Nat) :=
    match fuel with
    | 0 => .error ⟨"Expecting value", i⟩
    | fuel + 1 =>
      if first ∧ at! s i == '}' ∧ i < s.size then .ok (.obj acc, i + 1)
      else if s.size ≤ i ∨ at! s i != '"' then
        .error ⟨"Expecting property name enclosed in double quotes", i⟩
      else do
        let (key, j) ← scanString s i (i + 1) []
        let j := skipBlanks s j
        if s.size ≤ j ∨ at! s j != ':' then .error ⟨"Expecting ':' delimiter", j⟩
        else
          let (v, k) ← parseValue fuel s (skipBlanks s (j + 1))
          let k := skipBlanks s k
          let acc := setMember acc key v
          if k < s.size ∧ at! s k == '}' then .ok (.obj acc, k + 1)
          else if s.size ≤ k ∨ at! s k != ',' then .error ⟨"Expecting ',' delimiter", k⟩
          else parseMembers fuel s (skipBlanks s (k + 1)) acc false
  /-- Reads the items of an array from offset `i` (after the bracket or a comma). -/
  parseItems (fuel : Nat) (s : Array Char) (i : Nat) (acc : List Json) (first : Bool) :
      Except SyntaxError (Json × Nat) :=
    match fuel with
    | 0 => .error ⟨"Expecting value", i⟩
    | fuel + 1 =>
      if first ∧ at! s i == ']' ∧ i < s.size then .ok (.arr acc.reverse, i + 1)
      else do
        let (v, k) ← parseValue fuel s i
        let k := skipBlanks s k
        if k < s.size ∧ at! s k == ']' then .ok (.arr (v :: acc).reverse, k + 1)
        else if s.size ≤ k ∨ at! s k != ',' then .error ⟨"Expecting ',' delimiter", k⟩
        else parseItems fuel s (skipBlanks s (k + 1)) (v :: acc) false

/-- Reads a whole JSON text: one value, with blanks around it. -/
def parse (text : String) : Except SyntaxError Json := do
  let s := text.toList.toArray
  if at! s 0 == '\uFEFF' ∧ 0 < s.size then
    throw ⟨"Unexpected UTF-8 BOM (decode using utf-8-sig)", 0⟩
  let (v, j) ← parseValue (2 * s.size + 2) s (skipBlanks s 0)
  let k := skipBlanks s j
  if k ≠ s.size then throw ⟨"Extra data", k⟩
  pure v

/-- The message of a syntax error in `text`, with its line and column. -/
def SyntaxError.message (e : SyntaxError) (text : String) : String :=
  let before := text.toList.take e.offset
  let line := before.count '\n' + 1
  let column := match (before.reverse.findIdx? (· == '\n')) with
    | some k => k + 1
    | none => e.offset + 1
  s!"{e.reason}: line {line} column {column} (char {e.offset})"

end JavaBuild.Json
