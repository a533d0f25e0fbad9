import JavaBuild.Host
import JavaBuild.Data.Json
import JavaBuild.Data.Assoc
import JavaBuild.Text.Digit
import JavaBuild.Text.Blank
import JavaBuild.Data.Timsort

/-!
# Values of a stored record

A build status record is read back from a JSON file that anyone may have changed, so each field
may hold a value of any kind. The reader takes each field as a dynamic value would be taken, and
a value it cannot use is a `Fault`:

- a missing member is `missingKey`, a value of a kind that the use does not accept is
  `wrongType`, a text that is not a number is `wrongValue`, and a value without the operation that
  is asked of it (an object's members, asked of a list) is `noAttribute`;
- a time is a number, a truth value (1 or 0) or a decimal text (`Stored.seconds`);
- a sequence is read from a list (its items), a text (its characters) or an object (its member
  names) (`Stored.items`);
- a value shown as text is a text as it is, and anything else as its literal (`Stored.display`);
- values are equal when they are numbers of the same value, equal texts, or lists or objects of
  equal items (`Stored.same`), and are ordered when both are numbers, both texts, or both lists,
  the first items that differ deciding (`Stored.lessThan`); any other pair cannot be ordered,
  and a sequence is sorted by the merge sort of `Timsort`, which names the first pair it could
  not order (`Stored.sort`);
- a value is false when it is null, false, zero or empty (`Stored.truthy`); lists and objects
  cannot be members of a set (`Stored.setOf`).

A fault other than `noAttribute` marks a corrupted record, which the reader ignores with a
warning; `noAttribute` ends the build.
-/

namespace JavaBuild.Change

/-- Why a stored value cannot be used. -/
inductive Fault where
  /-- An object lacks a member. -/
  | missingKey (key : String)
  /-- A value of a kind that the use does not accept. -/
  | wrongType (message : String)
  /-- A text that does not spell the value asked for. -/
  | wrongValue (message : String)
  /-- A value lacks an operation asked of it. -/
  | noAttribute (message : String)
  /-- A number beyond the range of binary64. -/
  | overflow (message : String)
deriving DecidableEq, Repr

namespace Fault

/-- The name of the kind of fault. -/
def kind : Fault → String
  | .missingKey _ => "KeyError"
  | .wrongType _ => "TypeError"
  | .wrongValue _ => "ValueError"
  | .noAttribute _ => "AttributeError"
  | .overflow _ => "OverflowError"

/-- The description of a fault; a missing member is shown by its quoted name. -/
def message : Fault → String
  | .missingKey k => Text.literal k
  | .wrongType m => m
  | .wrongValue m => m
  | .noAttribute m => m
  | .overflow m => m

/-- Whether the fault shows a corrupted record, which the reader ignores. -/
def isCorruption : Fault → Bool
  | .missingKey _ => true
  | .wrongType _ => true
  | .wrongValue _ => true
  | _ => false

/-- The fault as a failure of the build. -/
def failure (f : Fault) : Failure := .badData f.kind f.message

end Fault

namespace Stored

/-- The name of the kind of a value. -/
def kindName : Json → String
  | .null => "NoneType"
  | .bool _ => "bool"
  | .int _ => "int"
  | .float _ => "float"
  | .str _ => "str"
  | .arr _ => "list"
  | .obj _ => "dict"

mutual
/-- The literal of a value: texts quoted, `None`, `True`, `False`, lists in brackets and objects
in braces. -/
def literal : Json → String
  | .null => "None"
  | .bool b => if b then "True" else "False"
  | .int n => Json.intText n
  | .float x => x.text
  | .str s => Text.literal s
  | .arr items => "[" ++ itemLiterals items ++ "]"
  | .obj ms => "\x7b" ++ memberLiterals ms ++ "\x7d"

/-- The literals of items, separated by commas. -/
def itemLiterals : List Json → String
  | [] => ""
  | [x] => literal x
  | x :: rest => literal x ++ ", " ++ itemLiterals rest

/-- The literals of members, `name: value`, separated by commas. -/
def memberLiterals : List (String × Json) → String
  | [] => ""
  | [(k, v)] => Text.literal k ++ ": " ++ literal v
  | (k, v) :: rest => Text.literal k ++ ": " ++ literal v ++ ", " ++ memberLiterals rest
end

/-- A value shown as text: a text as it is, anything else as its literal. -/
def display : Json → String
  | .str s => s
  | j => literal j


/-- An optional sign and the rest. -/
def splitSign (cs : List Char) : Bool × List Char :=
  match cs with
  | '-' :: rest => (true, rest)
  | '+' :: rest => (false, rest)
  | _ => (false, cs)

/-- The exponent of a decimal: an optional sign and grouped digits. -/
def exponentOf (cs : List Char) : Option Int :=
  let (neg, rest) := splitSign cs
  (Text.groupedDigits rest).map fun ds =>
    if neg then -(Text.digitsNumber ds : Int) else Text.digitsNumber ds

/-- The digits of a significand, whole part then fraction, and the length of the fraction. -/
def significandOf (cs : List Char) : Option (List Nat × Nat) :=
  match cs.splitOn '.' with
  | [whole] => (Text.groupedDigits whole).map fun ds => (ds, 0)
  | [whole, frac] =>
    if whole.isEmpty && frac.isEmpty then none
    else do
      let w ← if whole.isEmpty then some [] else Text.groupedDigits whole
      let f ← if frac.isEmpty then some [] else Text.groupedDigits frac
      pure (w ++ f, f.length)
  | _ => none

/-- The binary64 value nearest to `m · 10 ^ k`; `len` is the number of digits of `m`, which
bounds the magnitude so that huge exponents need no huge powers. -/
def scaledDecimal (neg : Bool) (m : Nat) (len : Nat) (k : Int) : Binary64 :=
  if m = 0 || (len : Int) + k < -400 then .finite 0 neg
  else if k > 400 then .infinity neg
  else
    let q : Rat := if 0 ≤ k then ((m * Nat.pow 10 k.toNat : Nat) : Rat)
      else (m : Rat) / ((Nat.pow 10 (-k).toNat : Nat) : Rat)
    Binary64.round (if neg then -q else q)

/-- The number a decimal text spells: blanks around it, an optional sign, then `inf`,
`infinity` or `nan` in any case, or a significand with an optional exponent. -/
def decimal? (s : String) : Option Binary64 :=
  let (neg, body) := splitSign (Text.trim s.toList)
  let lower := String.ofList (body.map Char.toLower)
  if lower == "inf" || lower == "infinity" then some (.infinity neg)
  else if lower == "nan" then some .nan
  else
    let (mant, expo) := match body.splitOn 'e' with
      | [m] => match m.splitOn 'E' with
        | [m'] => (m', some [])
        | [m', e] => (m', some e)
        | _ => ([], none)
      | [m, e] => if m.contains 'E' then ([], none) else (m, some e)
      | _ => ([], none)
    match expo with
    | none => none
    | some e => do
      let (ds, fracLength) ← significandOf mant
      let k ← if e.isEmpty && !(body.contains 'e' || body.contains 'E') then some 0
        else exponentOf e
      pure (scaledDecimal neg (Text.digitsNumber ds) ds.length (k - fracLength))

/-- The largest finite binary64 value, exclusive of what rounds to it: integers from here on
round to an infinity. -/
def overflowBound : Int := Int.pow 2 1024 - Int.pow 2 970

/-- An integer as the nearest binary64 value; one that would round to an infinity is a
fault. -/
def intToFloat (n : Int) : Except Fault Binary64 :=
  if n.natAbs ≥ overflowBound.toNat then .error (.overflow "int too large to convert to float")
  else .ok (Binary64.ofInt n)

/-- A stored value taken as a number of seconds. -/
def seconds (j : Json) : Except Fault Binary64 :=
  match j with
  | .int n => intToFloat n
  | .float x => .ok x
  | .bool b => .ok (Binary64.ofInt (if b then 1 else 0))
  | .str s =>
    match decimal? s with
    | some x => .ok x
    | none => .error (.wrongValue s!"could not convert string to float: {Text.literal s}")
  | j => .error (.wrongType
      s!"float() argument must be a string or a real number, not {Text.literal (kindName j)}")

/-- The items of a stored sequence: a list's items, a text's characters, an object's names. -/
def items (j : Json) : Except Fault (List Json) :=
  match j with
  | .arr xs => .ok xs
  | .str s => .ok (s.toList.map fun c => .str (String.singleton c))
  | .obj ms => .ok (ms.map fun m => .str m.1)
  | j => .error (.wrongType s!"{Text.literal (kindName j)} object is not iterable")

/-- The member of a stored object that a use asks for by name. -/
def member (j : Json) (key : String) : Except Fault Json :=
  match j with
  | .obj ms =>
    match ms.lookup key with
    | some v => .ok v
    | none => .error (.missingKey key)
  | .arr _ => .error (.wrongType "list indices must be integers or slices, not str")
  | .str _ => .error (.wrongType "string indices must be integers, not 'str'")
  | j => .error (.wrongType s!"{Text.literal (kindName j)} object is not subscriptable")

/-- The members of a stored object, which a use asks for by name of the operation. -/
def members (j : Json) (operation : String) : Except Fault (List (String × Json)) :=
  match j with
  | .obj ms => .ok ms
  | j => .error (.noAttribute
      s!"{Text.literal (kindName j)} object has no attribute {Text.literal operation}")

/-- The exact value of a number or truth value. -/
def numberValue? : Json → Option Rat
  | .int n => some n
  | .bool b => some (if b then 1 else 0)
  | .float (.finite v _) => some v
  | _ => none

/-- A number or truth value as a binary64 value that keeps an integer exact, so that numbers of
either kind compare by their exact values. -/
def numberOf? : Json → Option Binary64
  | .int n => some (.finite n false)
  | .bool b => some (.finite (if b then 1 else 0) false)
  | .float x => some x
  | _ => none

mutual
/-- Whether two stored values are equal as members of a sequence or a set: numbers and truth
values by value, texts by their characters, lists item by item and objects member by member.
A NaN equals a NaN here, since all NaNs of a record are the one value that reading gives and a
value is always a member of a sequence that holds it. -/
def same : Json → Json → Bool
  | .str s, .str t => s == t
  | .null, .null => true
  | .arr xs, .arr ys => sameItems xs ys
  | .obj ms, .obj ns => ms.length == ns.length && sameMembers ms ns
  | a, b =>
    match numberOf? a, numberOf? b with
    | some .nan, some .nan => true
    | some x, some y => x.eqv y
    | _, _ => false

/-- Whether two lists have equal items at every place. -/
def sameItems : List Json → List Json → Bool
  | [], [] => true
  | x :: xs, y :: ys => same x y && sameItems xs ys
  | _, _ => false

/-- Whether every member of the first object has an equal member of the same name in the
second. -/
def sameMembers (ms : List (String × Json)) (ns : List (String × Json)) : Bool :=
  match ms with
  | [] => true
  | (k, v) :: rest =>
    (match ns.lookup k with
      | some w => same v w
      | none => false) && sameMembers rest ns
end

/-- Whether two stored values are equal when compared on their own: as `same`, except that a
NaN equals nothing. -/
def equal (a b : Json) : Bool :=
  match a, b with
  | .float .nan, _ | _, .float .nan => false
  | a, b => same a b

/-- The fault of two values that cannot be ordered. -/
def unorderable (a b : Json) : Fault :=
  .wrongType s!"'<' not supported between instances of {Text.literal (kindName a)} and {Text.literal (kindName b)}"

mutual
/-- Whether the first stored value is less than the second: numbers and truth values by value
(NaN is less than nothing and nothing is less than it), texts by their characters, lists by their
first items that are not `same`, or by their lengths when one is a prefix of the other. -/
def lessThan : Json → Json → Except Fault Bool
  | .str s, .str t => .ok (Text.textLt s t)
  | .arr xs, .arr ys => itemsLessThan xs ys
  | a, b =>
    match numberOf? a, numberOf? b with
    | some x, some y => .ok (x.lt y)
    | _, _ => .error (unorderable a b)

/-- Whether the first list is less than the second. -/
def itemsLessThan : List Json → List Json → Except Fault Bool
  | [], [] => .ok false
  | [], _ :: _ => .ok true
  | _ :: _, [] => .ok false
  | x :: xs, y :: ys => if same x y then itemsLessThan xs ys else lessThan x y
end

/-- Stored items in ascending order, stable, or the fault of the first pair that the sort could
not order. -/
def sort (xs : List Json) : Except Fault (List Json) := Timsort.sortList lessThan xs

/-- Whether a stored value counts as true: all but null, false, zero numbers and empty texts,
lists and objects. -/
def truthy : Json → Bool
  | .null => false
  | .bool b => b
  | .int n => n != 0
  | .float x => !x.eqv (.finite 0 false)
  | .str s => !s.isEmpty
  | .arr xs => !xs.isEmpty
  | .obj ms => !ms.isEmpty

/-- Whether a stored value can be a member of a set: all but lists and objects. -/
def hashable : Json → Bool
  | .arr _ | .obj _ => false
  | _ => true

/-- The fault of a value that cannot be a member of a set. -/
def unhashable (j : Json) : Fault := .wrongType s!"unhashable type: {Text.literal (kindName j)}"

/-- The set of stored values: each once, in the order of their first appearance. -/
def setOf (xs : List Json) : Except Fault (List Json) :=
  xs.foldlM (fun acc x =>
    if !hashable x then .error (unhashable x)
    else .ok (if acc.any (same x) then acc else acc ++ [x])) []

/-- Whether a stored value is a member of a set. -/
def memberOf (x : Json) (set : List Json) : Except Fault Bool :=
  if hashable x then .ok (set.any (same x)) else .error (unhashable x)

/-- A stored value followed by a text: only a text can be. -/
def plusText (j : Json) (suffix : String) : Except Fault String :=
  match j with
  | .str s => .ok (s ++ suffix)
  | .arr _ => .error (.wrongType "can only concatenate list (not \"str\") to list")
  | j => .error (.wrongType
      s!"unsupported operand type(s) for +: {Text.literal (kindName j)} and 'str'")

/-- A text followed by a stored value: only a text can be. -/
def textPlus (pre : String) (j : Json) : Except Fault String :=
  match j with
  | .str s => .ok (pre ++ s)
  | j => .error (.wrongType s!"can only concatenate str (not \"{kindName j}\") to str")

/-- The texts of stored items, if all are texts. -/
def texts? (xs : List Json) : Option (List String) :=
  xs.mapM fun
    | .str s => some s
    | _ => none

/-- Whether a stored value is the format number one: `1`, `1.0` or `true`. -/
def isOne : Json → Bool
  | .int n => n == 1
  | .float x => x.eqv (Binary64.ofInt 1)
  | .bool b => b
  | _ => false

end Stored

end JavaBuild.Change
