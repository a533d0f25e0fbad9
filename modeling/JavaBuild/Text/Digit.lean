/-!
# Decimal digits

The characters that count as decimal digits are those of the Unicode category of decimal
numbers: every script's digits come as a run of ten code points, from its zero to its nine, so
the table lists the zeros only. A digit's value is its distance from the zero of its run.
Release numbers and memory sizes accept any of these digits.
-/

namespace JavaBuild.Text

/-- The code point of the zero of every run of decimal digits, in ascending order. -/
def digitZeros : List Nat := [
  0x30, 0x660, 0x6F0, 0x7C0, 0x966, 0x9E6, 0xA66, 0xAE6, 0xB66, 0xBE6,
  0xC66, 0xCE6, 0xD66, 0xDE6, 0xE50, 0xED0, 0xF20, 0x1040, 0x1090, 0x17E0,
  0x1810, 0x1946, 0x19D0, 0x1A80, 0x1A90, 0x1B50, 0x1BB0, 0x1C40, 0x1C50, 0xA620,
  0xA8D0, 0xA900, 0xA9D0, 0xA9F0, 0xAA50, 0xABF0, 0xFF10, 0x104A0, 0x10D30, 0x11066,
  0x110F0, 0x11136, 0x111D0, 0x112F0, 0x11450, 0x114D0, 0x11650, 0x116C0, 0x11730, 0x118E0,
  0x11950, 0x11C50, 0x11D50, 0x11DA0, 0x16A60, 0x16AC0, 0x16B50, 0x1D7CE, 0x1D7D8, 0x1D7E2,
  0x1D7EC, 0x1D7F6, 0x1E140, 0x1E2F0, 0x1E950, 0x1FBF0]

/-- The value of a decimal digit, or `none` for another character. -/
def digitValue? (c : Char) : Option Nat :=
  (digitZeros.find? fun z => z ≤ c.toNat ∧ c.toNat < z + 10).map (c.toNat - ·)

/-- Whether a character is a decimal digit. -/
def isDigit (c : Char) : Bool := (digitValue? c).isSome

/-- The number that a run of decimal digits spells, most significant first. -/
def digitsValue (cs : List Char) : Nat :=
  cs.foldl (fun n c => 10 * n + (digitValue? c).getD 0) 0

/-- The digit values of a run of digits in which single underscores may stand between two
digits; `none` for anything else, the empty run included. -/
def groupedDigits (cs : List Char) : Option (List Nat) :=
  if cs.isEmpty || cs.head? == some '_' || cs.getLast? == some '_' then none
  else if (cs.zip cs.tail).any (fun (a, b) => a == '_' && b == '_') then none
  else (cs.filter (· != '_')).mapM digitValue?

/-- The number that digit values spell, most significant first. -/
def digitsNumber (ds : List Nat) : Nat := ds.foldl (fun n d => 10 * n + d) 0

/-- The most digits an integer text may have: longer texts are refused, which bounds the work
of reading one. -/
def maxIntegerDigits : Nat := 4300

/-- Why a run of `count` digits is not read as a number: it has more than `maxIntegerDigits`. -/
def digitLimitMessage (count : Nat) : String :=
  s!"Exceeds the limit ({maxIntegerDigits} digits) for integer string conversion: value has {count} digits; use sys.set_int_max_str_digits() to increase the limit"

/-- The integer a text spells: an optional sign and grouped digits, with blanks around
(`blank` tells which characters are blanks), and at most `maxIntegerDigits` digits. -/
def integerValue? (blank : Char → Bool) (s : String) : Option Int :=
  let cs := ((s.toList.dropWhile blank).reverse.dropWhile blank).reverse
  let (neg, body) := match cs with
    | '-' :: rest => (true, rest)
    | '+' :: rest => (false, rest)
    | _ => (false, cs)
  match groupedDigits body with
  | some ds =>
    if ds.length > maxIntegerDigits then none
    else some (if neg then -(digitsNumber ds : Int) else (digitsNumber ds : Int))
  | none => none

/-- The ASCII digits are decimal digits with their usual values. -/
theorem digitValue?_ascii (c : Char) (h : '0' ≤ c ∧ c ≤ '9') :
    digitValue? c = some (c.toNat - 48) := by
  obtain ⟨h1, h2⟩ := h
  have h1' : 48 ≤ c.toNat := h1
  have h2' : c.toNat ≤ 57 := h2
  simp [digitValue?, digitZeros, h1', show c.toNat < 58 by omega]

end JavaBuild.Text
