/-!
# Lone surrogates

A JSON text may escape a surrogate code unit that no other unit pairs with, such as `\ud800`.
Such a unit is no character, yet a text read from JSON keeps it: it is compared, shown and
written back as it was read. A text here holds each lone surrogate as a stand-in character: the
2048 surrogates U+D800 to U+DFFF map, in order, onto the last 2048 code points of the last
private-use plane, U+10F800 to U+10FFFF. Whatever writes a text out as an escape (JSON strings,
literals in messages) writes a stand-in back as the escape of its surrogate, and texts are put in
order by code points with a stand-in at the place of its surrogate (`textLt`). A path holding a
stand-in cannot be given to the system unless the stand-in is that of an escaped byte
(`unwritable?`).
-/

namespace JavaBuild.Text

/-- The first surrogate code unit. -/
def surrogateFirst : Nat := 0xD800

/-- The code point of the stand-in of the first surrogate. -/
def standInFirst : Nat := 0x10F800

/-- Whether a code unit is a surrogate. -/
def isSurrogate (u : Nat) : Bool := surrogateFirst ≤ u && u < surrogateFirst + 0x800

/-- The character that stands for a surrogate code unit. -/
def surrogateStandIn (u : Nat) : Char := Char.ofNat (standInFirst + (u - surrogateFirst))

/-- The surrogate code unit that a character stands for, if it is a stand-in. -/
def standInSurrogate? (c : Char) : Option Nat :=
  if standInFirst ≤ c.toNat then some (c.toNat - standInFirst + surrogateFirst) else none

/-- Whether a surrogate stands for a byte of a name that was not UTF-8: U+DC80 to U+DCFF stand
for the bytes 0x80 to 0xFF, and only they can be written back to the system. -/
def isEscapedByte (u : Nat) : Bool := 0xDC80 ≤ u && u ≤ 0xDCFF

/-- The first stretch of a text that cannot be written to the system, as character positions
from and to: from the first stand-in that is no escaped byte to the end of the run of stand-ins
that holds it. -/
def unwritable? (s : String) : Option (Nat × Nat) :=
  go s.toList 0
where
  /-- The end of the run of stand-ins from position `i`. -/
  runEnd : List Char → Nat → Nat
    | c :: rest, i => if (standInSurrogate? c).isSome then runEnd rest (i + 1) else i
    | [], i => i
  go : List Char → Nat → Option (Nat × Nat)
    | [], _ => none
    | c :: rest, i =>
      match standInSurrogate? c with
      | some u => if isEscapedByte u then go rest (i + 1) else some (i, runEnd rest (i + 1))
      | none => go rest (i + 1)

/-- The code point a character stands for: a stand-in's surrogate, any other its own. -/
def codePoint (c : Char) : Nat := (standInSurrogate? c).getD c.toNat

/-- Whether the first list of characters comes before the second in the order of their code
points, a stand-in at the place of its surrogate. -/
def codesLt : List Char → List Char → Bool
  | [], [] => false
  | [], _ :: _ => true
  | _ :: _, [] => false
  | a :: as, b :: bs => if codePoint a == codePoint b then codesLt as bs else codePoint a < codePoint b

/-- Whether the first text comes before the second in the order of code points. -/
def textLt (a b : String) : Bool := codesLt a.toList b.toList

/-- Whether the first text comes before the second or is equal to it, in the order of code
points. -/
def textLe (a b : String) : Bool := !textLt b a

/-- A valid code point is the code of the character made from it. -/
theorem toNat_ofNat_of_valid (n : Nat) (h : n.isValidChar) : (Char.ofNat n).toNat = n := by
  rw [Char.ofNat, dif_pos h]
  rfl

/-- A surrogate read into a text is written back as itself. -/
theorem standInSurrogate?_surrogateStandIn (u : Nat) (h : isSurrogate u = true) :
    standInSurrogate? (surrogateStandIn u) = some u := by
  unfold isSurrogate surrogateFirst at h
  rw [Bool.and_eq_true] at h
  have h1 := of_decide_eq_true h.1
  have h2 := of_decide_eq_true h.2
  have hv : (standInFirst + (u - surrogateFirst)).isValidChar := by
    right; unfold standInFirst surrogateFirst; omega
  rw [standInSurrogate?, surrogateStandIn, toNat_ofNat_of_valid _ hv, if_pos (by omega)]
  unfold standInFirst surrogateFirst
  congr 1
  omega

end JavaBuild.Text
