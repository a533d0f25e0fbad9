/-!
# Character sets of one byte a character

A `Charset` gives the character of each of the 256 byte values; U+FFFD stands for a byte that
has no character. Most sets agree with ASCII on the bytes below 0x80 and are given by the
characters of the bytes 0x80 to 0xFF (`Charset.ofHigh`); the others by all 256 characters
(`Charset.ofAll`).
-/

namespace JavaBuild

/-- The character of each byte value, U+FFFD for a byte without one. -/
structure Charset where
  chars : Array Char

namespace Charset

/-- The mark of a byte without a character. -/
def missing : Char := Char.ofNat 0xFFFD

/-- A character set that is ASCII below 0x80 and has the given characters from 0x80 up. -/
def ofHigh (high : String) : Charset :=
  ⟨((List.range 128).map Char.ofNat ++ high.toList).toArray⟩

/-- A character set given by the characters of all 256 bytes. -/
def ofAll (all : String) : Charset := ⟨all.toList.toArray⟩

/-- The character of a byte, if it has one. -/
def charOf (cs : Charset) (b : UInt8) : Option Char :=
  match cs.chars[b.toNat]? with
  | some c => if c == missing then none else some c
  | none => none

/-- Decodes bytes, writing U+FFFD for each byte without a character. -/
def decodeLossy (cs : Charset) (bytes : ByteArray) : String :=
  String.ofList (bytes.toList.map fun b => (cs.charOf b).getD missing)

end Charset

end JavaBuild
