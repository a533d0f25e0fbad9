/-!
# Classes of characters for tokenizing

The tokenizer looks at a document one character (or one byte of a longer UTF-8 sequence, or
one 16-bit unit) at a time and cares only about its class: the markup characters each have
one, name characters are split by whether they may start a name, blanks and line ends are
apart, and the rest is `other`. A UTF-8 byte that starts a sequence of two, three or four bytes
is a `lead`, a byte that continues one a `trail`; characters that no document may hold are
`nonXml` or `malformed`.

Documents are read with namespaces, so the colon has a class of its own.
-/

namespace JavaBuild.Xml

/-- The class of a character, as the tokenizer tells them apart. -/
inductive ByteClass where
  | nonXml
  | malformed
  | lt
  | amp
  | rsqb
  | lead2
  | lead3
  | lead4
  | trail
  | cr
  | lf
  | gt
  | quot
  | apos
  | equals
  | quest
  | excl
  | sol
  | semi
  | num
  | lsqb
  | space
  | nameStart
  | colon
  | hex
  | digit
  | nameChar
  | minus
  | other
  | nonAscii
  | percent
  | lpar
  | rpar
  | ast
  | plus
  | comma
  | verbar
deriving DecidableEq, Repr, Inhabited

namespace ByteClass

/-- The class of an ASCII character. -/
def ofAscii (b : Nat) : ByteClass :=
  if b < 0x20 then
    if b == 0x09 then .space else if b == 0x0A then .lf else if b == 0x0D then .cr else .nonXml
  else if b == 0x20 then .space
  else if b ≥ 0x30 && b ≤ 0x39 then .digit
  else if (b ≥ 0x41 && b ≤ 0x46) || (b ≥ 0x61 && b ≤ 0x66) then .hex
  else if (b ≥ 0x47 && b ≤ 0x5A) || (b ≥ 0x67 && b ≤ 0x7A) || b == 0x5F then .nameStart
  else match b with
    | 0x21 => .excl
    | 0x22 => .quot
    | 0x23 => .num
    | 0x25 => .percent
    | 0x26 => .amp
    | 0x27 => .apos
    | 0x28 => .lpar
    | 0x29 => .rpar
    | 0x2A => .ast
    | 0x2B => .plus
    | 0x2C => .comma
    | 0x2D => .minus
    | 0x2E => .nameChar
    | 0x2F => .sol
    | 0x3A => .colon
    | 0x3B => .semi
    | 0x3C => .lt
    | 0x3D => .equals
    | 0x3E => .gt
    | 0x3F => .quest
    | 0x5B => .lsqb
    | 0x5D => .rsqb
    | 0x7C => .verbar
    | _ => .other

/-- The class of a Latin-1 character from 0x80 up: the letters start names, the middle dot
continues them, and `ª`, `µ` and `º` count as letters. -/
def ofLatin1High (b : Nat) : ByteClass :=
  if b == 0xAA || b == 0xB5 || b == 0xBA then .nameStart
  else if b == 0xB7 then .nameChar
  else if b ≥ 0xC0 && b != 0xD7 && b != 0xF7 then .nameStart
  else .other

/-- The class of a Latin-1 character. -/
def ofLatin1 (b : Nat) : ByteClass := if b < 0x80 then ofAscii b else ofLatin1High b

/-- The class of a UTF-8 byte from 0x80 up. -/
def ofUtf8High (b : Nat) : ByteClass :=
  if b < 0xC0 then .trail
  else if b < 0xE0 then .lead2
  else if b < 0xF0 then .lead3
  else if b < 0xF5 then .lead4
  else if b < 0xFE then .nonXml
  else .malformed

/-- Whether a character of this class stands for itself in every encoding: the markup
characters, name characters and line ends of ASCII. -/
def isSignificant (c : ByteClass) : Bool := c != .other && c != .nonXml

end ByteClass

end JavaBuild.Xml
