import JavaBuild.Xml.ByteClass
import JavaBuild.Xml.NameChar
import JavaBuild.Text.Charset
import JavaBuild.Text.Utf8

/-!
# Encodings of documents

A document is read in one of five kinds of encoding: UTF-8, Latin-1, ASCII (bytes from 0x80
are no characters), UTF-16 in either byte order, or a single-byte encoding given by a table
(`Encoding.ofCharset`, for the character sets registered by name). The tokenizer asks an
encoding for the class of the character at a byte offset, whether a UTF-8 sequence is valid
and whether it may start or continue a name; the reader asks it for the text of a range of
bytes and for the line and column of an offset.

UTF-16 is read in 16-bit units: a unit from 0xD800 to 0xDBFF starts a pair of four bytes
whatever unit follows it, a unit from 0xDC00 to 0xDFFF alone is no character, and units below
0x100 have the classes of Latin-1. A table encoding is accepted only if every byte below 0x80
whose ASCII character matters to markup stands for that character, no byte stands for another
such character, and no byte stands for a character beyond U+FFFF.
-/

namespace JavaBuild.Xml

/-- An encoding in which a document is read. -/
inductive Encoding where
  | utf8
  | latin1
  | ascii
  | utf16 (bigEndian : Bool)
  /-- A single-byte encoding given by the class and the character of each byte. -/
  | table (classes : Array ByteClass) (chars : Array Char)

namespace Encoding

/-- The number of bytes of the smallest character. -/
def unit : Encoding → Nat
  | .utf16 _ => 2
  | _ => 1

/-- Whether two encodings are the same: the built-in ones by kind; a table encoding is the same
as no other. -/
def same : Encoding → Encoding → Bool
  | .utf8, .utf8 | .latin1, .latin1 | .ascii, .ascii => true
  | .utf16 a, .utf16 b => a == b
  | _, _ => false

/-- The byte at an offset, as a number (0 past the end). -/
def byteAt (b : ByteArray) (p : Nat) : Nat := (b[p]?.getD 0).toNat

/-- The high and low byte of the 16-bit unit at an offset. -/
def unitAt (bigEndian : Bool) (b : ByteArray) (p : Nat) : Nat × Nat :=
  if bigEndian then (byteAt b p, byteAt b (p + 1)) else (byteAt b (p + 1), byteAt b p)

/-- The class of a 16-bit unit. -/
def classOfUnit (hi lo : Nat) : ByteClass :=
  if hi == 0 then ByteClass.ofLatin1 lo
  else if 0xD8 ≤ hi && hi ≤ 0xDB then .lead4
  else if 0xDC ≤ hi && hi ≤ 0xDF then .trail
  else if hi == 0xFF && (lo == 0xFE || lo == 0xFF) then .nonXml
  else .nonAscii

/-- The class of the character at an offset. -/
def classAt (e : Encoding) (b : ByteArray) (p : Nat) : ByteClass :=
  let x := byteAt b p
  match e with
  | .utf8 => if x < 0x80 then ByteClass.ofAscii x else ByteClass.ofUtf8High x
  | .latin1 => ByteClass.ofLatin1 x
  | .ascii => if x < 0x80 then ByteClass.ofAscii x else .nonXml
  | .utf16 big =>
    let (hi, lo) := unitAt big b p
    classOfUnit hi lo
  | .table classes _ => classes.getD x .malformed

/-- Whether the UTF-8 sequence of `n` bytes at an offset is no character: an overlong form, a
surrogate, U+FFFE, U+FFFF, a code point beyond U+10FFFF, or a byte that does not continue it. -/
def utf8Invalid (b : ByteArray) (p n : Nat) : Bool :=
  let b0 := byteAt b p
  let b1 := byteAt b (p + 1)
  let b2 := byteAt b (p + 2)
  let b3 := byteAt b (p + 3)
  let cont (x : Nat) : Bool := x &&& 0xC0 == 0x80
  match n with
  | 2 => b0 < 0xC2 || !cont b1
  | 3 =>
    b2 &&& 0x80 == 0 ||
    (if b0 == 0xEF && b1 == 0xBF then b2 > 0xBD else b2 &&& 0xC0 == 0xC0) ||
    (if b0 == 0xE0 then b1 < 0xA0 || b1 &&& 0xC0 == 0xC0
     else b1 &&& 0x80 == 0 || (if b0 == 0xED then b1 > 0x9F else b1 &&& 0xC0 == 0xC0))
  | 4 =>
    !cont b3 || !cont b2 ||
    (if b0 == 0xF0 then b1 < 0x90 || b1 &&& 0xC0 == 0xC0
     else b1 &&& 0x80 == 0 || (if b0 == 0xF4 then b1 > 0x8F else b1 &&& 0xC0 == 0xC0))
  | _ => false

/-- Whether the sequence of `n` bytes that a lead starts at an offset is no character. Only
UTF-8 checks its sequences. -/
def isInvalid (e : Encoding) (b : ByteArray) (p n : Nat) : Bool :=
  match e with
  | .utf8 => utf8Invalid b p n
  | _ => false

/-- The code point of a UTF-8 sequence of two or three bytes. -/
def utf8Code (b : ByteArray) (p n : Nat) : Nat :=
  if n == 2 then (byteAt b p &&& 0x1F) * 64 + (byteAt b (p + 1) &&& 0x3F)
  else (byteAt b p &&& 0x0F) * 4096 + (byteAt b (p + 1) &&& 0x3F) * 64 + (byteAt b (p + 2) &&& 0x3F)

/-- Whether the character of `n` bytes that a lead starts may start a name. Only UTF-8
sequences of two or three bytes can. -/
def leadStartsName (e : Encoding) (b : ByteArray) (p n : Nat) : Bool :=
  match e with
  | .utf8 => n < 4 && isNameStartCode (utf8Code b p n)
  | _ => false

/-- Whether the character of `n` bytes that a lead starts may continue a name. -/
def leadInName (e : Encoding) (b : ByteArray) (p n : Nat) : Bool :=
  match e with
  | .utf8 => n < 4 && isNameCode (utf8Code b p n)
  | _ => false

/-- The code point of the 16-bit unit at an offset (0 for other encodings). -/
def unitCode (e : Encoding) (b : ByteArray) (p : Nat) : Nat :=
  match e with
  | .utf16 big =>
    let (hi, lo) := unitAt big b p
    hi * 256 + lo
  | _ => 0

/-- Whether the unit at an offset, a character from U+0100 of UTF-16, may start a name. -/
def unitStartsName (e : Encoding) (b : ByteArray) (p : Nat) : Bool :=
  isNameStartCode (unitCode e b p)

/-- Whether the unit at an offset, a character from U+0100 of UTF-16, may continue a name. -/
def unitInName (e : Encoding) (b : ByteArray) (p : Nat) : Bool :=
  isNameCode (unitCode e b p)

/-- The ASCII code of the character at an offset: the byte itself in the single-byte
encodings and UTF-8, the low byte of a UTF-16 unit whose high byte is 0, and none otherwise. -/
def asciiAt (e : Encoding) (b : ByteArray) (p : Nat) : Option Nat :=
  match e with
  | .utf16 big =>
    let (hi, lo) := unitAt big b p
    if hi == 0 then some lo else none
  | _ => some (byteAt b p)

/-- Whether the character at an offset is the ASCII character `c`. -/
def isAsciiAt (e : Encoding) (b : ByteArray) (p : Nat) (c : Char) : Bool :=
  e.asciiAt b p == some c.toNat

/-- The characters of UTF-16 units from `p` to `q`: a unit from 0xD800 to 0xDBFF takes the
next unit with it into one character beyond U+FFFF. -/
def utf16Chars (big : Bool) (b : ByteArray) (p q : Nat) : Nat → List Char
  | 0 => []
  | fuel + 1 =>
    if q < p + 2 then []
    else
      let (hi, lo) := unitAt big b p
      if 0xD8 ≤ hi && hi ≤ 0xDB && p + 4 ≤ q then
        let (hi2, lo2) := unitAt big b (p + 2)
        let plane := (hi % 4) * 4 + lo / 64 + 1
        let code := plane * 65536 + (lo % 64) * 1024 + (hi2 % 4) * 256 + lo2
        Char.ofNat code :: utf16Chars big b (p + 4) q fuel
      else Char.ofNat (hi * 256 + lo) :: utf16Chars big b (p + 2) q fuel

/-- The text of the bytes from `p` to `q`. -/
def decode (e : Encoding) (b : ByteArray) (p q : Nat) : String :=
  match e with
  | .utf8 => Utf8.decodeLossy (b.extract p q)
  | .utf16 big => String.ofList (utf16Chars big b p q (q - p + 1))
  | .table _ chars =>
    String.ofList ((b.extract p q).toList.map fun x => chars.getD x.toNat (Char.ofNat 0))
  | _ => String.ofList ((b.extract p q).toList.map fun x => Char.ofNat x.toNat)

/-- A line (from 0) and a column (from 0) in a document. -/
structure Position where
  line : Nat := 0
  column : Nat := 0
deriving Repr, Inhabited

/-- The position after the characters from `p` to `q`: a line feed, a carriage return, or the
two together end a line; a sequence that a lead starts counts as one column. -/
def advance (e : Encoding) (b : ByteArray) (p q : Nat) (pos : Position) : Nat → Position
  | 0 => pos
  | fuel + 1 =>
    if q < p + e.unit then pos
    else match e.classAt b p with
      | .lead2 => e.advance b (p + 2) q { pos with column := pos.column + 1 } fuel
      | .lead3 => e.advance b (p + 3) q { pos with column := pos.column + 1 } fuel
      | .lead4 => e.advance b (p + 4) q { pos with column := pos.column + 1 } fuel
      | .lf => e.advance b (p + e.unit) q { line := pos.line + 1, column := 0 } fuel
      | .cr =>
        let p' := p + e.unit
        let p'' := if p' + e.unit ≤ q && e.classAt b p' == .lf then p' + e.unit else p'
        e.advance b p'' q { line := pos.line + 1, column := 0 } fuel
      | _ => e.advance b (p + e.unit) q { pos with column := pos.column + 1 } fuel

/-- The position of an offset, counted from the start of the bytes. -/
def positionOf (e : Encoding) (b : ByteArray) (p : Nat) : Position :=
  e.advance b 0 p {} (p + 1)

/-- The class that a table encoding gives a byte standing for a character from U+0080:
a surrogate, U+FFFE and U+FFFF are no characters, and the name tables decide the others. -/
def classOfHigh (c : Nat) : ByteClass :=
  if (0xD800 ≤ c && c ≤ 0xDFFF) || c == 0xFFFE || c == 0xFFFF then .nonXml
  else if isNameStartCode c then .nameStart
  else if isNameCode c then .nameChar
  else .other

/-- The single-byte encoding of a character set, U+FFFD marking a byte without a character;
none when the set changes the meaning of an ASCII character that markup uses or has a
character beyond U+FFFF. -/
def ofCharset (cs : Charset) : Option Encoding := do
  let codes := (List.range 256).map fun i =>
    let c := (cs.chars.getD i Charset.missing).toNat
    if c == 0xFFFD then none else some c
  for i in List.range 128 do
    if (ByteClass.ofAscii i).isSignificant && codes.getD i none != some i then none
  let mut classes : Array ByteClass := #[]
  let mut chars : Array Char := #[]
  for (i, code) in codes.zipIdx.map (fun (c, i) => (i, c)) do
    match code with
    | none =>
      classes := classes.push .malformed
      chars := chars.push (Char.ofNat 0)
    | some c =>
      if c < 0x80 then
        if (ByteClass.ofAscii c).isSignificant && c != i then none
        classes := classes.push (ByteClass.ofAscii c)
        chars := chars.push (Char.ofNat c)
      else if c > 0xFFFF then none
      else
        classes := classes.push (classOfHigh c)
        chars := chars.push (if classOfHigh c == .nonXml then Char.ofNat 0 else Char.ofNat c)
  return .table classes chars

end Encoding

end JavaBuild.Xml
