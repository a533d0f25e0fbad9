import JavaBuild.Xml.Token

/-!
# The XML declaration

A document may open with an XML declaration, `<?xml version="1.0" encoding="UTF-8"
standalone="no"?>`. Its pseudo-attributes come in that order, `version` first and the other two
optional. Each is a blank, a name, `=` and a quoted value of ASCII letters, digits, `.`, `_`
and `-`, with blanks allowed around `=`; an encoding name starts with a letter, and
`standalone` is `yes` or `no`. Only blanks may follow the last one. `Declaration.parse` reads a
declaration in the encoding the document started in, or gives the offset where it stops
following this grammar.

Six encodings are known by name, in any case of ASCII letters: `ISO-8859-1`, `US-ASCII`,
`UTF-8`, `UTF-16`, `UTF-16BE` and `UTF-16LE` (`Declaration.knownEncoding`). `UTF-16` in a
document already read in 16-bit units names the byte order it was read in. A name of more than
127 characters is never known.
-/

namespace JavaBuild.Xml

/-- What an XML declaration says that reading needs: where the name of the encoding stands,
and whether the document stands alone. -/
structure Declaration where
  encodingName : Option (Nat × Nat) := none
  standalone : Bool := false
deriving Repr

/-- One pseudo-attribute of a declaration: where its name starts and ends, where its value
starts, and the offset after its closing quote. -/
structure PseudoAttribute where
  name : Nat
  nameEnd : Nat
  value : Nat
  next : Nat

namespace Declaration

/-- Whether an ASCII code is a blank of a declaration. -/
def isBlank (c : Option Nat) : Bool :=
  c == some 0x20 || c == some 0x0D || c == some 0x0A || c == some 0x09

/-- Whether an ASCII code is a letter. -/
def isLetter (c : Option Nat) : Bool :=
  match c with
  | some c => (0x61 ≤ c && c ≤ 0x7A) || (0x41 ≤ c && c ≤ 0x5A)
  | none => false

/-- Whether an ASCII code may stand in a value. -/
def isValueChar (c : Option Nat) : Bool :=
  isLetter c ||
    match c with
    | some c => (0x30 ≤ c && c ≤ 0x39) || c == 0x2E || c == 0x2D || c == 0x5F
    | none => false

/-- The ASCII character at an offset, when a whole character before `stop` is one. -/
def asciiBefore (i : Input) (stop p : Nat) : Option Nat :=
  if stop < p + i.unit then none
  else match i.enc.asciiAt i.bytes p with
    | some c => if c < 0x80 then some c else none
    | none => none

/-- The offset after the blanks from `p`. -/
def skipBlanks (i : Input) (stop p : Nat) : Nat := go p (i.fuel p)
where
  go (p : Nat) : Nat → Nat
    | 0 => p
    | fuel + 1 => if isBlank (asciiBefore i stop p) then go (p + i.unit) fuel else p

/-- The offset of the first character from `p` that `ok` refuses. -/
def scanWhile (i : Input) (stop : Nat) (ok : Option Nat → Bool) (p : Nat) : Nat :=
  go p (i.fuel p)
where
  go (p : Nat) : Nat → Nat
    | 0 => p
    | fuel + 1 => if ok (asciiBefore i stop p) then go (p + i.unit) fuel else p

/-- Reads the pseudo-attribute at `p`, none when only the end is left; fails with the offset
where it stops following the grammar. -/
def pseudoAttribute (i : Input) (stop p : Nat) : Except Nat (Option PseudoAttribute) := do
  if p == stop then return none
  if !isBlank (asciiBefore i stop p) then throw p
  let name := skipBlanks i stop (p + i.unit)
  if name == stop then return none
  -- the name runs up to `=` or a blank; a character that is not ASCII ends it badly
  let nameEnd := scanWhile i stop
    (fun c => c.isSome && c != some 0x3D && !isBlank c) name
  let c := asciiBefore i stop nameEnd
  if c.isNone then throw nameEnd
  let eq := if isBlank c then skipBlanks i stop nameEnd else nameEnd
  if asciiBefore i stop eq != some 0x3D then throw eq
  if eq == name then throw eq
  let open_ := skipBlanks i stop (eq + i.unit)
  let quote := asciiBefore i stop open_
  if quote != some 0x22 && quote != some 0x27 then throw open_
  let value := open_ + i.unit
  let close := scanWhile i stop (fun c => c != quote && isValueChar c) value
  if asciiBefore i stop close != quote then throw close
  return some { name, nameEnd, value, next := close + i.unit }

/-- Reads the declaration from `s` to `next`, or gives where it stops following the grammar. -/
def parse (i : Input) (s next : Nat) : Except Nat Declaration := do
  let u := i.unit
  let stop := next - 2 * u
  let start := s + 5 * u
  let some a ← pseudoAttribute i stop start | throw start
  if !i.spells a.name a.nameEnd "version" then throw a.name
  let some b ← pseudoAttribute i stop a.next | return {}
  let mut decl : Declaration := {}
  let mut cur := b
  if i.spells b.name b.nameEnd "encoding" then
    if !isLetter (asciiBefore i stop b.value) then throw b.value
    decl := { decl with encodingName := some (b.value, b.next - u) }
    let some c ← pseudoAttribute i stop b.next | return decl
    cur := c
  if !i.spells cur.name cur.nameEnd "standalone" then throw cur.name
  let valueEnd := cur.next - u
  if i.spells cur.value valueEnd "yes" then decl := { decl with standalone := true }
  else if !i.spells cur.value valueEnd "no" then throw cur.value
  let q := skipBlanks i stop cur.next
  if q != stop then throw q
  return decl

/-- The encoding that a name stands for among the known ones, for a document read so far in
`current`. -/
def knownEncoding (current : Encoding) (name : String) : Option Encoding :=
  let n := name.toUpper
  if name.length > 127 then none
  else if n == "UTF-16" && current.unit == 2 then some current
  else if n == "ISO-8859-1" then some .latin1
  else if n == "US-ASCII" then some .ascii
  else if n == "UTF-8" then some .utf8
  else if n == "UTF-16" || n == "UTF-16BE" then some (.utf16 true)
  else if n == "UTF-16LE" then some (.utf16 false)
  else none

end Declaration

end JavaBuild.Xml
