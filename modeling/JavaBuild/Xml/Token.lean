import JavaBuild.Xml.Encoding

/-!
# Tokens of a document

A document is cut into tokens by a scanner that looks at the class of each character
(`ByteClass`) and never decodes more than it needs. A scan from an offset ends in one of these
ways (`Scan`):

- a token and the offset after it;
- a token that runs to the end of the input and might go on (`unfinished`), such as a name or
  a blank that the end cuts;
- a character that no token may hold there (`invalid`, at that character);
- the end of the input inside a token (`partialToken`) or inside a character (`partialChar`);
- nothing left (`empty`), or a carriage return or `]` that ends the input in character data.

This module holds the tokens, the reading position (`Input`) with the steps that every scanner
shares (a name character, a character that starts a name, a character that may stand in text),
and the scanners of references, comments and processing instructions, which the prolog and the
content both use.
-/

namespace JavaBuild.Xml

/-- A token of a document. -/
inductive Token where
  | bom
  | xmlDecl
  | pi
  | comment
  | prologSpace
  | declOpen
  | condSectOpen
  | condSectClose
  | instanceStart
  | name
  | nmtoken
  | prefixedName
  | literal
  | paramEntityRef
  | percent
  | openBracket
  | closeBracket
  | openParen
  | closeParen
  | closeParenAsterisk
  | closeParenQuestion
  | closeParenPlus
  | bar
  | comma
  | declClose
  | poundName
  | nameQuestion
  | nameAsterisk
  | namePlus
  | startTag (hasAttributes : Bool)
  | emptyElement (hasAttributes : Bool)
  | endTag
  | dataChars
  | dataNewline
  | entityRef
  | charRef
  | cdataSectOpen
  | cdataSectClose
  | valueSpace
deriving DecidableEq, Repr, Inhabited

/-- How a scan ends. -/
inductive Scan where
  /-- A token, and the offset after it. -/
  | token (t : Token) (next : Nat)
  /-- A token that runs to the end of the input. -/
  | unfinished (t : Token)
  /-- A character that no token may hold there. -/
  | invalid (pos : Nat)
  /-- The input ends inside a token. -/
  | partialToken
  /-- The input ends inside a character. -/
  | partialChar
  /-- Nothing is left. -/
  | empty
  /-- Character data ends the input with a carriage return. -/
  | trailingCr
  /-- Character data ends the input with `]` or `]]`. -/
  | trailingRsqb
deriving DecidableEq, Repr, Inhabited

/-- A step of a scanner: where it goes on, or how the scan ends. -/
abbrev Scanning := Except Scan

/-- The end of a scan that either went on to an end or ended early. -/
def Scan.of : Scanning Scan → Scan
  | .ok s => s
  | .error s => s

/-- Bytes being scanned in an encoding, up to an end offset. -/
structure Input where
  enc : Encoding
  bytes : ByteArray
  stop : Nat

namespace Input

/-- The number of bytes of the smallest character. -/
def unit (i : Input) : Nat := i.enc.unit

/-- Whether a whole character of the smallest size starts at an offset. -/
def has (i : Input) (p : Nat) : Bool := p + i.unit ≤ i.stop

/-- Whether `n` characters of the smallest size start at an offset. -/
def hasN (i : Input) (p n : Nat) : Bool := p + n * i.unit ≤ i.stop

/-- The class of the character at an offset. -/
def cls (i : Input) (p : Nat) : ByteClass := i.enc.classAt i.bytes p

/-- Whether the character at an offset is the ASCII character `c`. -/
def isChar (i : Input) (p : Nat) (c : Char) : Bool := i.enc.isAsciiAt i.bytes p c

/-- A bound on the steps of a loop that goes forward from an offset. -/
def fuel (i : Input) (p : Nat) : Nat := i.stop - p + 1

/-- The input cut to whole units from an offset; none when not one unit is left. -/
def aligned (i : Input) (p : Nat) : Option Input :=
  let n := (i.stop - p) / i.unit * i.unit
  if n == 0 then none else some { i with stop := p + n }

/-- Whether the characters from `p` to `q` are exactly the ASCII word `w`. -/
def spells (i : Input) (p q : Nat) (w : String) : Bool :=
  q == p + w.length * i.unit &&
    w.toList.zipIdx.all fun (c, k) => i.isChar (p + k * i.unit) c

/-- The text of the characters from `p` to `q`. -/
def text (i : Input) (p q : Nat) : String := i.enc.decode i.bytes p q

/-- Steps over a character of `n` bytes that a lead starts, if the input holds it whole, it
is a character, and it may start a name (`start`) or continue one. -/
def leadName (i : Input) (p n : Nat) (start : Bool) : Scanning (Option Nat) :=
  if i.stop < p + n then .error .partialChar
  else if i.enc.isInvalid i.bytes p n then .error (.invalid p)
  else if (if start then i.enc.leadStartsName i.bytes p n else i.enc.leadInName i.bytes p n)
  then .ok (some (p + n))
  else .error (.invalid p)

/-- Steps over a character that may start a name; none when its class is not one of a name,
and a failure when it is but the character may not start one. -/
def nameStart? (i : Input) (p : Nat) : Scanning (Option Nat) :=
  match i.cls p with
  | .nonAscii =>
    if i.enc.unitStartsName i.bytes p then .ok (some (p + i.unit)) else .error (.invalid p)
  | .nameStart | .hex => .ok (some (p + i.unit))
  | .lead2 => i.leadName p 2 true
  | .lead3 => i.leadName p 3 true
  | .lead4 => i.leadName p 4 true
  | _ => .ok none

/-- Steps over a character that may continue a name; none when its class is not one of a
name, and a failure when it is but the character may not continue one. The colon is not a
name character here: the scanners that allow it say so. -/
def nameChar? (i : Input) (p : Nat) : Scanning (Option Nat) :=
  match i.cls p with
  | .nonAscii =>
    if i.enc.unitInName i.bytes p then .ok (some (p + i.unit)) else .error (.invalid p)
  | .nameStart | .hex | .digit | .nameChar | .minus => .ok (some (p + i.unit))
  | .lead2 => i.leadName p 2 false
  | .lead3 => i.leadName p 3 false
  | .lead4 => i.leadName p 4 false
  | _ => .ok none

/-- Steps over a character of several bytes, if the input holds it whole and it is a
character; fails on a character that no document may hold; none for the other classes. -/
def otherChar? (i : Input) (p : Nat) : Scanning (Option Nat) :=
  let lead (n : Nat) : Scanning (Option Nat) :=
    if i.stop < p + n then .error .partialChar
    else if i.enc.isInvalid i.bytes p n then .error (.invalid p)
    else .ok (some (p + n))
  match i.cls p with
  | .lead2 => lead 2
  | .lead3 => lead 3
  | .lead4 => lead 4
  | .nonXml | .malformed | .trail => .error (.invalid p)
  | _ => .ok none

/-- The kind of a processing instruction named by the characters from `p` to `q`: `xml` names
the declaration, another spelling of it in upper and lower case letters is refused (none), and
every other name is a processing instruction. -/
def piTarget (i : Input) (p q : Nat) : Option Token :=
  if q != p + 3 * i.unit then some .pi
  else
    let letter (k : Nat) (lower upper : Char) : Option Bool :=
      let c := i.enc.asciiAt i.bytes (p + k * i.unit)
      if c == some lower.toNat then some false
      else if c == some upper.toNat then some true
      else none
    match letter 0 'x' 'X', letter 1 'm' 'M', letter 2 'l' 'L' with
    | some a, some b, some c => if a || b || c then none else some .xmlDecl
    | _, _, _ => some .pi

end Input

/-- Scans a comment from the second `-` of its opening. -/
def scanComment (i : Input) (p : Nat) : Scan :=
  if !i.has p then .partialToken
  else if !i.isChar p '-' then .invalid p
  else go (p + i.unit) (i.fuel p)
where
  go (p : Nat) : Nat → Scan
    | 0 => .partialToken
    | fuel + 1 =>
      if !i.has p then .partialToken
      else Scan.of do
        if let some q ← i.otherChar? p then return go q fuel
        if i.cls p == .minus then
          let q := p + i.unit
          if !i.has q then throw .partialToken
          if i.isChar q '-' then
            let r := q + i.unit
            if !i.has r then throw .partialToken
            if !i.isChar r '>' then throw (.invalid r)
            return .token .comment (r + i.unit)
          return go q fuel
        return go (p + i.unit) fuel

/-- Scans a processing instruction from its target, after `<?`. -/
def scanPi (i : Input) (p : Nat) : Scan := Scan.of do
  if !i.has p then throw .partialToken
  let some q ← i.nameStart? p | throw (.invalid p)
  return target p q (i.fuel q)
where
  target (start p : Nat) : Nat → Scan
    | 0 => .partialToken
    | fuel + 1 =>
      if !i.has p then .partialToken
      else Scan.of do
        if let some q ← i.nameChar? p then return target start q fuel
        match i.cls p with
        | .space | .cr | .lf =>
          let some tok := i.piTarget start p | throw (.invalid p)
          return body tok (p + i.unit) (i.fuel p)
        | .quest =>
          let some tok := i.piTarget start p | throw (.invalid p)
          let q := p + i.unit
          if !i.has q then throw .partialToken
          if i.isChar q '>' then return .token tok (q + i.unit)
          throw (.invalid q)
        | _ => throw (.invalid p)
  body (tok : Token) (p : Nat) : Nat → Scan
    | 0 => .partialToken
    | fuel + 1 =>
      if !i.has p then .partialToken
      else Scan.of do
        if let some q ← i.otherChar? p then return body tok q fuel
        if i.cls p == .quest then
          let q := p + i.unit
          if !i.has q then throw .partialToken
          if i.isChar q '>' then return .token tok (q + i.unit)
          return body tok q fuel
        return body tok (p + i.unit) fuel

/-- Scans a hexadecimal character reference from its first digit, after `&#x`. -/
def scanHexCharRef (i : Input) (p : Nat) : Scan :=
  if !i.has p then .partialToken
  else match i.cls p with
    | .digit | .hex => go (p + i.unit) (i.fuel p)
    | _ => .invalid p
where
  go (p : Nat) : Nat → Scan
    | 0 => .partialToken
    | fuel + 1 =>
      if !i.has p then .partialToken
      else match i.cls p with
        | .digit | .hex => go (p + i.unit) fuel
        | .semi => .token .charRef (p + i.unit)
        | _ => .invalid p

/-- Scans a character reference after `&#`. -/
def scanCharRef (i : Input) (p : Nat) : Scan :=
  if !i.has p then .partialToken
  else if i.isChar p 'x' then scanHexCharRef i (p + i.unit)
  else match i.cls p with
    | .digit => go (p + i.unit) (i.fuel p)
    | _ => .invalid p
where
  go (p : Nat) : Nat → Scan
    | 0 => .partialToken
    | fuel + 1 =>
      if !i.has p then .partialToken
      else match i.cls p with
        | .digit => go (p + i.unit) fuel
        | .semi => .token .charRef (p + i.unit)
        | _ => .invalid p

/-- Scans an entity or character reference after `&`. -/
def scanRef (i : Input) (p : Nat) : Scan := Scan.of do
  if !i.has p then throw .partialToken
  match ← i.nameStart? p with
  | some q => return go q (i.fuel q)
  | none => if i.cls p == .num then return scanCharRef i (p + i.unit) else throw (.invalid p)
where
  go (p : Nat) : Nat → Scan
    | 0 => .partialToken
    | fuel + 1 =>
      if !i.has p then .partialToken
      else Scan.of do
        if let some q ← i.nameChar? p then return go q fuel
        if i.cls p == .semi then return .token .entityRef (p + i.unit)
        throw (.invalid p)

end JavaBuild.Xml
