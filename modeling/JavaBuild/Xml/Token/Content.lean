import JavaBuild.Xml.Token

/-!
# Tokens of the content

Inside the root element a document is read as tags, references, character data, line ends,
comments, processing instructions and CDATA sections.

A start tag is scanned whole, attributes included: each attribute is a name, `=` and a quoted
value in which `<` may not stand and every `&` starts a well-formed reference. A name holds at
most one colon, and a name character must follow it. Character data runs up to markup, a line
end, or a character that no document may hold; `]]>` may not stand in it. Inside a CDATA
section the only markup is its end `]]>`.
-/

namespace JavaBuild.Xml

/-- Scans the opening of a CDATA section after `<![`. -/
def scanCdataSection (i : Input) (p : Nat) : Scan :=
  if !i.hasN p 6 then .partialToken
  else go p ['C', 'D', 'A', 'T', 'A', '[']
where
  go (p : Nat) : List Char → Scan
    | [] => .token .cdataSectOpen p
    | c :: cs => if i.isChar p c then go (p + i.unit) cs else .invalid p

/-- Scans an end tag after `</`. -/
def scanEndTag (i : Input) (p : Nat) : Scan := Scan.of do
  if !i.has p then throw .partialToken
  let some q ← i.nameStart? p | throw (.invalid p)
  return go q (i.fuel q)
where
  go (p : Nat) : Nat → Scan
    | 0 => .partialToken
    | fuel + 1 =>
      if !i.has p then .partialToken
      else Scan.of do
        if let some q ← i.nameChar? p then return go q fuel
        match i.cls p with
        | .space | .cr | .lf => return blanks (p + i.unit) (i.fuel p)
        | .colon => return go (p + i.unit) fuel
        | .gt => return .token .endTag (p + i.unit)
        | _ => throw (.invalid p)
  blanks (p : Nat) : Nat → Scan
    | 0 => .partialToken
    | fuel + 1 =>
      if !i.has p then .partialToken
      else match i.cls p with
        | .space | .cr | .lf => blanks (p + i.unit) fuel
        | .gt => .token .endTag (p + i.unit)
        | _ => .invalid p

/-- The end of an empty element after its `/`. -/
def scanEmptyClose (i : Input) (hasAttributes : Bool) (p : Nat) : Scan :=
  if !i.has p then .partialToken
  else if i.isChar p '>' then .token (.emptyElement hasAttributes) (p + i.unit)
  else .invalid p

/-- Scans the attributes of a start tag from the second character of the first name. -/
def scanAtts (i : Input) (p : Nat) : Scan := go false p (i.fuel p)
where
  /-- Blanks up to the `=` after a name. -/
  toEquals (p : Nat) : Nat → Scanning Nat
    | 0 => throw .partialToken
    | fuel + 1 => do
      if !i.has p then throw .partialToken
      match i.cls p with
      | .equals => return p
      | .space | .lf | .cr => toEquals (p + i.unit) fuel
      | _ => throw (.invalid p)
  /-- Blanks up to the quote that opens a value. -/
  toQuote (p : Nat) : Nat → Scanning (Nat × ByteClass)
    | 0 => throw .partialToken
    | fuel + 1 => do
      if !i.has p then throw .partialToken
      match i.cls p with
      | .quot => return (p, .quot)
      | .apos => return (p, .apos)
      | .space | .lf | .cr => toQuote (p + i.unit) fuel
      | _ => throw (.invalid p)
  /-- The characters of a value, up to its closing quote. -/
  valueEnd (quote : ByteClass) (p : Nat) : Nat → Scanning Nat
    | 0 => throw .partialToken
    | fuel + 1 => do
      if !i.has p then throw .partialToken
      let t := i.cls p
      if t == quote then return p
      if let some q ← i.otherChar? p then return ← valueEnd quote q fuel
      match t with
      | .amp =>
        match scanRef i (p + i.unit) with
        | .token _ q => valueEnd quote q fuel
        | s => throw s
      | .lt => throw (.invalid p)
      | _ => valueEnd quote (p + i.unit) fuel
  /-- Blanks after a value up to the next name, whose second character it gives, or the end
  of the tag. -/
  nextName (p : Nat) : Nat → Scanning Nat
    | 0 => throw .partialToken
    | fuel + 1 => do
      if !i.has p then throw .partialToken
      if let some q ← i.nameStart? p then return q
      match i.cls p with
      | .space | .cr | .lf => nextName (p + i.unit) fuel
      | .gt => throw (.token (.startTag true) (p + i.unit))
      | .sol => throw (scanEmptyClose i true (p + i.unit))
      | _ => throw (.invalid p)
  /-- An attribute from `=` on; gives the second character of the next name. -/
  attributeFrom (eq : Nat) : Scanning Nat := do
    let (open_, quote) ← toQuote (eq + i.unit) (i.fuel eq)
    let close ← valueEnd quote (open_ + i.unit) (i.fuel open_)
    let p := close + i.unit
    if !i.has p then throw .partialToken
    match i.cls p with
    | .space | .cr | .lf => nextName (p + i.unit) (i.fuel p)
    | .sol => throw (scanEmptyClose i true (p + i.unit))
    | .gt => throw (.token (.startTag true) (p + i.unit))
    | _ => throw (.invalid p)
  go (hadColon : Bool) (p : Nat) : Nat → Scan
    | 0 => .partialToken
    | fuel + 1 =>
      if !i.has p then .partialToken
      else Scan.of do
        if let some q ← i.nameChar? p then return go hadColon q fuel
        match i.cls p with
        | .colon =>
          if hadColon then throw (.invalid p)
          let q := p + i.unit
          if !i.has q then throw .partialToken
          let some r ← i.nameStart? q | throw (.invalid q)
          return go true r fuel
        | .space | .cr | .lf =>
          let eq ← toEquals (p + i.unit) (i.fuel p)
          return go false (← attributeFrom eq) fuel
        | .equals => return go false (← attributeFrom p) fuel
        | _ => throw (.invalid p)

/-- Scans a tag, comment, CDATA section or processing instruction after `<`. -/
def scanLt (i : Input) (p : Nat) : Scan := Scan.of do
  if !i.has p then throw .partialToken
  if let some q ← i.nameStart? p then return tagName false q (i.fuel q)
  match i.cls p with
  | .excl =>
    let q := p + i.unit
    if !i.has q then throw .partialToken
    match i.cls q with
    | .minus => return scanComment i (q + i.unit)
    | .lsqb => return scanCdataSection i (q + i.unit)
    | _ => throw (.invalid q)
  | .quest => return scanPi i (p + i.unit)
  | .sol => return scanEndTag i (p + i.unit)
  | _ => throw (.invalid p)
where
  tagName (hadColon : Bool) (p : Nat) : Nat → Scan
    | 0 => .partialToken
    | fuel + 1 =>
      if !i.has p then .partialToken
      else Scan.of do
        if let some q ← i.nameChar? p then return tagName hadColon q fuel
        match i.cls p with
        | .colon =>
          if hadColon then throw (.invalid p)
          let q := p + i.unit
          if !i.has q then throw .partialToken
          let some r ← i.nameStart? q | throw (.invalid q)
          return tagName true r fuel
        | .space | .cr | .lf => return afterName (p + i.unit) (i.fuel p)
        | .gt => return .token (.startTag false) (p + i.unit)
        | .sol => return scanEmptyClose i false (p + i.unit)
        | _ => throw (.invalid p)
  afterName (p : Nat) : Nat → Scan
    | 0 => .partialToken
    | fuel + 1 =>
      if !i.has p then .partialToken
      else Scan.of do
        if let some q ← i.nameStart? p then return scanAtts i q
        match i.cls p with
        | .gt => return .token (.startTag false) (p + i.unit)
        | .sol => return scanEmptyClose i false (p + i.unit)
        | .space | .cr | .lf => return afterName (p + i.unit) fuel
        | _ => throw (.invalid p)

/-- Character data from `p` up to markup, a line end, a character that no document may hold,
or `]]>` (which is refused at its `>`). -/
def scanDataChars (i : Input) (p : Nat) : Nat → Scan
  | 0 => .token .dataChars p
  | fuel + 1 =>
    let lead (n : Nat) : Scan :=
      if i.stop < p + n || i.enc.isInvalid i.bytes p n then .token .dataChars p
      else scanDataChars i (p + n) fuel
    if !i.has p then .token .dataChars p
    else match i.cls p with
      | .lead2 => lead 2
      | .lead3 => lead 3
      | .lead4 => lead 4
      | .rsqb =>
        if !i.hasN p 2 then .token .dataChars p
        else if !i.isChar (p + i.unit) ']' then scanDataChars i (p + i.unit) fuel
        else if !i.hasN p 3 then .token .dataChars p
        else if !i.isChar (p + 2 * i.unit) '>' then scanDataChars i (p + i.unit) fuel
        else .invalid (p + 2 * i.unit)
      | .amp | .lt | .nonXml | .malformed | .trail | .cr | .lf => .token .dataChars p
      | _ => scanDataChars i (p + i.unit) fuel

/-- Scans the content token at an offset. -/
def contentTok (input : Input) (p : Nat) : Scan :=
  if input.stop ≤ p then .empty
  else match input.aligned p with
  | none => .partialToken
  | some i => Scan.of do
    let u := i.unit
    match i.cls p with
    | .lt => return scanLt i (p + u)
    | .amp => return scanRef i (p + u)
    | .cr =>
      let q := p + u
      if !i.has q then return .trailingCr
      return .token .dataNewline (if i.cls q == .lf then q + u else q)
    | .lf => return .token .dataNewline (p + u)
    | .rsqb =>
      let q := p + u
      if !i.has q then return .trailingRsqb
      if !i.isChar q ']' then return scanDataChars i q (i.fuel q)
      let r := q + u
      if !i.has r then return .trailingRsqb
      if !i.isChar r '>' then return scanDataChars i q (i.fuel q)
      throw (.invalid r)
    | _ =>
      if let some q ← i.otherChar? p then return scanDataChars i q (i.fuel q)
      return scanDataChars i (p + u) (i.fuel p)

/-- Character data of a CDATA section from `p` up to a line end, `]`, or a character that no
document may hold. -/
def scanCdataChars (i : Input) (p : Nat) : Nat → Scan
  | 0 => .token .dataChars p
  | fuel + 1 =>
    let lead (n : Nat) : Scan :=
      if i.stop < p + n || i.enc.isInvalid i.bytes p n then .token .dataChars p
      else scanCdataChars i (p + n) fuel
    if !i.has p then .token .dataChars p
    else match i.cls p with
      | .lead2 => lead 2
      | .lead3 => lead 3
      | .lead4 => lead 4
      | .nonXml | .malformed | .trail | .cr | .lf | .rsqb => .token .dataChars p
      | _ => scanCdataChars i (p + i.unit) fuel

/-- Scans the token of a CDATA section at an offset. -/
def cdataSectionTok (input : Input) (p : Nat) : Scan :=
  if input.stop ≤ p then .empty
  else match input.aligned p with
  | none => .partialToken
  | some i => Scan.of do
    let u := i.unit
    match i.cls p with
    | .rsqb =>
      let q := p + u
      if !i.has q then throw .partialToken
      if !i.isChar q ']' then return scanCdataChars i q (i.fuel q)
      let r := q + u
      if !i.has r then throw .partialToken
      if !i.isChar r '>' then return scanCdataChars i q (i.fuel q)
      return .token .cdataSectClose (r + u)
    | .cr =>
      let q := p + u
      if !i.has q then throw .partialToken
      return .token .dataNewline (if i.cls q == .lf then q + u else q)
    | .lf => return .token .dataNewline (p + u)
    | _ =>
      if let some q ← i.otherChar? p then return scanCdataChars i q (i.fuel q)
      return scanCdataChars i (p + u) (i.fuel p)

end JavaBuild.Xml
