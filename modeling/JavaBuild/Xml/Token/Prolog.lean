import JavaBuild.Xml.Token

/-!
# Tokens of the prolog

Before the root element, and after it, a document is read as a sequence of prolog tokens:
blanks, comments, processing instructions, the markup of the document type declaration
(`<!DOCTYPE`, `<!ENTITY`, names, literals, brackets and parentheses, `#PCDATA`, `%name;`) and
the `<` that starts the root element (`instanceStart`).

A name is a `name` when its first character may start one and an `nmtoken` otherwise; with a
single colon inside it is a `prefixedName`. A name or a blank that the end of the input cuts is
`unfinished`, and so is a literal, `]` or `)` that ends the input. A literal must be followed by
a blank, `>`, `%` or `[`.
-/

namespace JavaBuild.Xml

/-- Scans a literal after its opening quote, up to the same quote. -/
def scanLit (i : Input) (quote : ByteClass) (p : Nat) : Nat → Scan
  | 0 => .partialToken
  | fuel + 1 =>
    if !i.has p then .partialToken
    else Scan.of do
      if let some q ← i.otherChar? p then return scanLit i quote q fuel
      let t := i.cls p
      if t == .quot || t == .apos then
        let q := p + i.unit
        if t != quote then return scanLit i quote q fuel
        if !i.has q then return .unfinished .literal
        match i.cls q with
        | .space | .cr | .lf | .gt | .percent | .lsqb => return .token .literal q
        | _ => throw (.invalid q)
      return scanLit i quote (p + i.unit) fuel

/-- Scans a declaration after `<!`: a comment, a conditional section, or the keyword of a
declaration, which a blank or `%` must follow. -/
def scanDecl (i : Input) (p : Nat) : Scan :=
  if !i.has p then .partialToken
  else match i.cls p with
    | .minus => scanComment i (p + i.unit)
    | .lsqb => .token .condSectOpen (p + i.unit)
    | .nameStart | .hex => go (p + i.unit) (i.fuel p)
    | _ => .invalid p
where
  go (p : Nat) : Nat → Scan
    | 0 => .partialToken
    | fuel + 1 =>
      if !i.has p then .partialToken
      else match i.cls p with
        | .percent =>
          if !i.hasN p 2 then .partialToken
          else match i.cls (p + i.unit) with
            | .space | .cr | .lf | .percent => .invalid p
            | _ => .token .declOpen p
        | .space | .cr | .lf => .token .declOpen p
        | .nameStart | .hex => go (p + i.unit) fuel
        | _ => .invalid p

/-- Scans after `%`: a parameter entity reference, or a lone `%` before a blank or `%`. -/
def scanPercent (i : Input) (p : Nat) : Scan := Scan.of do
  if !i.has p then throw .partialToken
  if let some q ← i.nameStart? p then return go q (i.fuel q)
  match i.cls p with
  | .space | .lf | .cr | .percent => return .token .percent p
  | _ => throw (.invalid p)
where
  go (p : Nat) : Nat → Scan
    | 0 => .partialToken
    | fuel + 1 =>
      if !i.has p then .partialToken
      else Scan.of do
        if let some q ← i.nameChar? p then return go q fuel
        if i.cls p == .semi then return .token .paramEntityRef (p + i.unit)
        throw (.invalid p)

/-- Scans a name after `#`, such as `#PCDATA`. -/
def scanPoundName (i : Input) (p : Nat) : Scan := Scan.of do
  if !i.has p then throw .partialToken
  let some q ← i.nameStart? p | throw (.invalid p)
  return go q (i.fuel q)
where
  go (p : Nat) : Nat → Scan
    | 0 => .unfinished .poundName
    | fuel + 1 =>
      if !i.has p then .unfinished .poundName
      else Scan.of do
        if let some q ← i.nameChar? p then return go q fuel
        match i.cls p with
        | .cr | .lf | .space | .rpar | .gt | .percent | .verbar => return .token .poundName p
        | _ => throw (.invalid p)

/-- Scans the rest of a name or name token of kind `tok`; a colon after a name makes it
prefixed when a name character follows, a second colon makes it a name token, and `?`, `*` or
`+` may end a name but not a name token. -/
def scanNameRest (i : Input) (tok : Token) (p : Nat) : Nat → Scan
  | 0 => .unfinished tok
  | fuel + 1 =>
    if !i.has p then .unfinished tok
    else Scan.of do
      if let some q ← i.nameChar? p then return scanNameRest i tok q fuel
      match i.cls p with
      | .gt | .rpar | .comma | .verbar | .lsqb | .percent | .space | .cr | .lf =>
        return .token tok p
      | .colon =>
        let q := p + i.unit
        if tok == .name then
          if !i.has q then throw .partialToken
          match ← i.nameChar? q with
          | some r => return scanNameRest i .prefixedName r fuel
          | none => return scanNameRest i .nmtoken q fuel
        else if tok == .prefixedName then return scanNameRest i .nmtoken q fuel
        else return scanNameRest i tok q fuel
      | .plus => if tok == .nmtoken then throw (.invalid p) else return .token .namePlus (p + i.unit)
      | .ast =>
        if tok == .nmtoken then throw (.invalid p) else return .token .nameAsterisk (p + i.unit)
      | .quest =>
        if tok == .nmtoken then throw (.invalid p) else return .token .nameQuestion (p + i.unit)
      | _ => throw (.invalid p)

/-- Scans a run of blanks whose first character is at `p`; a carriage return that ends the
input is left to the next scan, so that a line end is never split. -/
def scanSpaces (i : Input) (p : Nat) : Nat → Scan
  | 0 => .token .prologSpace p
  | fuel + 1 =>
    let q := p + i.unit
    if !i.has q then .token .prologSpace q
    else match i.cls q with
      | .space | .lf => scanSpaces i q fuel
      | .cr => if q + i.unit != i.stop then scanSpaces i q fuel else .token .prologSpace q
      | _ => .token .prologSpace q

/-- Scans the prolog token at an offset. -/
def prologTok (input : Input) (p : Nat) : Scan :=
  if input.stop ≤ p then .empty
  else match input.aligned p with
  | none => .partialToken
  | some i =>
    let u := i.unit
    let fuel := i.fuel p
    let lead (n : Nat) : Scan :=
      if i.stop < p + n then .partialChar
      else if i.enc.isInvalid i.bytes p n then .invalid p
      else if i.enc.leadStartsName i.bytes p n then scanNameRest i .name (p + n) fuel
      else if i.enc.leadInName i.bytes p n then scanNameRest i .nmtoken (p + n) fuel
      else .invalid p
    match i.cls p with
    | .quot => scanLit i .quot (p + u) fuel
    | .apos => scanLit i .apos (p + u) fuel
    | .lt =>
      let q := p + u
      if !i.has q then .partialToken
      else match i.cls q with
        | .excl => scanDecl i (q + u)
        | .quest => scanPi i (q + u)
        | .nameStart | .hex | .nonAscii | .lead2 | .lead3 | .lead4 => .token .instanceStart p
        | _ => .invalid q
    | .cr => if p + u == i.stop then .unfinished .prologSpace else scanSpaces i p fuel
    | .space | .lf => scanSpaces i p fuel
    | .percent => scanPercent i (p + u)
    | .comma => .token .comma (p + u)
    | .lsqb => .token .openBracket (p + u)
    | .rsqb =>
      let q := p + u
      if !i.has q then .unfinished .closeBracket
      else if i.isChar q ']' then
        if !i.hasN q 2 then .partialToken
        else if i.isChar (q + u) '>' then .token .condSectClose (q + 2 * u)
        else .token .closeBracket q
      else .token .closeBracket q
    | .lpar => .token .openParen (p + u)
    | .rpar =>
      let q := p + u
      if !i.has q then .unfinished .closeParen
      else match i.cls q with
        | .ast => .token .closeParenAsterisk (q + u)
        | .quest => .token .closeParenQuestion (q + u)
        | .plus => .token .closeParenPlus (q + u)
        | .cr | .lf | .space | .gt | .comma | .verbar | .rpar => .token .closeParen q
        | _ => .invalid q
    | .verbar => .token .bar (p + u)
    | .gt => .token .declClose (p + u)
    | .num => scanPoundName i (p + u)
    | .lead2 => lead 2
    | .lead3 => lead 3
    | .lead4 => lead 4
    | .nameStart | .hex => scanNameRest i .name (p + u) fuel
    | .digit | .nameChar | .minus | .colon => scanNameRest i .nmtoken (p + u) fuel
    | .nonAscii =>
      if i.enc.unitStartsName i.bytes p then scanNameRest i .name (p + u) fuel
      else if i.enc.unitInName i.bytes p then scanNameRest i .nmtoken (p + u) fuel
      else .invalid p
    | _ => .invalid p

end JavaBuild.Xml
