import JavaBuild.Xml.Element
import JavaBuild.Xml.Declaration
import JavaBuild.Xml.Role
import JavaBuild.Xml.Namespace
import JavaBuild.Xml.Dtd
import JavaBuild.Xml.Token.Prolog
import JavaBuild.Xml.Token.Content
import JavaBuild.Text.Charset.Registry

/-!
# Reading XML documents

`readDocument` reads the elements of a document and stops at its first fault (`ReadError`).

1. The first bytes decide the encoding the document starts in: a byte order mark of UTF-16 or
   UTF-8, or a zero byte first or second (UTF-16 without a mark), and UTF-8 otherwise.
2. The prolog is read token by token against the grammar of declarations (`Grammar.step`).
   The XML declaration may name another encoding (`Declaration.knownEncoding`, or a registered
   character set of one byte a character, `Encoding.ofCharset`); from there on the document is
   read in it. A declared entity stops reading (`entityDeclared`). Attribute lists are kept
   (`Dtd`).
3. The root element and its content are read token by token. Each start tag declares its
   namespaces (`Scope.bind`), gets the default attributes of its attribute list, and must use
   only bound prefixes and no attribute twice, also once prefixes are expanded. An end tag must
   repeat the name of its start tag byte for byte.
4. After the root element only blanks, comments and processing instructions may follow.

The tree keeps, of each element, its namespace, its local name, the character data before its
first child element (none when there is none) and its child elements. A fault is reported at
the line and column of an offset, counted in the encoding read at the time of the fault.
-/

namespace JavaBuild.Xml

/-- A step of reading. -/
abbrev Reading := Except ReadError

/-- A problem at an offset, placed at its line and column. -/
def Input.fault (i : Input) (p : Problem) (offset : Nat) : ReadError :=
  let pos := i.enc.positionOf i.bytes offset
  .malformed p (pos.line + 1) pos.column

/-- The bytes from `p` to `q`. -/
def Input.slice (i : Input) (p q : Nat) : List UInt8 := (i.bytes.extract p q).toList

/-- The first token of a document and the encoding it is read in. -/
def firstToken (b : ByteArray) : Encoding × Scan :=
  let start (e : Encoding) : Encoding × Scan := (e, prologTok { enc := e, bytes := b, stop := b.size } 0)
  let byte (k : Nat) : Nat := (b[k]?.getD 0).toNat
  if b.size == 0 then (.utf8, .empty)
  else if b.size == 1 then
    if [0xFE, 0xFF, 0xEF, 0x00, 0x3C].contains (byte 0) then (.utf8, .partialToken)
    else start .utf8
  else match byte 0, byte 1 with
    | 0xFE, 0xFF => (.utf16 true, .token .bom 2)
    | 0xFF, 0xFE => (.utf16 false, .token .bom 2)
    | 0x3C, 0x00 => start (.utf16 false)
    | 0xEF, 0xBB =>
      if b.size == 2 then (.utf8, .partialToken)
      else if byte 2 == 0xBF then (.utf8, .token .bom 3)
      else start .utf8
    | b0, b1 =>
      if b0 == 0 then start (.utf16 true)
      else if b1 == 0 then start (.utf16 false)
      else start .utf8

/-- The encoding of a character set registered under a name; none when the set changes the
meaning of markup characters. -/
def registeredEncoding (name : String) : Reading (Option Encoding) :=
  match Charset.lookup name with
  | none => .error (.encoding "LookupError" ("unknown encoding: " ++ name))
  | some .binary =>
    .error (.encoding "LookupError"
      ("'" ++ name ++ "' is not a text encoding; use codecs.decode() to handle arbitrary codecs"))
  | some .multiByte => .error (.encoding "ValueError" "multi-byte encodings are not supported")
  | some (.failure kind message named) =>
    .error (.encoding kind
      (if named then "decoding with '" ++ name ++ "' codec failed (" ++ message ++ ")"
       else message))
  | some (.single cs) => .ok (Encoding.ofCharset cs)

/-- An entity being declared. -/
structure EntityDecl where
  name : String
  systemId : Option String := none
  publicId : Option String := none

/-- The state of reading the prolog. -/
structure Prolog where
  grammar : Grammar := {}
  dtd : Dtd := {}
  /-- The entity being declared, when it is one that would be kept. -/
  entity : Option EntityDecl := none
  element : String := ""
  /-- The attribute being declared: its name, whether its type is `CDATA`, and whether it is an
  `ID`. -/
  attName : String := ""
  attCdata : Bool := false
  attId : Bool := false
  /-- The connector (`,` or `|`) of each open group of a content model, by nesting. -/
  connectors : List (Nat × Char) := []

/-- Applies the XML declaration from `s` to `next`: whether the document stands alone and the
encoding it is read in from here on. -/
def applyDeclaration (i : Input) (st : Prolog) (s next : Nat) : Reading (Input × Prolog) := do
  match Declaration.parse i s next with
  | .error q => throw (i.fault .xmlDecl q)
  | .ok decl =>
    let st := if decl.standalone then { st with dtd := { st.dtd with standalone := true } } else st
    match decl.encodingName with
    | none => return (i, st)
    | some (a, b) =>
      let name := i.text a b
      match Declaration.knownEncoding i.enc name with
      | some e =>
        if e.unit != i.enc.unit || (e.unit == 2 && !e.same i.enc) then
          throw (i.fault .incorrectEncoding a)
        return ({ i with enc := e }, st)
      | none =>
        match ← registeredEncoding name with
        | some e => return ({ i with enc := e }, st)
        | none => throw (i.fault .unknownEncoding a)

/-- Applies the role of a prolog token `t` from `s` to `next`. -/
def applyRole (i : Input) (st : Prolog) (r : Role) (t : Token) (s next : Nat) :
    Reading (Input × Prolog) := do
  let u := i.unit
  let dtd := st.dtd
  let keep := dtd.keepProcessing
  let literal : String := i.text (s + u) (next - u)
  let connector := st.connectors.lookup st.grammar.level
  match r with
  | .xmlDecl => applyDeclaration i st s next
  | .doctypePublicId =>
    if let some q := publicIdFault i s next then throw (i.fault .publicId q)
    return (i, { st with dtd := { dtd with paramEntityRefs := true }, entity := none })
  | .doctypeSystemId =>
    return (i, { st with dtd := { dtd with paramEntityRefs := true }, entity := none })
  | .generalEntityName =>
    let entity := if (predefinedEntity i s next).isSome || !keep then none
      else some { name := i.text s next }
    return (i, { st with entity })
  | .paramEntityName =>
    return (i, { st with entity := if keep then some { name := i.text s next } else none })
  | .entityValue =>
    if keep then
      let fault := entityValueFault { i with stop := next - u } (s + u)
      if let some e := st.entity then throw (.entityDeclared e.name none none)
      if let some (p, q) := fault then throw (i.fault p q)
    return (i, st)
  | .entityPublicId =>
    if let some q := publicIdFault i s next then throw (i.fault .publicId q)
    match st.entity with
    | some e =>
      if keep then return (i, { st with entity := some { e with publicId := normalizePublicId literal } })
      return (i, st)
    | none => return (i, st)
  | .entitySystemId =>
    match st.entity with
    | some e =>
      if keep then return (i, { st with entity := some { e with systemId := literal } })
      return (i, st)
    | none => return (i, st)
  | .entityComplete | .entityNotationName =>
    if keep then
      if let some e := st.entity then throw (.entityDeclared e.name e.systemId e.publicId)
    return (i, st)
  | .notationPublicId =>
    if let some q := publicIdFault i s next then throw (i.fault .publicId q)
    return (i, st)
  | .attlistElementName => return (i, { st with element := i.text s next })
  | .attributeName =>
    return (i, { st with attName := i.text s next, attCdata := false, attId := false })
  | .attributeType cdata isId =>
    return (i, { st with attCdata := cdata, attId := isId })
  | .valuelessAttribute =>
    if !keep then return (i, st)
    let att : DefaultAttribute := { name := st.attName, value := none, cdata := st.attCdata }
    return (i, { st with dtd := dtd.define st.element att st.attId })
  | .attributeDefault =>
    if !keep then return (i, st)
    let normalized := attributeValue { i with stop := next - u } st.attCdata dtd.checksEntities (s + u)
    let value ← match normalized with
      | .ok v => pure v
      | .error (.invalid q) => throw (i.fault .invalidToken q)
      | .error (.badCharRef q) => throw (i.fault .badCharRef q)
      | .error .undefinedEntity => throw (i.fault .undefinedEntity s)
    let att : DefaultAttribute := { name := st.attName, value := some value, cdata := st.attCdata }
    return (i, { st with dtd := dtd.define st.element att false })
  | .groupOpen =>
    return (i, { st with connectors := (st.grammar.level, ' ') :: st.connectors })
  | .groupSequence =>
    if connector == some '|' then throw (i.fault .badSyntax s)
    return (i, { st with connectors := (st.grammar.level, ',') :: st.connectors })
  | .groupChoice =>
    if connector == some ',' then throw (i.fault .badSyntax s)
    return (i, { st with connectors := (st.grammar.level, '|') :: st.connectors })
  | .paramEntityRef =>
    return (i, { st with dtd := { dtd with paramEntityRefs := true, keepProcessing := dtd.standalone } })
  | .error =>
    let p : Problem := if t == .paramEntityRef then .paramEntityRef
      else if t == .xmlDecl then .misplacedXmlPi else .badSyntax
    throw (i.fault p s)
  | _ => return (i, st)

/-- An element whose end tag is still to come. -/
structure OpenElement where
  /-- Where the name of its start tag starts and ends. -/
  rawStart : Nat
  rawStop : Nat
  /-- The namespaces in scope around it. -/
  outer : Scope
  ns : Option String
  name : String
  text : Option String := none
  /-- The child elements so far, the last first. -/
  children : List Element := []

namespace OpenElement

/-- Adds character data, which is kept only before the first child element. -/
def addText (e : OpenElement) (t : String) : OpenElement :=
  if e.children.isEmpty then { e with text := some (e.text.getD "" ++ t) } else e

/-- Adds a child element. -/
def addChild (e : OpenElement) (c : Element) : OpenElement := { e with children := c :: e.children }

/-- The element, once its end tag is read. -/
def close (e : OpenElement) : Element :=
  { ns := e.ns, name := e.name, text := e.text, children := e.children.reverse }

end OpenElement

/-- Adds character data to the innermost open element. -/
def addText (stack : List OpenElement) (t : String) : List OpenElement :=
  match stack with
  | e :: rest => e.addText t :: rest
  | [] => []

/-- Reads the start tag at `s`: the namespaces in scope inside it, and the namespace and local
name of the element. -/
def startTag (i : Input) (dtd : Dtd) (scope : Scope) (s : Nat) :
    Reading (Scope × Option String × String) := do
  let qname := i.text (s + i.unit) (nameEnd i (s + i.unit))
  let bind (sc : Scope) (pfx : Option String) (uri : String) : Reading Scope :=
    match sc.bind pfx uri with
    | .ok sc => .ok sc
    | .error p => .error (i.fault p s)
  let mut seen : List String := []
  let mut scope := scope
  let mut prefixed : List String := []
  for a in attributesOf i s do
    let name := i.text a.name (nameEnd i a.name)
    if seen.contains name then throw (i.fault .duplicateAttribute a.name)
    seen := name :: seen
    let normalized :=
      attributeValue { i with stop := a.valueEnd } (dtd.isCdata qname name) dtd.checksEntities
        a.valueStart
    let value ← if a.plain then pure (i.text a.valueStart a.valueEnd)
      else match normalized with
        | .ok v => pure v
        | .error (.invalid q) => throw (i.fault .invalidToken q)
        | .error (.badCharRef q) => throw (i.fault .badCharRef q)
        | .error .undefinedEntity => throw (i.fault .undefinedEntity s)
    match declaredPrefix name with
    | some pfx => scope ← bind scope pfx value
    | none => if name.contains ':' then prefixed := name :: prefixed
  for d in dtd.defaultsOf qname do
    if let some v := d.value then
      if !seen.contains d.name then
        match declaredPrefix d.name with
        | some pfx => scope ← bind scope pfx v
        | none => if d.name.contains ':' then prefixed := d.name :: prefixed
  let mut expanded : List String := []
  for name in prefixed.reverse do
    if let some (pfx, localName) := splitQName name then
      match scope.lookup (some pfx) with
      | none => throw (i.fault .unboundPrefix s)
      | some uri =>
        let e := uri ++ "\x7d" ++ localName
        if expanded.contains e then throw (i.fault .duplicateAttribute s)
        expanded := e :: expanded
  match splitQName qname with
  | some (pfx, localName) =>
    match scope.lookup (some pfx) with
    | none => throw (i.fault .unboundPrefix s)
    | some uri => return (scope, some uri, localName)
  | none => return (scope, scope.lookup none, qname)

/-- Reads a CDATA section from `s`, after its opening, into the innermost open element; gives
the offset after its end. -/
def cdataSection (i : Input) (stack : List OpenElement) (s : Nat) :
    Nat → Reading (List OpenElement × Nat)
  | 0 => throw (i.fault .unclosedCdataSection s)
  | fuel + 1 =>
    match cdataSectionTok i s with
    | .token .cdataSectClose next => return (stack, next)
    | .token .dataNewline next => cdataSection i (addText stack "\n") next fuel
    | .token _ next => cdataSection i (addText stack (i.text s next)) next fuel
    | .invalid r => throw (i.fault .invalidToken r)
    | .partialChar => throw (i.fault .partialChar s)
    | _ => throw (i.fault .unclosedCdataSection s)

/-- Reads what follows the root element from `s`: blanks, comments and processing
instructions only. -/
def epilog (i : Input) (s : Nat) : Nat → Reading Unit
  | 0 => return ()
  | fuel + 1 =>
    match prologTok i s with
    | .empty | .unfinished .prologSpace => return ()
    | .token .prologSpace next | .token .pi next | .token .comment next => epilog i next fuel
    | .invalid r => throw (i.fault .invalidToken r)
    | .partialToken => throw (i.fault .unclosedToken s)
    | .partialChar => throw (i.fault .partialChar s)
    | _ => throw (i.fault .junkAfterDocElement s)

/-- Reads the content from `s` inside the open elements `stack` (the innermost first), with
the namespaces `scope` in scope; gives the root element and the offset after it. -/
def content (i : Input) (dtd : Dtd) (scope : Scope) (stack : List OpenElement) (s : Nat) :
    Nat → Reading (Element × Nat)
  | 0 => throw (i.fault .noElements s)
  | fuel + 1 => do
    let u := i.unit
    let again (stack : List OpenElement) (next : Nat) := content i dtd scope stack next fuel
    match contentTok i s with
    | .empty | .trailingCr => throw (i.fault .noElements s)
    | .trailingRsqb => throw (i.fault .noElements i.stop)
    | .invalid r => throw (i.fault .invalidToken r)
    | .partialChar => throw (i.fault .partialChar s)
    | .partialToken | .unfinished _ => throw (i.fault .unclosedToken s)
    | .token t next =>
      match t with
      | .dataChars => again (addText stack (i.text s next)) next
      | .dataNewline => again (addText stack "\n") next
      | .charRef =>
        match charRefNumber i s with
        | some n => again (addText stack (Char.ofNat n).toString) next
        | none => throw (i.fault .badCharRef s)
      | .entityRef =>
        match predefinedEntity i (s + u) (next - u) with
        | some c => again (addText stack c.toString) next
        | none =>
          if dtd.checksEntities then throw (i.fault .undefinedEntity s)
          let pos := i.enc.positionOf i.bytes s
          throw (.undefinedReference (i.text s next) (pos.line + 1) pos.column)
      | .xmlDecl => throw (i.fault .misplacedXmlPi s)
      | .cdataSectOpen =>
        let (stack, after) ← cdataSection i stack next (i.fuel next)
        again stack after
      | .startTag _ =>
        let (inner, ns, name) ← startTag i dtd scope s
        let rawStart := s + u
        let e : OpenElement := { rawStart, rawStop := nameEnd i rawStart, outer := scope, ns, name }
        content i dtd inner (e :: stack) next fuel
      | .emptyElement _ =>
        let (_, ns, name) ← startTag i dtd scope s
        let el : Element := { ns, name, text := none, children := [] }
        match stack with
        | [] => return (el, next)
        | p :: rest => again (p.addChild el :: rest) next
      | .endTag =>
        match stack with
        | [] => throw (i.fault .badSyntax s)
        | e :: rest =>
          let raw := s + 2 * u
          if i.slice raw (nameEnd i raw) != i.slice e.rawStart e.rawStop then
            throw (i.fault .tagMismatch raw)
          match rest with
          | [] => return (e.close, next)
          | p :: rest => content i dtd e.outer (p.addChild e.close :: rest) next fuel
      | _ => again stack next

/-- Reads the prolog from the token `tok` at `s`, then the root element and what follows it. -/
def prolog (i : Input) (st : Prolog) (s : Nat) (tok : Scan) : Nat → Reading Element
  | 0 => throw (i.fault .noElements s)
  | fuel + 1 => do
    let (t, next) ← match tok with
      | .token t next => pure (t, next)
      | .unfinished .prologSpace => pure (.prologSpace, s + (i.stop - s) / i.unit * i.unit)
      | .unfinished t => pure (t, i.stop)
      | .invalid r => throw (i.fault .invalidToken r)
      | .partialToken => throw (i.fault .unclosedToken s)
      | .partialChar => throw (i.fault .partialChar s)
      | _ => throw (i.fault .noElements s)
    let (grammar, role) := st.grammar.step i t s next
    let st := { st with grammar }
    if role == .instanceStart then
      let (root, after) ← content i st.dtd {} [] s (i.fuel s)
      epilog i after (i.fuel after)
      return root
    let (i, st) ← applyRole i st role t s next
    prolog i st next (prologTok i next) fuel

/-- Reads the elements of a document. -/
def readDocument (bytes : ByteArray) : Except ReadError Element :=
  let (enc, tok) := firstToken bytes
  prolog { enc, bytes, stop := bytes.size } {} 0 tok (bytes.size + 1)

end JavaBuild.Xml
