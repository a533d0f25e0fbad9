import JavaBuild.Xml.Token

/-!
# The grammar of the prolog

The prolog is read token by token against the grammar of the XML declaration, comments,
processing instructions and the document type declaration with its internal subset
(declarations of entities, notations, attribute lists and elements). `Grammar.step` takes the
place in the grammar and a token and gives the next place and the token's `Role`: what the
token means, such as the name of a declared entity or the default value of an attribute. A
token that the grammar does not allow there has the role `error`, and the place stays at
`failed`.

Keywords are matched exactly, in upper case: `DOCTYPE`, `SYSTEM`, `PUBLIC`, `ENTITY`,
`ATTLIST`, `ELEMENT`, `NOTATION`, `NDATA`, the attribute types, `#IMPLIED`, `#REQUIRED`,
`#FIXED`, `#PCDATA`, `EMPTY` and `ANY`. The nesting of parentheses in a content model is
counted (`level`).
-/

namespace JavaBuild.Xml

/-- A place in the grammar of the prolog. -/
inductive Place where
  | prolog0 | prolog1 | prolog2
  | doctype0 | doctype1 | doctype2 | doctype3 | doctype4 | doctype5
  | internalSubset
  | entity0 | entity1 | entity2 | entity3 | entity4 | entity5 | entity6 | entity7 | entity8
  | entity9 | entity10
  | notationDecl0 | notationDecl1 | notationDecl2 | notationDecl3 | notationDecl4
  | attlist0 | attlist1 | attlist2 | attlist3 | attlist4 | attlist5 | attlist6 | attlist7
  | attlist8 | attlist9
  | element0 | element1 | element2 | element3 | element4 | element5 | element6 | element7
  | declClose
  | failed
deriving DecidableEq, Repr, Inhabited

/-- What a token means in the prolog. -/
inductive Role where
  | none
  | xmlDecl
  | instanceStart
  | doctypeSystemId
  | doctypePublicId
  | generalEntityName
  | paramEntityName
  | entityValue
  | entitySystemId
  | entityPublicId
  | entityComplete
  | entityNotationName
  | notationPublicId
  | attlistElementName
  | attributeName
  /-- A keyword type of an attribute: `CDATA`, `ID`, or another. -/
  | attributeType (cdata isId : Bool)
  /-- `#IMPLIED` or `#REQUIRED`. -/
  | valuelessAttribute
  /-- A default value, after `#FIXED` or alone. -/
  | attributeDefault
  | groupOpen
  | groupSequence
  | groupChoice
  | paramEntityRef
  | error
deriving DecidableEq, Repr, Inhabited

/-- A place in the grammar and the nesting of parentheses. -/
structure Grammar where
  place : Place := .prolog0
  level : Nat := 0
deriving Repr, Inhabited

namespace Grammar

/-- The attribute types that are keywords, in the order of their roles. -/
def attributeTypes : List String :=
  ["CDATA", "ID", "IDREF", "IDREFS", "ENTITY", "ENTITIES", "NMTOKEN", "NMTOKENS"]

/-- The next place and the role of a token from `s` to `next`. -/
def step (g : Grammar) (i : Input) (tok : Token) (s next : Nat) : Grammar × Role :=
  let u := i.unit
  let is (w : String) : Bool := i.spells s next w
  let keyword (w : String) : Bool := i.spells (s + 2 * u) next w
  let pound (w : String) : Bool := i.spells (s + u) next w
  let go (p : Place) (r : Role) : Grammar × Role := ({ g with place := p }, r)
  let stay (r : Role) : Grammar × Role := (g, r)
  let fail : Grammar × Role := ({ g with place := .failed }, .error)
  let closeGroup : Grammar × Role :=
    let level := g.level - 1
    ({ place := if level == 0 then .declClose else g.place, level }, .none)
  let topLevel : Grammar × Role := go .internalSubset .none
  match g.place, tok with
  | .prolog0, .prologSpace => go .prolog1 .none
  | .prolog0, .xmlDecl => go .prolog1 .xmlDecl
  | .prolog0, .pi | .prolog0, .comment => go .prolog1 .none
  | .prolog0, .bom => stay .none
  | .prolog0, .declOpen | .prolog1, .declOpen =>
    if keyword "DOCTYPE" then go .doctype0 .none else fail
  | .prolog0, .instanceStart | .prolog1, .instanceStart | .prolog2, .instanceStart =>
    go .failed .instanceStart
  | .prolog1, .prologSpace | .prolog1, .pi | .prolog1, .comment | .prolog1, .bom => stay .none
  | .prolog2, .prologSpace | .prolog2, .pi | .prolog2, .comment => stay .none
  | .doctype0, .prologSpace => stay .none
  | .doctype0, .name | .doctype0, .prefixedName => go .doctype1 .none
  | .doctype1, .prologSpace => stay .none
  | .doctype1, .openBracket | .doctype4, .openBracket => go .internalSubset .none
  | .doctype1, .declClose | .doctype4, .declClose | .doctype5, .declClose =>
    go .prolog2 .none
  | .doctype1, .name =>
    if is "SYSTEM" then go .doctype3 .none
    else if is "PUBLIC" then go .doctype2 .none
    else fail
  | .doctype2, .prologSpace => stay .none
  | .doctype2, .literal => go .doctype3 .doctypePublicId
  | .doctype3, .prologSpace => stay .none
  | .doctype3, .literal => go .doctype4 .doctypeSystemId
  | .doctype4, .prologSpace | .doctype5, .prologSpace => stay .none
  | .internalSubset, .prologSpace => stay .none
  | .internalSubset, .declOpen =>
    if keyword "ENTITY" then go .entity0 .none
    else if keyword "ATTLIST" then go .attlist0 .none
    else if keyword "ELEMENT" then go .element0 .none
    else if keyword "NOTATION" then go .notationDecl0 .none
    else fail
  | .internalSubset, .pi | .internalSubset, .comment => stay .none
  | .internalSubset, .paramEntityRef => stay .paramEntityRef
  | .internalSubset, .closeBracket => go .doctype5 .none
  | .entity0, .prologSpace => stay .none
  | .entity0, .percent => go .entity1 .none
  | .entity0, .name => go .entity2 .generalEntityName
  | .entity1, .prologSpace => stay .none
  | .entity1, .name => go .entity7 .paramEntityName
  | .entity2, .prologSpace | .entity7, .prologSpace => stay .none
  | .entity2, .name =>
    if is "SYSTEM" then go .entity4 .none else if is "PUBLIC" then go .entity3 .none else fail
  | .entity7, .name =>
    if is "SYSTEM" then go .entity9 .none else if is "PUBLIC" then go .entity8 .none else fail
  | .entity2, .literal | .entity7, .literal => go .declClose .entityValue
  | .entity3, .prologSpace | .entity8, .prologSpace => stay .none
  | .entity3, .literal => go .entity4 .entityPublicId
  | .entity8, .literal => go .entity9 .entityPublicId
  | .entity4, .prologSpace | .entity9, .prologSpace => stay .none
  | .entity4, .literal => go .entity5 .entitySystemId
  | .entity9, .literal => go .entity10 .entitySystemId
  | .entity5, .prologSpace | .entity10, .prologSpace => stay .none
  | .entity5, .declClose | .entity10, .declClose =>
    let (g', _) := topLevel
    (g', .entityComplete)
  | .entity5, .name => if is "NDATA" then go .entity6 .none else fail
  | .entity6, .prologSpace => stay .none
  | .entity6, .name => go .declClose .entityNotationName
  | .notationDecl0, .prologSpace => stay .none
  | .notationDecl0, .name => go .notationDecl1 .none
  | .notationDecl1, .prologSpace => stay .none
  | .notationDecl1, .name =>
    if is "SYSTEM" then go .notationDecl3 .none
    else if is "PUBLIC" then go .notationDecl2 .none
    else fail
  | .notationDecl2, .prologSpace => stay .none
  | .notationDecl2, .literal => go .notationDecl4 .notationPublicId
  | .notationDecl3, .prologSpace => stay .none
  | .notationDecl3, .literal => go .declClose .none
  | .notationDecl4, .prologSpace => stay .none
  | .notationDecl4, .literal => go .declClose .none
  | .notationDecl4, .declClose => topLevel
  | .attlist0, .prologSpace => stay .none
  | .attlist0, .name | .attlist0, .prefixedName => go .attlist1 .attlistElementName
  | .attlist1, .prologSpace => stay .none
  | .attlist1, .declClose => topLevel
  | .attlist1, .name | .attlist1, .prefixedName => go .attlist2 .attributeName
  | .attlist2, .prologSpace => stay .none
  | .attlist2, .name =>
    match attributeTypes.findIdx? is with
    | some k => go .attlist8 (.attributeType (k == 0) (k == 1))
    | none => if is "NOTATION" then go .attlist5 .none else fail
  | .attlist2, .openParen => go .attlist3 .none
  | .attlist3, .prologSpace => stay .none
  | .attlist3, .nmtoken | .attlist3, .name | .attlist3, .prefixedName => go .attlist4 .none
  | .attlist4, .prologSpace => stay .none
  | .attlist4, .closeParen => go .attlist8 .none
  | .attlist4, .bar => go .attlist3 .none
  | .attlist5, .prologSpace => stay .none
  | .attlist5, .openParen => go .attlist6 .none
  | .attlist6, .prologSpace => stay .none
  | .attlist6, .name => go .attlist7 .none
  | .attlist7, .prologSpace => stay .none
  | .attlist7, .closeParen => go .attlist8 .none
  | .attlist7, .bar => go .attlist6 .none
  | .attlist8, .prologSpace => stay .none
  | .attlist8, .poundName =>
    if pound "IMPLIED" || pound "REQUIRED" then go .attlist1 .valuelessAttribute
    else if pound "FIXED" then go .attlist9 .none
    else fail
  | .attlist8, .literal => go .attlist1 .attributeDefault
  | .attlist9, .prologSpace => stay .none
  | .attlist9, .literal => go .attlist1 .attributeDefault
  | .element0, .prologSpace => stay .none
  | .element0, .name | .element0, .prefixedName => go .element1 .none
  | .element1, .prologSpace => stay .none
  | .element1, .name => if is "EMPTY" || is "ANY" then go .declClose .none else fail
  | .element1, .openParen => ({ place := .element2, level := 1 }, .groupOpen)
  | .element2, .prologSpace => stay .none
  | .element2, .poundName => if pound "PCDATA" then go .element3 .none else fail
  | .element2, .openParen => ({ place := .element6, level := 2 }, .groupOpen)
  | .element2, .name | .element2, .prefixedName | .element2, .nameQuestion
  | .element2, .nameAsterisk | .element2, .namePlus => go .element7 .none
  | .element3, .prologSpace => stay .none
  | .element3, .closeParen | .element3, .closeParenAsterisk => go .declClose .none
  | .element3, .bar => go .element4 .none
  | .element4, .prologSpace => stay .none
  | .element4, .name | .element4, .prefixedName => go .element5 .none
  | .element5, .prologSpace => stay .none
  | .element5, .closeParenAsterisk => go .declClose .none
  | .element5, .bar => go .element4 .none
  | .element6, .prologSpace => stay .none
  | .element6, .openParen => ({ g with level := g.level + 1 }, .groupOpen)
  | .element6, .name | .element6, .prefixedName | .element6, .nameQuestion
  | .element6, .nameAsterisk | .element6, .namePlus => go .element7 .none
  | .element7, .prologSpace => stay .none
  | .element7, .closeParen | .element7, .closeParenAsterisk | .element7, .closeParenQuestion
  | .element7, .closeParenPlus => closeGroup
  | .element7, .comma => go .element6 .groupSequence
  | .element7, .bar => go .element6 .groupChoice
  | .declClose, .prologSpace => stay .none
  | .declClose, .declClose => topLevel
  | .failed, _ => stay .none
  | _, _ => fail

end Grammar

end JavaBuild.Xml
