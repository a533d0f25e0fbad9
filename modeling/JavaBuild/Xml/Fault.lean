import JavaBuild.Text.Printable

/-!
# Why a document cannot be read

Reading stops at the first fault. Most faults are a `Problem` of well-formedness at a line
(from 1) and a column (from 0, in characters of the document's encoding), reported as
`problem: line L, column C`. Three others come from outside the grammar:

- a declared entity, which is refused as a whole, since entities can make a small document
  expand without bound (`entityDeclared`);
- a reference to an entity that is not declared where a document type declaration names an
  external subset or uses parameter entities, so that it might have been declared there
  (`undefinedReference`, with the reference as written);
- a declared encoding that no registered character set of one byte a character provides
  (`encoding`, with the kind of failure and its message).
-/

namespace JavaBuild.Xml

/-- A fault of well-formedness. -/
inductive Problem where
  | badSyntax
  | noElements
  | invalidToken
  | unclosedToken
  | partialChar
  | tagMismatch
  | duplicateAttribute
  | junkAfterDocElement
  | paramEntityRef
  | undefinedEntity
  | badCharRef
  | misplacedXmlPi
  | unknownEncoding
  | incorrectEncoding
  | unclosedCdataSection
  | unboundPrefix
  | undeclaringPrefix
  | xmlDecl
  | publicId
  | reservedPrefixXml
  | reservedPrefixXmlns
  | reservedNamespaceUri
deriving DecidableEq, Repr

/-- The words of a problem. -/
def Problem.text : Problem → String
  | .badSyntax => "syntax error"
  | .noElements => "no element found"
  | .invalidToken => "not well-formed (invalid token)"
  | .unclosedToken => "unclosed token"
  | .partialChar => "partial character"
  | .tagMismatch => "mismatched tag"
  | .duplicateAttribute => "duplicate attribute"
  | .junkAfterDocElement => "junk after document element"
  | .paramEntityRef => "illegal parameter entity reference"
  | .undefinedEntity => "undefined entity"
  | .badCharRef => "reference to invalid character number"
  | .misplacedXmlPi => "XML or text declaration not at start of entity"
  | .unknownEncoding => "unknown encoding"
  | .incorrectEncoding => "encoding specified in XML declaration is incorrect"
  | .unclosedCdataSection => "unclosed CDATA section"
  | .unboundPrefix => "unbound prefix"
  | .undeclaringPrefix => "must not undeclare prefix"
  | .xmlDecl => "XML declaration not well-formed"
  | .publicId => "illegal character(s) in public id"
  | .reservedPrefixXml =>
    "reserved prefix (xml) must not be undeclared or bound to another namespace name"
  | .reservedPrefixXmlns => "reserved prefix (xmlns) must not be declared or undeclared"
  | .reservedNamespaceUri => "prefix must not be bound to one of the reserved namespace names"

/-- Why a document cannot be read. -/
inductive ReadError where
  /-- The document is not well-formed at a line and column. -/
  | malformed (problem : Problem) (line column : Nat)
  /-- A reference to an entity that is not declared, at a line and column. -/
  | undefinedReference (reference : String) (line column : Nat)
  /-- The document declares an entity. -/
  | entityDeclared (name : String) (systemId publicId : Option String)
  /-- No character set of one byte a character is registered under the declared name. -/
  | encoding (kind message : String)
deriving DecidableEq, Repr

/-- The message of an error. -/
def ReadError.message : ReadError → String
  | .malformed p l c => s!"{p.text}: line {l}, column {c}"
  | .undefinedReference r l c => s!"undefined entity {r}: line {l}, column {c}"
  | .entityDeclared n s p =>
    let lit (o : Option String) := match o with
      | some t => Text.literal t
      | none => "None"
    s!"EntitiesForbidden(name='{n}', system_id={lit s}, public_id={lit p})"
  | .encoding _ m => m

end JavaBuild.Xml
