import JavaBuild.Xml.Fault

/-!
# Namespaces in scope

The names of a document are read with namespaces. A namespace declaration binds a prefix, or
the default namespace, to a URI for the element that declares it and its content; the prefix
`xml` is bound from the start. `Scope.bind` refuses what the namespace rules forbid:

- an empty URI for a prefix (only the default namespace may be undeclared, by an empty URI);
- any declaration of the prefix `xmlns`;
- a URI holding `}`, which separates the URI from the local name in the names that reading
  gives;
- `xml` bound to another URI than its own, or its URI or that of `xmlns` bound to another
  prefix.
-/

namespace JavaBuild.Xml

/-- The namespace of the prefix `xml`. -/
def xmlNamespace : String := "http://www.w3.org/XML/1998/namespace"

/-- The namespace of namespace declarations. -/
def xmlnsNamespace : String := "http://www.w3.org/2000/xmlns/"

/-- The namespaces in scope: the latest binding of a prefix (none for the default namespace)
wins, and a default namespace bound to none is undeclared. -/
structure Scope where
  bindings : List (Option String × Option String) := [(some "xml", some xmlNamespace)]
deriving Repr, Inhabited

namespace Scope

/-- The URI that a prefix (none for the default namespace) stands for, if any. -/
def lookup (sc : Scope) (pfx : Option String) : Option String :=
  match sc.bindings.find? fun b => b.1 == pfx with
  | some (_, uri) => uri
  | none => none

/-- Binds a prefix (none for the default namespace) to a URI. -/
def bind (sc : Scope) (pfx : Option String) (uri : String) : Except Problem Scope :=
  if uri.isEmpty && pfx.isSome then .error .undeclaringPrefix
  else if pfx == some "xmlns" then .error .reservedPrefixXmlns
  else if uri.contains '\x7d' then .error .badSyntax
  else
    let mustBeXml := pfx == some "xml"
    let isXml := uri == xmlNamespace
    if mustBeXml != isXml then
      .error (if mustBeXml then .reservedPrefixXml else .reservedNamespaceUri)
    else if !mustBeXml && uri == xmlnsNamespace then .error .reservedNamespaceUri
    else .ok { bindings := (pfx, if uri.isEmpty then none else some uri) :: sc.bindings }

end Scope

/-- The prefix that an attribute named so declares: none for a name that declares nothing,
`some none` for `xmlns` (the default namespace), `some (some p)` for `xmlns:p`. -/
def declaredPrefix (name : String) : Option (Option String) :=
  if name == "xmlns" then some none
  else if name.startsWith "xmlns:" then some (some (name.drop 6).toString)
  else none

/-- A qualified name split at its first colon into a prefix and a local name. -/
def splitQName (name : String) : Option (String × String) :=
  match name.splitOn ":" with
  | p :: rest@(_ :: _) => some (p, ":".intercalate rest)
  | _ => none

end JavaBuild.Xml
