/-!
# XML elements

A document read for its configuration is a tree of elements. Each element has a namespace (the
URI its prefix, or the default namespace, stands for), a local name, the text before its first
child element, and its child elements. Comments, processing instructions and attributes are not
kept; the text after a child is not kept either.

Elements are found by paths of local names, each step going down to the children: a step
matches a child of that local name in a namespace that the path accepts.
-/

namespace JavaBuild.Xml

/-- An element of a document. -/
structure Element where
  /-- The namespace of the element, if any. -/
  ns : Option String
  /-- The local name. -/
  name : String
  /-- The character data before the first child element, if there is any. -/
  text : Option String
  /-- The child elements in document order. -/
  children : List Element
deriving Inhabited

/-- The namespaces that a step of a path accepts: one (none for names in no namespace), or
any at all. -/
inductive Namespaces where
  | only (ns : Option String)
  | any
deriving DecidableEq, Repr

/-- Whether a namespace is accepted. -/
def Namespaces.accepts : Namespaces → Option String → Bool
  | .only ns, n => n == ns
  | .any, _ => true

namespace Element

/-- The children of an element with a name, in accepted namespaces. -/
def childrenNamed (e : Element) (ns : Namespaces) (name : String) : List Element :=
  e.children.filter fun c => ns.accepts c.ns && c.name == name

/-- Every element at the end of a path of names below the element, in document order. -/
def findAll (e : Element) (ns : Namespaces) : List String → List Element
  | [] => [e]
  | step :: rest => (e.childrenNamed ns step).flatMap fun c => c.findAll ns rest

/-- The first element at the end of a path of names. -/
def find? (e : Element) (ns : Namespaces) (path : List String) : Option Element :=
  (e.findAll ns path).head?

end Element

end JavaBuild.Xml
