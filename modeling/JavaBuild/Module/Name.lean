/-!
# Module names

A module name is one or more identifiers separated by dots; an identifier is an ASCII letter,
`_` or `$`, followed by ASCII letters, digits, `_` and `$`. An identifier may carry a single
trailing line feed, which the check ignores.
-/

namespace JavaBuild.Module

/-- Whether a character may start an identifier. -/
def isIdentStart (c : Char) : Bool := c.isAlpha || c == '_' || c == '$'

/-- Whether a character may continue an identifier. -/
def isIdentPart (c : Char) : Bool := c.isAlphanum || c == '_' || c == '$'

/-- Whether a part between dots is an identifier. -/
def isIdentifier (part : String) : Bool :=
  let cs := part.toList
  let cs := if cs.getLast? == some '\n' then cs.dropLast else cs
  match cs with
  | c :: rest => isIdentStart c && rest.all isIdentPart
  | [] => false

/-- Whether a text is a valid module name. -/
def isValidName (name : String) : Bool :=
  !name.isEmpty && (name.toList.splitOn '.').all fun part => isIdentifier (String.ofList part)

end JavaBuild.Module
