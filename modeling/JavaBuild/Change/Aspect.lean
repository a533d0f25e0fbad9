import JavaBuild.Text.Blank
import JavaBuild.Text.Lower
import JavaBuild.Data.Assoc

/-!
# What the change tracker checks

The incremental build setting names the aspects of a build that are compared with the previous
build: the compiler options, the dependencies, the sources, the class files (older than their
source), and whether files were added or removed (which then forces a full build). `none`
turns the comparison off, and cannot be combined with any other aspect.

The setting is a comma-separated list, read without case and blanks.
-/

namespace JavaBuild

/-- An aspect that the change tracker compares. -/
inductive Aspect where
  | options
  | dependencies
  | sources
  | classes
  | additions
  | none
deriving DecidableEq, Repr, Inhabited

namespace Aspect

/-- Every aspect, in the order the setting's message lists them. -/
def all : List Aspect := [.options, .dependencies, .sources, .classes, .additions, .none]

/-- The name of an aspect in the setting. -/
def name : Aspect → String
  | .options => "options"
  | .dependencies => "dependencies"
  | .sources => "sources"
  | .classes => "classes"
  | .additions => "additions"
  | .none => "none"

/-- The aspect of a name. -/
def ofName? (s : String) : Option Aspect := all.find? (·.name == s)

/-- The aspects compared when nothing is configured. -/
def defaults : List Aspect := [.options, .dependencies, .sources]

end Aspect

/-- The sorted names of a set of aspects. -/
def aspectNames (as : List Aspect) : List String := sortedSet (as.map Aspect.name)

/-- Reads an incremental build setting. -/
def parseAspects (value : String) : Except String (List Aspect) := do
  let items := ((value.splitOn ",").map fun i => i.trimBlanks.lowerText).filter (!·.isEmpty)
  let mut aspects : List Aspect := []
  for item in items do
    match Aspect.ofName? item with
    | some a => if !aspects.contains a then aspects := aspects ++ [a]
    | none =>
      let valid := ", ".intercalate (Aspect.all.map Aspect.name)
      throw s!"Illegal incremental build setting: \"{item}\". Valid values are {valid}."
  if aspects.isEmpty then throw "Incremental build setting cannot be empty."
  if aspects.contains .none && aspects.length > 1 then
    let other := (aspectNames (aspects.filter (· != .none))).headD ""
    throw s!"Illegal incremental build setting: \"none\" and \"{other}\" are mutually exclusive."
  return aspects

end JavaBuild
