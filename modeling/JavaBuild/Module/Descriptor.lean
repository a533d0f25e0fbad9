import JavaBuild.Data.Assoc
import JavaBuild.Data.Json

/-!
# Module descriptors

What a Java module declares: its name, the modules it requires (with the modifiers of each
requirement), the packages it exports (to everyone, or to the listed modules) and opens, the
services it uses and provides, and the packages it contains. An automatic module is one derived
from a plain jar; an open module opens all its packages.

The packages of a descriptor include its exported packages; the concealed packages are the
others. Sets (uses, opens, packages) are kept sorted without repeats.
-/

namespace JavaBuild

/-- A Java module descriptor. -/
structure Descriptor where
  name : String
  requires : List (String × List String) := []
  exports : List (String × List String) := []
  opens : List String := []
  uses : List String := []
  provides : List (String × List String) := []
  packages : List String := []
  jarpath : Option String := none
  automatic : Bool := false
  isOpen : Bool := false
deriving Repr, Inhabited

namespace Descriptor

/-- A descriptor from its parts, normalizing the sets and adding the exported packages to the
packages. -/
def make (name : String) (requires exports : List (String × List String)) (uses : List String)
    (provides : List (String × List String)) (packages : List String) (jarpath : Option String)
    (opens : List String) (automatic isOpen : Bool) : Descriptor :=
  { name, requires := requires.map fun (m, mods) => (m, sortedSet mods), exports,
    opens := sortedSet opens, uses := sortedSet uses, provides,
    packages := sortedSet (packages ++ Assoc.keys exports), jarpath, automatic, isOpen }

/-- The packages that are not exported. -/
def conceals (d : Descriptor) : List String :=
  d.packages.filter fun p => !(Assoc.keys d.exports).contains p

/-- The modules required, in order. -/
def requiredNames (d : Descriptor) : List String := Assoc.keys d.requires

/-- The descriptor as a JSON object: tables as lists of pairs in order, sets as sorted lists. -/
def toJson (d : Descriptor) : Json :=
  let texts (xs : List String) : Json := .arr (xs.map .str)
  let table (t : List (String × List String)) : Json := .arr (t.map fun (k, vs) => .arr [.str k, texts vs])
  .obj [("name", .str d.name), ("requires", table d.requires), ("exports", table d.exports),
    ("opens", texts d.opens), ("uses", texts d.uses), ("provides", table d.provides),
    ("packages", texts d.packages), ("conceals", texts d.conceals), ("automatic", .bool d.automatic),
    ("open", .bool d.isOpen), ("jarpath", match d.jarpath with | some p => .str p | none => .null)]

end Descriptor

end JavaBuild
