import JavaBuild.Dependency
import JavaBuild.Release
import JavaBuild.Files.Path

/-!
# Source directories

A source directory is a root whose files belong to the main sources or to the tests. It may
name the module that all its files belong to, the release its files target (else the build's
release applies), and the patterns that select its files (see `PathFilter`).
-/

namespace JavaBuild.Source

/-- A configured source root. -/
structure SourceDirectory where
  root : String
  scope : Stage := .main
  module : Option String := none
  release : Option Release := none
  includes : List String := []
  excludes : List String := []
deriving Inhabited

namespace SourceDirectory

/-- A source directory of a scope given by name, `main` or `test`. -/
def make (root scope : String) (module : Option String) (release : Option Release)
    (includes excludes : List String) : Except Failure SourceDirectory :=
  match (if scope == "main" then some Stage.main else if scope == "test" then some .test else none) with
  | some s => .ok { root, scope := s, module, release, includes, excludes }
  | none => .error (.config s!"Unknown scope '{scope}' for source directory {root}")

/-- The module declaration of the root. -/
def moduleInfo (d : SourceDirectory) : String := Path.join d.root "module-info.java"

end SourceDirectory

end JavaBuild.Source
