import JavaBuild.Source.Directory
import JavaBuild.Data.Json

/-!
# Units of sources

The sources of a scope are compiled in units, one per release, by ascending release. A unit
knows its files, the source directories they come from, where its classes go, the modules its
directories declare (each with its roots and, when there is one, its declaration file), and the
module it patches when its sources declare none of their own.

When the tests declare a module of their own while the main sources declare one, the test
declaration is compiled first and then takes the place of the main module's while the other
test sources are compiled: an `Overwrite` says which files are swapped.
-/

namespace JavaBuild.Source

/-- The sources compiled in one pass, for one release. -/
structure SourceUnit where
  release : Release
  files : List String
  roots : List SourceDirectory
  output : String
  modules : List (String × List String) := []
  moduleInfos : List (String × String) := []
  patchedModule : Option String := none
deriving Inhabited

namespace SourceUnit

/-- Whether the unit is compiled as (a patch of) a module. -/
def isModular (u : SourceUnit) : Bool := !u.modules.isEmpty || u.patchedModule.isSome

/-- The module of the unit: the one it declares, if only one, else the one it patches. -/
def moduleName (u : SourceUnit) : Option String :=
  match u.modules with
  | [(m, _)] => some m
  | _ => u.patchedModule

/-- `release 17 (3 files)`. -/
def describe (u : SourceUnit) : String := s!"release {u.release.toText} ({u.files.length} files)"

/-- The unit as data. -/
def toJson (u : SourceUnit) : Json :=
  .obj [("release", .str u.release.toText), ("files", Json.texts u.files),
    ("roots", Json.texts (u.roots.map (·.root))), ("output_directory", .str u.output),
    ("modules", .arr (u.modules.map fun (m, rs) => .arr [.str m, Json.texts rs])),
    ("module_infos", .arr (u.moduleInfos.map fun (m, p) => .arr [.str m, .str p])),
    ("patched_module", Json.textOrNull u.patchedModule), ("is_modular", .bool u.isModular),
    ("module_name", Json.textOrNull u.moduleName)]

end SourceUnit

/-- A test module declaration that replaces the main module's while the tests compile. -/
structure Overwrite where
  testModuleInfo : String
  mainModule : String
  mainOutput : String
deriving Inhabited

/-- The overwrite as data. -/
def Overwrite.toJson (o : Overwrite) : Json :=
  .obj [("test_module_info", .str o.testModuleInfo), ("main_module", .str o.mainModule),
    ("main_output_directory", .str o.mainOutput)]

/-- The units of one scope, by ascending release. -/
structure SourceSet where
  scope : Stage
  units : List SourceUnit
  mainModule : Option String := none
  overwrite : Option Overwrite := none
deriving Inhabited

namespace SourceSet

/-- Every file of the units. -/
def files (s : SourceSet) : List String := s.units.flatMap (·.files)

/-- The set as data. -/
def toJson (s : SourceSet) : Json :=
  .obj [("scope", .str s.scope.name), ("units", .arr (s.units.map SourceUnit.toJson)),
    ("main_module", Json.textOrNull s.mainModule),
    ("overwrite", match s.overwrite with | some o => o.toJson | none => .null)]

end SourceSet

end JavaBuild.Source
