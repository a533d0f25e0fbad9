import JavaBuild.Configuration
import JavaBuild.Data.Json

/-!
# Configuration fields as data

Every setting of a `Configuration` has a field name (`output_directory`, `compiler_args`, …)
under which it is read from and written to a JSON object. Texts may also be given as integers
(`"release": 17`); a source directory is an object with a `root`, and optionally a `scope`,
`module`, `release`, `includes` and `excludes`. Unknown names are ignored.
-/

namespace JavaBuild

/-- The release spec of a value: absent for null, a number, or a text (the JSON text of any
other value). -/
def Release.Spec.ofJson : Json → Release.Spec
  | .null => .absent
  | .int n => .number n
  | .str s => .text s
  | j => .text j.render

namespace Source

/-- A source directory given as data. -/
def SourceDirectory.ofJson (j : Json) : Except Failure SourceDirectory := do
  let release ← match j.field "release" with
    | .null => pure none
    | r => match Release.ofSpec (Release.Spec.ofJson r) with
      | .ok v => pure (some v)
      | .error e => throw e.failure
  SourceDirectory.make ((j.field "root").str?.getD "") (((j.field "scope").str?).getD "main")
    (j.field "module").str? release (j.field "includes").strs (j.field "excludes").strs

/-- A source directory as data. -/
def SourceDirectory.toJson (d : SourceDirectory) : Json :=
  .obj [("root", .str d.root), ("scope", .str d.scope.name), ("module", Json.textOrNull d.module),
    ("release", Json.textOrNull (d.release.map Release.toText)), ("includes", Json.texts d.includes),
    ("excludes", Json.texts d.excludes)]

end Source

namespace Configuration

/-- The text of a value that may be given as a text or an integer. -/
def textOf : Json → Option String
  | .str s => some s
  | .int n => some (toString n)
  | _ => none

/-- The configuration with one field set from data. -/
def setField (c : Configuration) (name : String) (v : Json) : Except Failure Configuration := do
  let b := v.boolD false
  let o := textOf v
  let t := o.getD ""
  match name with
  | "source_directories" => return { c with sourceDirectories := ← v.items.mapM Source.SourceDirectory.ofJson }
  | "project_directory" => return { c with projectDirectory := t }
  | "build_directory" => return { c with buildDirectory := t }
  | "output_directory" => return { c with outputDirectory := t }
  | "test_output_directory" => return { c with testOutputDirectory := t }
  | "status_directory" => return { c with statusDirectory := o }
  | "release" => return { c with release := o }
  | "source" => return { c with source := o }
  | "target" => return { c with target := o }
  | "fork" => return { c with fork := b }
  | "executable" => return { c with executable := o }
  | "compiler_id" => return { c with compilerId := t }
  | "implicit" => return { c with implicit := o }
  | "proc" => return { c with proc := o }
  | "annotation_processor_paths" => return { c with annotationProcessorPaths := v.strs }
  | "use_module_path" => return { c with useModulePath := b }
  | "fail_on_error" => return { c with failOnError := b }
  | "meminitial" => return { c with meminitial := o }
  | "maxmem" => return { c with maxmem := o }
  | "encoding" => return { c with encoding := o }
  | "parameters" => return { c with parameters := b }
  | "enable_preview" => return { c with enablePreview := b }
  | "debug" => return { c with debug := b }
  | "debuglevel" => return { c with debuglevel := o }
  | "show_warnings" => return { c with showWarnings := b }
  | "verbose" => return { c with verbose := b }
  | "compiler_args" => return { c with compilerArgs := v.strs }
  | "incremental_compilation" => return { c with incrementalCompilation := t }
  | "stale_millis" => return { c with staleMillis := v.int?.getD 0 }
  | _ => return c

/-- The configuration with the fields of an object set, in order. -/
def setFields (c : Configuration) (j : Json) : Except Failure Configuration :=
  j.members.foldlM (fun c (k, v) => c.setField k v) c

/-- The configuration as data, with the path of its records seen from `cwd`. -/
def toJson (c : Configuration) (cwd : String) : Json :=
  let opt := Json.textOrNull
  .obj [("release", opt c.release), ("source", opt c.source), ("target", opt c.target),
    ("fork", .bool c.fork), ("executable", opt c.executable), ("compiler_id", .str c.compilerId),
    ("implicit", opt c.implicit), ("proc", opt c.proc),
    ("annotation_processor_paths", Json.texts c.annotationProcessorPaths),
    ("use_module_path", .bool c.useModulePath), ("fail_on_error", .bool c.failOnError),
    ("meminitial", opt c.meminitial), ("maxmem", opt c.maxmem), ("encoding", opt c.encoding),
    ("parameters", .bool c.parameters), ("enable_preview", .bool c.enablePreview),
    ("debug", .bool c.debug), ("debuglevel", opt c.debuglevel),
    ("show_warnings", .bool c.showWarnings), ("verbose", .bool c.verbose),
    ("compiler_args", Json.texts c.compilerArgs),
    ("incremental_compilation", .str c.incrementalCompilation),
    ("stale_millis", .int c.staleMillis), ("project_directory", .str c.projectDirectory),
    ("build_directory", .str c.buildDirectory), ("output_directory", .str c.outputDirectory),
    ("test_output_directory", .str c.testOutputDirectory),
    ("status_directory", opt c.statusDirectory), ("status_path", .str (c.statusPath cwd)),
    ("source_directories", .arr (c.sourceDirectories.map Source.SourceDirectory.toJson))]

end Configuration

end JavaBuild
