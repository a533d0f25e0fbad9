import JavaBuild.Source.Directory
import JavaBuild.Text.Lower

/-!
# Compiler configuration

The settings of a compilation: the source directories, where classes and build records go, the
Java release (or source and target), the compiler to run and its switches, the arguments passed
on as given, and how changes are tracked between builds (`incrementalCompilation`, a list of
aspects, and `staleMillis`, the tolerance of time comparisons). Relative paths are seen from the
project directory.

`Configuration.validate` checks the settings that have a closed set of values.
-/

namespace JavaBuild

/-- The settings of a compilation. -/
structure Configuration where
  sourceDirectories : List Source.SourceDirectory := []
  projectDirectory : String := "."
  buildDirectory : String := "target"
  outputDirectory : String := "target/classes"
  testOutputDirectory : String := "target/test-classes"
  /-- Where the build records are kept; by default a directory in the build directory. -/
  statusDirectory : Option String := none
  release : Option String := none
  source : Option String := none
  target : Option String := none
  fork : Bool := false
  executable : Option String := none
  compilerId : String := "javac"
  implicit : Option String := none
  proc : Option String := none
  annotationProcessorPaths : List String := []
  useModulePath : Bool := true
  failOnError : Bool := true
  meminitial : Option String := none
  maxmem : Option String := none
  encoding : Option String := none
  parameters : Bool := false
  enablePreview : Bool := false
  debug : Bool := true
  debuglevel : Option String := none
  showWarnings : Bool := true
  verbose : Bool := false
  compilerArgs : List String := []
  incrementalCompilation : String := "options,dependencies,sources"
  staleMillis : Int := 0
deriving Inhabited

/-- The values of `implicit`. -/
def implicitValues : List String := ["none", "class"]

/-- The values of `proc`. -/
def procValues : List String := ["none", "only", "full"]

/-- A truth value written as text: `true`, `1` or `yes`, `false`, `0` or `no`, in any case. -/
def textToBool (v : String) : Except Failure Bool :=
  let low := v.lowerText
  if low == "false" || low == "0" || low == "no" then .ok false
  else if low == "true" || low == "1" || low == "yes" then .ok true
  else .error (.config s!"Unexpected string to bool value {v}")

/-- The failure of a release spec that names no release: a configuration error, or a number
too long to read. -/
def Release.Invalid.failure (e : Release.Invalid) : Failure :=
  if e.isConfiguration then .config e.message else .badData "ValueError" e.message

namespace Configuration

/-- A path of the configuration, seen from the project directory (itself seen from `cwd`). -/
def path (c : Configuration) (cwd p : String) : String :=
  Path.normalize (if Path.isAbsolute p then p else Path.join (Path.absolute cwd c.projectDirectory) p)

/-- Where the build records are kept. -/
def statusPath (c : Configuration) (cwd : String) : String :=
  c.path cwd (c.statusDirectory.getD (Path.join c.buildDirectory "jcompile-status"))

/-- The configured release, if any. -/
def releaseValue (c : Configuration) : Except Failure (Option Release) :=
  match c.release with
  | none => .ok none
  | some r =>
    match Release.ofText? (some r) (some "release") with
    | .ok v => .ok (some v)
    | .error e => .error e.failure

/-- Checks `implicit`, `proc`, `staleMillis` and the release, in this order. -/
def validate (c : Configuration) : Except Failure Unit := do
  if let some v := c.implicit then
    if !implicitValues.contains v then
      let choices := ", ".intercalate implicitValues
      throw (.config s!"Invalid implicit value '{v}', expected one of {choices}")
  if let some v := c.proc then
    if !procValues.contains v then
      let choices := ", ".intercalate procValues
      throw (.config s!"Invalid proc value '{v}', expected one of {choices}")
  if c.staleMillis < 0 then
    throw (.config s!"staleMillis must not be negative: {c.staleMillis}")
  let _ ← c.releaseValue

end Configuration

end JavaBuild
