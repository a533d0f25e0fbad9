import JavaBuild.Build.Execution
import JavaBuild.Source.Layout

/-!
# Build goals

`compileScope` compiles the main sources or the tests of a project: it checks the configuration,
selects the backend (the configured one unless one is given), resolves the sources (the main
ones first for the tests, whose module patches know the project's modules) and compiles them
with `Executor.execute`, the tests against the main classes. A compilation failure fails the goal
unless `failOnError` is off; the goal then warns with the messages and reports the failure.

`synthesizeScope` and `resolveScope` stop after deriving the options and after resolving the
sources.
-/

namespace JavaBuild

/-- What a goal did. -/
structure BuildResult where
  decision : Option Decision
  output : String
  compiled : List Source.SourceUnit := []
  success : Bool := true
  failure : Option Failure := none

/-- Whether there was nothing to compile. -/
def BuildResult.upToDate (r : BuildResult) : Bool :=
  match r.decision with
  | some d => d.kind == .noOp
  | none => true

namespace Configuration

/-- The source layout of the configuration. -/
def layout (c : Configuration) (cwd : String) : Except Failure Source.Layout := do
  let release ← c.releaseValue
  return Source.Layout.make cwd c.sourceDirectories (c.path cwd c.outputDirectory)
    (some (c.path cwd c.testOutputDirectory)) release

/-- The output directory of a scope. -/
def outputOf (c : Configuration) (cwd : String) : Stage → String
  | .main => c.path cwd c.outputDirectory
  | .test => c.path cwd c.testOutputDirectory

/-- The main classes that the tests are compiled against. -/
def mainOutputFor (c : Configuration) (cwd : String) : Stage → Option String
  | .main => none
  | .test => some (c.path cwd c.outputDirectory)

end Configuration

/-- The sources of a scope, resolved after the main ones for the tests; with the module that the
main sources declare. -/
def resolveScope (c : Configuration) (scope : Stage) (mainFirst : Bool := true) :
    BuildM (Source.SourceSet × Option String) := do
  let layout ← HostM.ofExcept (c.layout (← BuildM.state).host.cwd)
  if scope == .test && mainFirst then
    let _ ← layout.resolve .main
  let sources ← layout.resolve scope
  return (sources, ← layout.mainModuleName)

/-- The options of the units of a scope, for a compiler that checks them with `checker`. -/
def synthesizeScope (c : Configuration) (scope : Stage) (checker : Checker) :
    BuildM (List UnitOptions) := do
  HostM.ofExcept c.validate
  let cwd := (← BuildM.state).host.cwd
  let (sources, _) ← resolveScope c scope
  let s : Synthesizer := { config := c, checker, scope, mainOutput := c.mainOutputFor cwd scope }
  s.setOptions sources

/-- Compiles a scope with the given backend, else the configured one. -/
def compileScope (c : Configuration) (scope : Stage) (backend : Option Backend := none) :
    BuildM BuildResult := do
  HostM.ofExcept c.validate
  let cwd := (← BuildM.state).host.cwd
  let backend ← match backend with
    | some b => pure b
    | none => BuildM.ofHost (backendOf c.compilerId c.executable)
  let layout ← HostM.ofExcept (c.layout cwd)
  if scope == .test then
    let _ ← layout.resolve .main
  let sources ← layout.resolve scope
  let output := c.outputOf cwd scope
  let count := sources.files.length
  if count == 0 then
    HostM.log "No sources to compile."
    return { decision := none, output }
  HostM.logVerbose s!"Compiling {count} {scope.name} source files with {backend.name} to {output}"
  modifyThe BuildState fun s => { s with diagnostics := { directory := some c.projectDirectory } }
  let executor : Executor := { config := c, scope, backend, mainOutput := c.mainOutputFor cwd scope }
  match ← BuildM.attempt (executor.execute sources) with
  | .ok r => return { decision := some r.decision, output, compiled := r.compiled }
  | .error f =>
    match f with
    | .compilation ms a =>
      if c.failOnError then throw f
      let details := Failure.compilationDetails ms a
      HostM.warn (if details.isEmpty then Failure.compilationSummary ms else details)
      return { decision := none, output, success := false, failure := some f }
    | _ => throw f

end JavaBuild
