import JavaBuild.Build.Context
import JavaBuild.Build.Substitution
import JavaBuild.Source.Unit
import JavaBuild.Compiler

/-!
# Compilation tasks

A `CompileTask` is one invocation of the compiler: options, then files, all of one unit. It
creates the unit's output directory, runs the backend and reports its diagnostics. When the
backend fails, the task fails with the error messages reported during the invocation (or a
message saying that there was none) and with the argument file it wrote for inspection. In
verbose mode the argument file is written before every invocation.

A `UnitTask` is what runs for a unit. When a test declaration overwrites the main module's
declaration, the declaration is compiled alone first (without `--patch-module`), then it takes
the place of the main declaration (see `Substitution`) while the other test sources compile; the
main declaration is put back in every case.

`runInOrder` runs the tasks of a scope by ascending release and stops at the first failure; it
gives the state each task is left in.
-/

namespace JavaBuild

/-- One invocation of the compiler. -/
structure CompileTask where
  unit : Source.SourceUnit
  options : List String
  files : List String

namespace CompileTask

/-- The command line: options, then files. -/
def args (t : CompileTask) : List String := t.options ++ t.files

/-- `Compile 3 files for release 17`. -/
def describe (t : CompileTask) : String :=
  let n := t.files.length
  let plural := if n != 1 then "s" else ""
  s!"Compile {n} file{plural} for release {t.unit.release.toText}"

/-- Writes the command line to the argument file; the file, or none when there is no argument
file or it cannot be written (with a warning). -/
def writeArguments (t : CompileTask) (argsFile : Option String) : HostM (Option String) := do
  let some path := argsFile | return none
  try
    HostM.writeTextSafely path (Javac.argumentFileText t.args)
    return some path
  catch
    | .os e =>
      HostM.warn s!"Cannot write the compiler arguments to {path}: {e.message}"
      return none
    | e => throw e

end CompileTask

/-- Runs a backend on a command line and reports its diagnostics; whether it succeeded. The stub
records its invocations. -/
def invoke (backend : Backend) (args : List String) : BuildM Bool := do
  let result ← match backend with
    | .javac exe => BuildM.ofHost (runJavac exe args)
    | .stub script => do
      let index := (← BuildM.state).invocations.length
      let inv := stubInvocation args
      modifyThe BuildState fun s => { s with invocations := s.invocations ++ [inv] }
      BuildM.ofHost (runStub script index inv)
  for d in result.diagnostics do BuildM.report d
  return result.success

/-- Runs a compile task. -/
def CompileTask.run (t : CompileTask) (backend : Backend) (argsFile : Option String) :
    BuildM Unit := do
  if (← BuildM.state).host.console.verbose then
    if let some written ← t.writeArguments argsFile then
      HostM.logVerbose s!"Compiler arguments written to {written}"
  HostM.makeDirs t.unit.output
  let before := (← BuildM.state).diagnostics.errorMessages.length
  let line := " ".intercalate t.args
  HostM.logDebug s!"{backend.name} {line}"
  if ← invoke backend t.args then return
  let reported := (← BuildM.state).diagnostics.errorMessages.drop before
  let messages := if reported.isEmpty then [s!"{backend.name} failed without reporting an error"]
    else reported
  throw (.compilation messages (← t.writeArguments argsFile))

/-- Compiles the test declaration, then, with the declarations swapped, the other test sources;
every file moved is moved back however the compilations end. -/
def Substitution.around (sub : Substitution) (declaration : BuildM Unit)
    (sources : Option (BuildM Unit)) : BuildM Unit := do
  BuildM.ofHost sub.recover
  match ← BuildM.attempt declaration with
  | .error e =>
    let _ ← BuildM.ofHost sub.restore
    throw e
  | .ok () =>
    match sources with
    | none =>
      let _ ← BuildM.ofHost sub.restore
    | some t =>
      let (_, swapped) ← BuildM.ofHost sub.swap
      let r ← BuildM.attempt t
      let _ ← BuildM.ofHost swapped.restore
      match r with
      | .ok () => pure ()
      | .error e => throw e

/-- What runs for a unit. -/
inductive UnitTask where
  | compile (t : CompileTask)
  /-- The test declaration alone, then the other sources with the declarations swapped. -/
  | overwriting (declaration : CompileTask) (sources : Option CompileTask)
      (substitution : Substitution)

namespace UnitTask

/-- The files of the task. -/
def files : UnitTask → List String
  | .compile t => t.files
  | .overwriting d s _ => d.files ++ (s.map (·.files)).getD []

/-- The task as the log shows it; an overwriting task lists its steps, indented. -/
def describe : UnitTask → String
  | .compile t => t.describe
  | .overwriting d s _ =>
    let steps := "\n".intercalate (d.describe :: (s.map (·.describe)).toList)
    "OverwritingTestCompilation[\n  " ++ "\n  ".intercalate (steps.splitOn "\n") ++ "\n]"

/-- The options without `--patch-module` and its value. -/
def withoutPatchModule : List String → List String
  | "--patch-module" :: _ :: rest => withoutPatchModule rest
  | ["--patch-module"] => []
  | o :: rest => o :: withoutPatchModule rest
  | [] => []

/-- The task that compiles files of a unit; split in two when they include the test declaration
that overwrites the main one. -/
def make (unit : Source.SourceUnit) (options files : List String)
    (overwrite : Option Source.Overwrite) (testOutput : String) : UnitTask :=
  match overwrite with
  | some o =>
    if files.contains o.testModuleInfo then
      let others := files.filter fun f => f != o.testModuleInfo && Path.fileName f != Change.moduleSource
      .overwriting ⟨unit, withoutPatchModule options, [o.testModuleInfo]⟩
        (if others.isEmpty then none else some ⟨unit, options, others⟩)
        (Substitution.make o testOutput)
    else .compile ⟨unit, options, files⟩
  | none => .compile ⟨unit, options, files⟩

/-- Runs a unit task. -/
def run (task : UnitTask) (backend : Backend) (argsFile : Option String) : BuildM Unit :=
  match task with
  | .compile t => t.run backend argsFile
  | .overwriting d s sub => sub.around (d.run backend argsFile) (s.map (·.run backend argsFile))

end UnitTask

/-- The state a sequence leaves a task in: not run, run to its end, or failed. -/
inductive TaskState where
  | pending
  | completed
  | failed
deriving DecidableEq, Repr

/-- Announces a task before it runs. -/
def announce (task : UnitTask) : BuildM Unit :=
  HostM.logVerbose s!"Executing {task.describe}"

/-- Notes how many tasks are skipped after a compilation failure. -/
def noteSkipped (failure : Failure) (pending : Nat) : BuildM Unit := do
  if let .compilation .. := failure then
    if pending > 0 then
      let plural := if pending != 1 then "s" else ""
      HostM.logVerbose s!"Skipping {pending} remaining task{plural}"

/-- Runs tasks in order until one fails: the failure, if any, and the state of each task. The
tasks after a failure stay pending. -/
def runInOrder (backend : Backend) (argsFile : Option String) :
    List UnitTask → BuildM (Option Failure × List TaskState)
  | [] => pure (none, [])
  | task :: rest => do
    announce task
    match ← BuildM.attempt (task.run backend argsFile) with
    | .ok () =>
      let r ← runInOrder backend argsFile rest
      return (r.1, .completed :: r.2)
    | .error e =>
      noteSkipped e rest.length
      return (some e, .failed :: rest.map fun _ => .pending)

end JavaBuild
