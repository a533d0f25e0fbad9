import JavaBuild.Build.Task
import JavaBuild.Build.UnitOptions
import JavaBuild.Change.Tracker
import JavaBuild.Text.Printable

/-!
# Compiling the sources of a scope

`Executor.execute` compiles the units of a scope:

1. it derives the options of every unit; their fingerprint, the identities of the dependencies
   (for the tests, also a digest of the main classes) and the current sources are compared with
   the record of the previous build, and the tracker decides what to compile;
2. unless there is nothing to do, the record is deleted (so that an interrupted build compiles
   everything again) and the classes of removed sources are deleted;
3. a full build compiles every unit; an incremental build compiles the selected files, but the
   whole of a unit that is a module, and, in a unit that is not, with its own output directory on
   the class path, where the classes of the other files are;
4. the tasks run by ascending release; the new record is written in every case, but after a
   failed compilation without the files of the tasks that did not complete, so that they are
   compiled again next time. The summary of the diagnostics is printed at the end;
5. for tests with a patched module, the lines a test launcher needs are written to
   `module-info-patch.args` in the test output directory.
-/

namespace JavaBuild

/-- The checker of a backend's options. -/
def Backend.checker (b : Backend) : Checker := ⟨b.arity, b.forked⟩

/-- What compiling a scope did: the decision, the units compiled (by index), and the lines a test
launcher needs. -/
structure Execution where
  decision : Decision
  compiled : List Source.SourceUnit := []
  runtimeLines : List String := []

/-- The options with `entry` first on their class path, adding a class path if there is none. -/
def withClassPathEntry (entry : String) : List String → List String
  | o :: v :: rest =>
    if ["--class-path", "-classpath", "-cp"].contains o then o :: (entry ++ ":" ++ v) :: rest
    else o :: withClassPathEntry entry (v :: rest)
  | [o] => [o, "--class-path", entry]
  | [] => ["--class-path", entry]

/-- The name of the file that holds the lines a test launcher needs. -/
def modulePatchArgs : String := "module-info-patch.args"

/-- The sorted files of a directory with their sizes and times, as a list of quoted pairs whose
digest identifies the main classes that the tests are compiled against. -/
def manifestText (entries : List (String × Nat × Binary64)) : String :=
  let sorted := entries.mergeSort fun a b => Text.textLe a.1 b.1
  "[" ++ ", ".intercalate (sorted.map fun (rel, size, mtime) =>
    "(" ++ Text.literal rel ++ ", [" ++ toString size ++ ", " ++ mtime.text ++ "])") ++ "]"

/-- The current files of no task that did not complete: after a failed compilation the record
keeps only these, so that the files of the failed and the skipped tasks compile again. -/
def keptFiles (current : List String) (tasks : List UnitTask) (states : List TaskState) :
    List String :=
  let failed := (tasks.zip states).flatMap fun (t, st) => if st == .completed then [] else t.files
  current.filter fun p => !failed.contains p

/-- What the compilation of a scope uses. -/
structure Executor where
  config : Configuration
  scope : Stage
  backend : Backend
  /-- The main classes, for the tests. -/
  mainOutput : Option String := none
  /-- The order in which the process goes through a set of module names. -/
  enumerate : List String → List String := List.eraseDups

namespace Executor

/-- Where the arguments of a failed compilation are written. -/
def argsFile (e : Executor) (cwd : String) : String :=
  Path.join (e.config.path cwd e.config.buildDirectory)
    (if e.scope == .test then "javac-test.args" else "javac.args")

/-- The file of the scope's record. -/
def statusFile (e : Executor) (cwd : String) : Change.StatusFile :=
  ⟨Path.join (e.config.statusPath cwd) (e.scope.name ++ ".json")⟩

/-- The output directory of the scope. -/
def outputRoot (e : Executor) (cwd : String) : String :=
  e.config.path cwd (if e.scope == .test then e.config.testOutputDirectory else e.config.outputDirectory)

/-- The sorted identities of the dependencies of the scope; for the tests, with the digest of the
main classes. -/
def dependencyIdentities (e : Executor) : BuildM (List String) := do
  let mut ids ← match (← BuildM.state).dependencies with
    | some r => BuildM.ofHost (identities (r.forStage e.scope))
    | none => pure []
  if e.scope == .test then
    if let some m := e.mainOutput then
      let manifest ← BuildM.ofHost (Change.outputManifest [m])
      ids := ids ++ ["main-classes:" ++ Sha256.hexDigestOfText (manifestText ((manifest.lookup m).getD []))]
  return sortTexts ids

/-- The options of every unit. -/
def synthesize (e : Executor) (sources : Source.SourceSet) : BuildM (List UnitOptions) :=
  let s : Synthesizer :=
    { config := e.config, checker := e.backend.checker, scope := e.scope, mainOutput := e.mainOutput,
      enumerate := e.enumerate }
  s.setOptions sources

/-- The files to compile, by unit index: every file for a full build; else the selected ones, or
all files of a unit that is a module. -/
def filesToCompile (sources : Source.SourceSet) (decision : Decision) :
    HostM (List (Nat × List String)) := do
  let indexed := sources.units.zipIdx
  if decision.kind == .full then return indexed.map fun (u, i) => (i, u.files)
  let mut result : List (Nat × List String) := []
  for (u, i) in indexed do
    let mut files := u.files.filter decision.files.contains
    if !files.isEmpty && (u.isModular || sources.overwrite.isSome) then
      HostM.logVerbose s!"Compiling all files of {u.describe} because it belongs to a module"
      files := u.files
    if !files.isEmpty then result := result ++ [(i, files)]
  return result

/-- Writes the lines a test launcher needs, each once. -/
def writeModulePatchArgs (e : Executor) (cwd : String) (lines : List String) : HostM Unit := do
  let path := Path.join (e.config.path cwd e.config.testOutputDirectory) modulePatchArgs
  try
    HostM.writeTextSafely path ("\n".intercalate lines.eraseDups ++ "\n")
    HostM.logVerbose s!"Wrote {path}"
  catch
    | .os err => HostM.warn s!"Cannot write {path}: {err.message}"
    | err => throw err

/-- Compiles the units of the scope. -/
def execute (e : Executor) (sources : Source.SourceSet) : BuildM Execution := do
  let cwd := (← BuildM.state).host.cwd
  let tracker : Change.Tracker ← match parseAspects e.config.incrementalCompilation with
    | .ok aspects => pure { aspects, staleMillis := e.config.staleMillis }
    | .error m => throw (.config m)
  let synthesized ← e.synthesize sources
  let fingerprint := Sha256.hexDigestOfText ("\n".intercalate (synthesized.map (·.options.fingerprint)))
  let dependencies ← e.dependencyIdentities
  let current ← BuildM.ofHost (Change.scanUnits (sources.units.map fun u => ⟨u.files, u.output⟩))
  let status := e.statusFile cwd
  let previous ← BuildM.ofHost status.load
  let decision ← BuildM.ofHost (tracker.decide current previous fingerprint dependencies)
  HostM.log (decision.message (← BuildM.state).host.console.showChanges)
  if decision.kind == .noOp then return { decision }
  BuildM.ofHost status.delete
  if let some prev := previous then
    for (path, st) in prev.files do
      if !current.any (·.1 == path) then
        for deleted in ← BuildM.ofHost (Change.deleteClassFiles path st) do
          HostM.logVerbose s!"Deleted {deleted}"
  let selection ← BuildM.ofHost (filesToCompile sources decision)
  let testOutput := e.config.path cwd e.config.testOutputDirectory
  let tasks := selection.filterMap fun (i, files) =>
    match sources.units[i]?, synthesized[i]? with
    | some unit, some opts =>
      if files.isEmpty then none
      else
        let options := if decision.kind == .incremental && !unit.isModular then
            withClassPathEntry unit.output opts.options.items
          else opts.options.items
        some (UnitTask.make unit options files sources.overwrite testOutput)
    | _, _ => none
  let outputs := [e.outputRoot cwd]
  let persist (compiled : Option (List String)) : BuildM Unit := do
    let record ← BuildM.ofHost (Change.Tracker.createRecord current fingerprint dependencies outputs compiled)
    let _ ← BuildM.ofHost (status.write record)
  let summary : BuildM Unit := do BuildM.ofHost (← BuildM.state).diagnostics.logSummary
  BuildM.andFinally (do
      let (failure, states) ← runInOrder e.backend (some (e.argsFile cwd)) tasks
      if let some f := failure then
        if let .compilation .. := f then
          persist (some (keptFiles (current.map (·.1)) tasks states))
        throw f) summary
  persist none
  let runtimeLines := synthesized.flatMap (·.runtimeLines)
  if e.scope == .test && !runtimeLines.isEmpty then
    BuildM.ofHost (e.writeModulePatchArgs cwd runtimeLines)
  let compiled := (selection.map (·.1)).mergeSort (· ≤ ·) |>.filterMap (sources.units[·]?)
  return { decision, compiled, runtimeLines }

end Executor

end JavaBuild
