import JavaBuild.Tool
import JavaBuild.Diagnostic
import JavaBuild.Javac.Flags
import JavaBuild.Javac.Output
import JavaBuild.Javac.ArgumentFile
import JavaBuild.Change.Symbols
import JavaBuild.Digest.Sha256

/-!
# Compiler backends

A backend compiles a command line (options, then source files) and reports diagnostics:

- `javac` runs the compiler's executable. The options for its launcher (`-J…`) go on the command
  line; the others go into an argument file in the temporary directory, named with `@`, which is
  deleted afterwards. The output is read as the compiler's diagnostics; an exit status other than
  0 without an error among them adds one error that quotes the output. An executable that cannot
  be started is reported as an error too.
- `stub` runs nothing: it splits the command line leniently, and for every source writes a class
  file into the `-d` directory (in the directory of the source's package) that holds the magic
  number of class files and the SHA-256 digest of the source, so that distinct sources give
  distinct classes. A script may make an invocation report given diagnostics instead, or fail
  without a diagnostic.

The executable of `javac` is the configured one, else `JCOMPILE_JAVAC` when it is set, else
`$JAVA_HOME/bin/javac` when that exists, else `javac`.
-/

namespace JavaBuild

/-- Invocations of the stub that report given diagnostics instead of compiling, and those that
compile but fail. -/
structure StubScript where
  failures : List (Nat × List Diagnostic) := []
  silent : List Nat := []

/-- A compiler backend. -/
inductive Backend where
  | javac (executable : String)
  | stub (script : StubScript)

/-- An invocation of the stub: its options and its sources. -/
structure Invocation where
  options : List String
  files : List String

/-- What a compiler run gives: whether it succeeded, and what it reported. -/
structure CompileResult where
  success : Bool
  diagnostics : List Diagnostic

namespace Backend

/-- The short name of a backend. -/
def name : Backend → String
  | .javac _ => "javac"
  | .stub _ => "stub"

/-- Whether the backend runs an executable that checks the options itself. -/
def forked : Backend → Bool
  | .javac _ => true
  | .stub _ => false

/-- How many values follow a flag, or `-1` for a flag that the backend does not know. -/
def arity : Backend → String → Int
  | .javac _ => Javac.arity
  | .stub _ => Javac.lenientArity

/-- The names of the backends. -/
def ids : List String := ["javac", "stub"]

end Backend

/-- The `javac` executable when none is configured. -/
def defaultJavac : HostM String := do
  match ← HostM.getEnv "JCOMPILE_JAVAC" with
  | some e => if !e.isEmpty then return e
  | none => pure ()
  match ← HostM.getEnv "JAVA_HOME" with
  | some home =>
    if !home.isEmpty then
      let candidate := Path.join (Path.join home "bin") "javac"
      if ← HostM.pathExists candidate then return candidate
    return "javac"
  | none => return "javac"

/-- The backend of a name, with the configured executable for `javac`. -/
def backendOf (id : String) (executable : Option String) (script : StubScript := {}) :
    HostM Backend := do
  match id with
  | "javac" =>
    match executable with
    | some e => if e.isEmpty then return .javac (← defaultJavac) else return .javac e
    | none => return .javac (← defaultJavac)
  | "stub" => return .stub script
  | _ =>
    let names := ", ".intercalate Backend.ids
    throw (.config s!"Unknown compiler '{id}'. Available compilers are: {names}")

/-- Runs the `javac` executable. -/
def runJavac (exe : String) (args : List String) : HostM CompileResult := do
  let launcher := args.filter (·.startsWith "-J")
  let arguments := args.filter (!·.startsWith "-J")
  let argfile ← HostM.makeTemp "/tmp" "javac" ".args"
  let written ← tryCatch (do HostM.writeTextSafely argfile (Javac.argumentFileText arguments); pure none)
    (fun e => pure (some e))
  if let some e := written then
    let _ ← HostM.deleteFile argfile
    throw e
  let run ← tryCatch (Except.ok <$> HostM.runTool ([exe] ++ launcher ++ ["@" ++ argfile]))
    (fun e => pure (Except.error e))
  let _ ← HostM.deleteFile argfile
  match run with
  | .error (.os e) =>
    return ⟨false, [{ kind := .error, message := s!"Cannot run {exe}: {e.message}" }]⟩
  | .error e => throw e
  | .ok (status, output) =>
    HostM.logDebug output
    let ds ← match Javac.readOutput? output with
      | .ok ds => pure ds
      | .error m => throw (.badData "ValueError" m)
    let exited := if status != 0 && !ds.any (·.isError) then
        [{ kind := .error,
           message := s!"{Path.fileName exe} exited with status {status}:\n{output.trimBlanks}" }]
      else []
    return ⟨status == 0, ds ++ exited⟩

/-- The class file that the stub writes for a source into an output directory. -/
def stubClassFile (source output : String) (text : String) : String :=
  if Path.fileName source == "module-info.java" then Path.join output "module-info.class"
  else
    let packageDir := match (Change.findAll text.toList.toArray Change.packageAt).head? with
      | some p => "/".intercalate ((p.splitOn ".").filter (!·.isEmpty))
      | none => ""
    Path.join (Path.join output packageDir) (Path.stem source ++ ".class")

/-- The magic number that starts every class file. -/
def classMagic : ByteArray := ⟨#[0xCA, 0xFE, 0xBA, 0xBE]⟩

/-- The invocation of the stub for a command line: its options and its sources. -/
def stubInvocation (args : List String) : Invocation :=
  let (options, files) := Javac.splitWith Javac.lenientArity args
  ⟨options, files⟩

/-- Runs the stub as invocation `index`. -/
def runStub (script : StubScript) (index : Nat) (inv : Invocation) : HostM CompileResult := do
  HostM.logVerbose s!"[stub compiler invocation {index}: {inv.files.length} files]"
  let scripted := !script.silent.contains index
  if let some ds := script.failures.lookup index then
    return ⟨!ds.any (·.isError) && scripted, ds⟩
  let output := ((inv.options.zip inv.options.tail).find? (·.1 == "-d")).map (·.2)
  if let some out := output then
    for source in inv.files do
      let content ← HostM.readBytes source
      let target := stubClassFile source out (Utf8.decodeLossy content)
      HostM.makeDirs (Path.parent target)
      HostM.writeBytes target (classMagic ++ Sha256.hash content)
  return ⟨scripted, []⟩

end JavaBuild
