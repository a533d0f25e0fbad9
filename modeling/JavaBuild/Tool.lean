import JavaBuild.Host
import JavaBuild.Shell.Run

/-!
# Running tools

A build runs external tools (`javac`, `jar`, `javap`) and reads what they print. A tool named by
a path with a slash is found relative to the working directory; a bare name would be searched on
the program path, which holds none of these tools here, so it is not found. A tool is a script:
it must be an executable file that starts with `#!`, and it runs with the shell of
`Shell.Script.run`. Its output, standard output and errors merged, must be UTF-8, and is read
with universal line ends.
-/

namespace JavaBuild.HostM

/-- The `JAVA_HOME/bin/<name>` executable when that file exists, else the bare name. -/
def jdkExecutable (name : String) : HostM String := do
  match ← getEnv "JAVA_HOME" with
  | some home =>
    if home.isEmpty then return name
    let candidate := Path.join (Path.join home "bin") name
    if ← pathExists candidate then return candidate else return name
  | none => return name

/-- Runs a tool: its exit status and its output. Fails with the error of starting it when it
cannot be started, and with the first malformed sequence when its output is not UTF-8. -/
def runTool (args : List String) (cwd : Option String := none) : HostM (Nat × String) := do
  logDebug (" ".intercalate args)
  let h ← get
  let exe := args.headD ""
  let dir := Path.absolute h.cwd (cwd.getD h.cwd)
  if !exe.contains '/' then throw (.os ⟨.noEntry, exe, none⟩)
  let abs := Path.absolute dir exe
  match h.disk.lookup abs with
  | .error e => throw (.os ⟨e, exe, none⟩)
  | .ok .dir => throw (.os ⟨.accessDenied, exe, none⟩)
  | .ok (.file data _ executable) =>
    if !executable then throw (.os ⟨.accessDenied, exe, none⟩)
    let text := Utf8.decodeLossy data
    if !text.startsWith "#!" then throw (.os ⟨.execFormat, exe, none⟩)
    let outcome := Shell.Script.run h.disk dir exe text (args.drop 1)
    match Utf8.decode outcome.output with
    | .ok text => return (outcome.status, String.ofList (universalNewlines text.toList))
    | .error m => throw (.undecodable m)

end JavaBuild.HostM
