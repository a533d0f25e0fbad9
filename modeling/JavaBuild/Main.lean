import JavaBuild.CommandLine
import JavaBuild.Files.Snapshot

/-!
# The executable

`jcompile [options] {compile,test-compile}` builds the project in the working directory. The
files of the project are named on standard input, one path a line, relative to the working
directory (as `find . -type f` prints them). They are read with modification time 0, the build
runs on them, and the files that it writes, replaces or deletes are then written, replaced or
deleted. What the build prints is printed, and its exit status is the program's.
-/

open JavaBuild

/-- The non-empty lines of a stream, without their line ends. -/
partial def readLines (s : IO.FS.Stream) (acc : Array String) : IO (Array String) := do
  let line ← s.getLine
  if line.isEmpty then return acc
  let text := line.trimAsciiEnd.toString
  readLines s (if text.isEmpty then acc else acc.push text)

/-- Runs the command line on the files named on standard input. -/
def main (args : List String) : IO UInt32 := do
  let cwd := (← IO.getEnv "PWD").getD "/"
  let paths := (← readLines (← IO.getStdin) #[]).toList.map (Path.absolute cwd)
  let files ← paths.mapM fun (p : String) => do return (p, ← IO.FS.readBinFile p)
  let mut env : List (String × String) := []
  for name in ["JCOMPILE_JAVAC", "JAVA_HOME"] do
    if let some v ← IO.getEnv name then env := env ++ [(name, v)]
  let disk := Disk.ofFiles cwd files 0
  let (r, host) := (runCommandLine args).run.run { disk, cwd, env, clock := 0 }
  IO.print host.out
  IO.eprint host.err
  for (p, change) in Disk.fileChanges disk host.disk do
    match change with
    | some data =>
      IO.FS.createDirAll (Path.parent p)
      IO.FS.writeBinFile p data
    | none => IO.FS.removeFile p
  match r with
  | .ok code => return code.toUInt32
  | .error e =>
    IO.eprintln e.message
    return 1
