/-!
# The flags of javac

How many values follow each flag on a javac command line. Flags of the table take one value or
none; a flag that starts with one of the value-carrying prefixes (`-g:`, `-J`, `-A`, …) takes
none; `--flag=value` takes none when `--flag` takes one. Any other flag is unknown, arity -1.

`split` cuts a command line into its options (each flag with the values it takes) and the
source files, which are the arguments that do not start with `-`.
-/

namespace JavaBuild.Javac

/-- The flags of javac and the number of values each takes. -/
def flagTable : List (String × Nat) := [
  ("--release", 1), ("-source", 1), ("--source", 1), ("-target", 1), ("--target", 1),
  ("-d", 1), ("-s", 1), ("-h", 1), ("-encoding", 1), ("--class-path", 1), ("-classpath", 1),
  ("-cp", 1), ("--module-path", 1), ("-p", 1), ("--source-path", 1), ("-sourcepath", 1),
  ("--module-source-path", 1), ("--upgrade-module-path", 1), ("--system", 1),
  ("--processor-path", 1), ("-processorpath", 1), ("--processor-module-path", 1),
  ("-processor", 1), ("--add-modules", 1), ("--limit-modules", 1), ("--add-reads", 1),
  ("--add-exports", 1), ("--patch-module", 1), ("--module", 1), ("-m", 1),
  ("--module-version", 1), ("--default-module-for-created-files", 1), ("-Xmaxerrs", 1),
  ("-Xmaxwarns", 1),
  ("-g", 0), ("-nowarn", 0), ("-verbose", 0), ("-deprecation", 0), ("-parameters", 0),
  ("--enable-preview", 0), ("-Werror", 0), ("-Xlint", 0), ("-Xdoclint", 0), ("-version", 0),
  ("--version", 0), ("-help", 0), ("--help", 0), ("-X", 0)]

/-- Prefixes of flags that carry their value after a colon or directly appended. -/
def valuePrefixes : List String :=
  ["-g:", "-proc:", "-implicit:", "-Xlint:", "-Xdoclint:", "-Xdiags:", "-Xplugin:", "-XD", "-J",
   "-A"]

/-- The flag of `--flag=value`: what stands before the first `=` (all of an argument without
one). -/
def flagName (arg : String) : String := String.ofList (arg.toList.takeWhile (· != '='))

/-- The number of values that follow a flag, or -1 for a flag javac does not know. -/
def arity (flag : String) : Int :=
  match flagTable.lookup flag with
  | some n => n
  | none =>
    if valuePrefixes.any (fun p => flag.startsWith p) then 0
    else if flag.startsWith "--" && flag.toList.contains '=' &&
        flagTable.lookup (flagName flag) == some 1 then 0
    else -1

/-- The arity that accepts every flag: unknown flags take no value. -/
def lenientArity (flag : String) : Int := max (arity flag) 0

/-- Cuts a command line into options (each flag with the values that its arity gives it) and
source files (the other arguments). -/
def splitWith (ar : String → Int) : List String → List String × List String
  | [] => ([], [])
  | arg :: rest =>
    if arg.startsWith "-" then
      let n := (max (ar arg) 0).toNat
      let (os, fs) := splitWith ar (rest.drop n)
      (arg :: rest.take n ++ os, fs)
    else
      let (os, fs) := splitWith ar rest
      (os, arg :: fs)
termination_by args => args.length
decreasing_by all_goals (simp; try omega)

end JavaBuild.Javac
