import JavaBuild.Build.Goal
import JavaBuild.Configuration.Pom

/-!
# The command line

`jcompile [options] {compile,test-compile}` compiles the main sources or the tests of the project
that a descriptor (`--pom`, by default `pom.xml`) describes. `--compiler` and `--incremental`
replace the descriptor's compiler and tracked aspects; `-d <scope>=<path>` adds a dependency
(repeatable). `-v` and `-V` make the output verbose and very verbose (the latter implies the
former), `--quiet` silences it, `--no-warning` silences warnings, and `--show-changes` lists what
caused a full rebuild.

Options are read the usual way of such command lines: a long option may be shortened to any
unambiguous prefix and given its value after `=`; short options may be grouped (`-vV`) and take
their value from the rest of the group (`-dtest=x.jar`) or after `=`; `--` ends the options.
Every argument is first classified (`classify`), so that an ambiguous abbreviation is refused
before anything else; negative numbers and arguments with a space read as values.

The exit status is 0 when the build succeeds and 1 when it fails; the errors of the build, of
its configuration and of its files are printed. A command line that cannot be read prints the
usage and exits with status 2; `-h` prints the help.
-/

namespace JavaBuild

/-- The switches and arguments of a command line. -/
structure Arguments where
  verbose : Bool := false
  veryVerbose : Bool := false
  warnings : Bool := true
  quiet : Bool := false
  showChanges : Bool := false
  goal : Option String := none
  /-- The descriptor; none when the option was left without a text (`--pom=--`). -/
  pom : Option String := some "pom.xml"
  compilerId : Option String := none
  incremental : Option String := none
  /-- The dependencies in the order given, none for one left without a text. -/
  dependencies : List (Option String) := []
deriving Inhabited

/-- An option of the command line. -/
inductive CliOption where
  | help
  | verbose
  | veryVerbose
  | noWarning
  | quiet
  | showChanges
  | pom
  | compiler
  | incremental
  | dependency
deriving DecidableEq, Inhabited

namespace CliOption

/-- Whether the option takes a value. -/
def takesValue : CliOption → Bool
  | .pom | .compiler | .incremental | .dependency => true
  | _ => false

/-- The option as error messages name it. -/
def title : CliOption → String
  | .help => "-h/--help"
  | .verbose => "-v"
  | .veryVerbose => "-V"
  | .noWarning => "--no-warning"
  | .quiet => "--quiet"
  | .showChanges => "--show-changes"
  | .pom => "--pom"
  | .compiler => "--compiler"
  | .incremental => "--incremental"
  | .dependency => "-d/--dependency"

end CliOption

/-- The long options. -/
def longOptions : List (String × CliOption) :=
  [("--help", .help), ("--no-warning", .noWarning), ("--quiet", .quiet),
    ("--show-changes", .showChanges), ("--pom", .pom), ("--compiler", .compiler),
    ("--incremental", .incremental), ("--dependency", .dependency)]

/-- The short options. -/
def shortOptions : List (Char × CliOption) :=
  [('h', .help), ('v', .verbose), ('V', .veryVerbose), ('d', .dependency)]

/-- The goals. -/
def goals : List String := ["compile", "test-compile"]

/-- The usage, as printed before an error. -/
def usageText : String :=
  "usage: jcompile [-h] [-v] [-V] [--no-warning] [--quiet] [--show-changes]\n" ++
  "                [--pom <path>] [--compiler <id>] [--incremental <aspects>]\n" ++
  "                [-d <scope>=<path>]\n" ++
  "                {compile,test-compile}"

/-- The help. -/
def helpText : String :=
  usageText ++ "\n\nCompiles the Java sources of a Maven project.\n\n" ++
  "positional arguments:\n" ++
  "  {compile,test-compile}\n" ++
  "                        the goal to execute\n\n" ++
  "options:\n" ++
  "  -h, --help            show this help message and exit\n" ++
  "  -v                    enable verbose output\n" ++
  "  -V                    enable very verbose output\n" ++
  "  --no-warning          disable warning messages\n" ++
  "  --quiet               disable log messages\n" ++
  "  --show-changes        list the changes that caused a full rebuild\n" ++
  "  --pom <path>          the project descriptor\n" ++
  "  --compiler <id>       the compiler backend, overrides compilerId\n" ++
  "  --incremental <aspects>\n" ++
  "                        the incremental build aspects, overrides\n" ++
  "                        incrementalCompilation\n" ++
  "  -d <scope>=<path>, --dependency <scope>=<path>\n" ++
  "                        a resolved dependency, repeatable\n"

/-- Why a command line is not run: it asks for help, or it cannot be read. -/
inductive CliStop where
  | help
  | usage (message : String)

/-- Whether an argument is a negative number, which reads as a value: a minus and digits of any
script, with at most one point that digits follow, and at most one final line feed. -/
def isNegativeNumber (a : String) : Bool :=
  let cs := a.toList
  let cs := if cs.getLast? == some '\n' then cs.dropLast else cs
  match cs with
  | '-' :: rest =>
    let (whole, frac) := rest.span Text.isDigit
    match frac with
    | [] => !whole.isEmpty
    | '.' :: ds => !ds.isEmpty && ds.all Text.isDigit
    | _ => false
  | _ => false

/-- How an argument of a command line reads. -/
inductive ArgumentKind where
  /-- A value: the goal, the value of the option before it, or an extra argument. -/
  | value
  /-- The `--` after which every argument is a value. -/
  | separator
  /-- An option that the command line does not have. -/
  | unknown
  /-- An option, written with one dash (`short`) or two, and the text attached to it: after `=`,
  or the rest of a group of short options. -/
  | option (o : CliOption) (short : Bool) (attached : Option String)
deriving Inhabited

/-- The option that a name spells exactly, and whether it is a short one. -/
def exactOption (name : String) : Option (CliOption × Bool) :=
  match longOptions.lookup name with
  | some o => some (o, false)
  | none =>
    match name.toList with
    | ['-', c] => (shortOptions.lookup c).map (·, true)
    | _ => none

/-- How an argument reads, before `--`. An argument that starts with a dash is an option: one
spelled exactly, or before an `=`; a long one abbreviated to a prefix of only one long option
(an abbreviation of several is refused); a short one followed by attached text. Otherwise it is
a value when it is a negative number or holds a space, and an unknown option when not. -/
def classify (a : String) : Except CliStop ArgumentKind :=
  if !a.startsWith "-" then .ok .value
  else if let some (o, short) := exactOption a then .ok (.option o short none)
  else if a.length == 1 then .ok .value
  else
    let (name, attached) := match a.splitOn "=" with
      | n :: v :: more => (n, some ("=".intercalate (v :: more)))
      | _ => (a, none)
    match (if attached.isSome then exactOption name else none) with
    | some (o, short) => .ok (.option o short attached)
    | none =>
      let other : ArgumentKind := if isNegativeNumber a || a.contains ' ' then .value else .unknown
      if a.startsWith "--" then
        match longOptions.filter (·.1.startsWith name) with
        | [] => .ok other
        | [(_, o)] => .ok (.option o false attached)
        | found =>
          let names := ", ".intercalate (found.map (·.1))
          .error (.usage s!"ambiguous option: {a} could match {names}")
      else
        match a.toList with
        | _ :: c :: rest =>
          match shortOptions.lookup c with
          | some o => .ok (.option o true (some (String.ofList rest)))
          | none => .ok other
        | _ => .ok other

/-- How the arguments read: each one as `classify` says until the first `--`, every one after it
a value. -/
def classifyAll : List String → Except CliStop (List (String × ArgumentKind))
  | [] => .ok []
  | a :: rest =>
    if a == "--" then .ok ((a, .separator) :: rest.map (·, .value))
    else do return (a, ← classify a) :: (← classifyAll rest)

/-- The refusal of text attached to an option that takes none. -/
def ignoredText (o : CliOption) (text : String) : CliStop :=
  .usage s!"argument {o.title}: ignored explicit argument {Text.literal text}"

/-- The value that text attached to an option gives. A lone `--` is dropped as the separator it
spells, as it is before the goal, and leaves the option an empty list of values rather than a
text: none. -/
def attachedValue (t : String) : Option String := if t == "--" then none else some t

/-- An option without attached text: with the next argument as its value if it takes one (which
must then be a value), and whether the next argument was taken. A switch has no value. -/
def plainOption (o : CliOption) (next : Option (String × ArgumentKind)) :
    Except CliStop (List (CliOption × Option String) × Bool) :=
  if o.takesValue then
    match next with
    | some (v, .value) => .ok ([(o, some v)], true)
    | _ => .error (.usage s!"argument {o.title}: expected one argument")
  else .ok ([(o, none)], false)

/-- A short option `o` followed by the rest of its group: an option that takes a value takes
the rest; one that takes none is followed by the options of the rest, one a character. -/
def groupOptions (o : CliOption) (next : Option (String × ArgumentKind)) :
    List Char → Except CliStop (List (CliOption × Option String) × Bool)
  | [] => plainOption o next
  | c :: rest =>
    if o.takesValue then .ok ([(o, attachedValue (String.ofList (c :: rest)))], false)
    else
      match shortOptions.lookup c with
      | some o' => do
        let (more, took) ← groupOptions o' next rest
        return ((o, none) :: more, took)
      | none => .error (ignoredText o (String.ofList (c :: rest)))

/-- The options that an argument stands for, each with its value, and whether the next argument
was taken as a value. Text attached to a long option, or empty text attached to a short one, is
its value, and refused when it takes none. -/
def optionsOf (o : CliOption) (short : Bool) (attached : Option String)
    (next : Option (String × ArgumentKind)) :
    Except CliStop (List (CliOption × Option String) × Bool) :=
  match attached with
  | none => plainOption o next
  | some t =>
    if o.takesValue then .ok ([(o, attachedValue t)], false)
    else if short && !t.isEmpty then groupOptions o next t.toList
    else .error (ignoredText o t)

/-- The arguments with an option applied. A compiler or aspects option left without a text is
as one given an empty text, which changes nothing. -/
def Arguments.apply (a : Arguments) (o : CliOption) (v : Option String) : Except CliStop Arguments :=
  match o with
  | .help => .error .help
  | .verbose => .ok { a with verbose := true }
  | .veryVerbose => .ok { a with veryVerbose := true }
  | .noWarning => .ok { a with warnings := false }
  | .quiet => .ok { a with quiet := true }
  | .showChanges => .ok { a with showChanges := true }
  | .pom => .ok { a with pom := v }
  | .compiler => .ok { a with compilerId := some (v.getD "") }
  | .incremental => .ok { a with incremental := some (v.getD "") }
  | .dependency => .ok { a with dependencies := a.dependencies ++ [v] }

/-- Reads the classified arguments one after the other; gives those that nothing takes. The first
value is the goal. The `--` is taken with the goal when it stands next to it or before it, and
is an extra argument otherwise. -/
def readArguments (a : Arguments) (extras : List String) (afterGoal : Bool) :
    List (String × ArgumentKind) → Except CliStop (Arguments × List String)
  | [] => .ok (a, extras)
  | (arg, kind) :: rest =>
    match kind with
    | .separator =>
      if a.goal.isNone || afterGoal then readArguments a extras false rest
      else readArguments a (extras ++ [arg]) false rest
    | .unknown => readArguments a (extras ++ [arg]) false rest
    | .value =>
      match a.goal with
      | none =>
        if goals.contains arg then readArguments { a with goal := some arg } extras true rest
        else
          let choices := ", ".intercalate (goals.map Text.literal)
          .error (.usage s!"argument goal: invalid choice: {Text.literal arg} (choose from {choices})")
      | some _ => readArguments a (extras ++ [arg]) false rest
    | .option o short attached => do
      let (actions, took) ← optionsOf o short attached rest.head?
      let a ← actions.foldlM (fun a (o, v) => a.apply o v) a
      readArguments a extras false (if took then rest.drop 1 else rest)
termination_by args => args.length
decreasing_by
  all_goals simp_wf
  all_goals (try split) <;> (try simp only [List.length_tail]) <;> omega

/-- Reads a command line. -/
def Arguments.read (argv : List String) : Except CliStop Arguments := do
  let (a, extras) ← readArguments {} [] false (← classifyAll argv)
  if a.goal.isNone then throw (.usage "the following arguments are required: goal")
  if !extras.isEmpty then
    let unknown := " ".intercalate extras
    throw (.usage s!"unrecognized arguments: {unknown}")
  return a

/-- The dependency that `<scope>=<path>` gives: an artifact named for the file, whose version is
unknown. -/
def dependencyOfSpec (spec : String) : Except Failure Dependency :=
  match spec.splitOn "=" with
  | scope :: v :: more =>
    let path := "=".intercalate (v :: more)
    if path.isEmpty then .error (.general s!"Invalid dependency '{spec}', expected <scope>=<path>")
    else match Dependency.make "local" (Path.stem path) "unspecified" scope path with
      | .ok d => .ok d
      | .error m => .error (.config m)
  | _ => .error (.general s!"Invalid dependency '{spec}', expected <scope>=<path>")

/-- Runs the goal of a command line; whether the build succeeded. -/
def Arguments.build (a : Arguments) : HostM Bool := do
  let some pomPath := a.pom
    | throw (.badData "TypeError" "expected str, bytes or os.PathLike object, not list")
  let c ← loadConfiguration pomPath
  let c := match a.compilerId with
    | some id => if id.isEmpty then c else { c with compilerId := id }
    | none => c
  let c := match a.incremental with
    | some i => if i.isEmpty then c else { c with incrementalCompilation := i }
    | none => c
  let deps ← HostM.ofExcept (a.dependencies.mapM fun d => match d with
    | some spec => dependencyOfSpec spec
    | none => .error (.badData "AttributeError" "'list' object has no attribute 'partition'"))
  let scope := if a.goal == some "test-compile" then Stage.test else .main
  let (r, _) ← (compileScope c scope).runOnHost (some { dependencies := deps })
  match r with
  | .ok result => return result.success
  | .error e => throw e

/-- Runs a command line: its exit status. Failures that are not errors of the build, its
configuration or its files are not caught. -/
def runCommandLine (argv : List String) : HostM Nat := do
  match Arguments.read argv with
  | .error .help =>
    HostM.printOut (String.ofList helpText.toList.dropLast)
    return 0
  | .error (.usage m) =>
    HostM.printErr (usageText ++ "\njcompile: error: " ++ m)
    return 2
  | .ok a =>
    let console : Console :=
      { verbose := a.verbose || a.veryVerbose, veryVerbose := a.veryVerbose,
        warnings := a.warnings, quiet := a.quiet, showChanges := a.showChanges }
    modify fun h => { h with console }
    try
      return if ← a.build then 0 else 1
    catch
      | .compilation ms file =>
        HostM.logError (Failure.compilationDetails ms file)
        HostM.logError (Failure.compilationSummary ms)
        return 1
      | .os e =>
        let name := if e.path.isEmpty then a.pom.getD "" else e.path
        HostM.logError s!"{name}: {e.errno.text}"
        return 1
      | .interrupted => return 1
      | e =>
        match e with
        | .config _ | .patchSyntax .. | .restore _ | .general _ =>
          HostM.logError e.message
          return 1
        | _ => throw e

end JavaBuild
