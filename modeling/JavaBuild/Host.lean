import JavaBuild.Files.Disk
import JavaBuild.Text.Printable
import JavaBuild.Text.Utf8
import JavaBuild.Data.Binary64

/-!
# The host

A build runs on a host: a disk, a working directory, environment variables, a clock, and a
console with an output and an error stream. `HostM` is a computation on the host that may fail
with a `Failure`; a failure keeps every effect made before it (files written, lines printed),
as a failed build does.

The clock counts nanoseconds and moves forward by one millisecond at every write, so files
written one after the other have increasing modification times.
-/

namespace JavaBuild

/-- A failed file operation: the error and the path (and target, for a move) as given. -/
structure OsError where
  errno : Errno
  path : String
  target : Option String := none
deriving Repr

/-- `[Errno 2] No such file or directory: 'a'`, with `-> 'b'` for a move. -/
def OsError.message (e : OsError) : String :=
  s!"[Errno {e.errno.code}] {e.errno.text}: {Text.literal e.path}" ++
    match e.target with
    | some t => s!" -> {Text.literal t}"
    | none => ""

/-- Why a computation on the host stopped. -/
inductive Failure where
  /-- The configuration is invalid or contradictory. -/
  | config (message : String)
  /-- A module-info patch does not follow its grammar. -/
  | patchSyntax (reason : String) (file : Option String) (line : Option Int)
  /-- The compiler reported errors. -/
  | compilation (messages : List String) (argsFile : Option String)
  /-- A swapped module descriptor could not be put back. -/
  | restore (message : String)
  /-- A request that the build cannot serve. -/
  | general (message : String)
  /-- A file operation failed. -/
  | os (e : OsError)
  /-- A text file is not UTF-8. -/
  | undecodable (m : Utf8.Malformed)
  /-- A configuration file is not well-formed XML. -/
  | malformedXml (message : String)
  /-- A configuration file declares an entity. -/
  | forbiddenEntity (message : String)
  /-- A dependency stage that does not exist. -/
  | unknownStage (stage : String)
  /-- Stored data of an unexpected shape: the kind of fault and its description. -/
  | badData (kind : String) (message : String)
  /-- The build was interrupted from outside. -/
  | interrupted
deriving Repr, Inhabited

/-- The one-line summary of a compilation failure, with the message when there is exactly one. -/
def Failure.compilationSummary (messages : List String) : String :=
  match messages with
  | [m] => "Compilation failure\n" ++ m
  | _ => "Compilation failure"

/-- The messages of a compilation failure, then where the compiler arguments were written. -/
def Failure.compilationDetails (messages : List String) (argsFile : Option String) : String :=
  "\n".intercalate (messages ++ match argsFile with
    | some f => if f.isEmpty then [] else [s!"Compiler arguments written to {f}"]
    | none => [])

/-- The message of a failure. -/
def Failure.message : Failure → String
  | .config m => m
  | .patchSyntax r f l =>
    match f, l with
    | some f, some l => s!"{f}:{l}: {r}"
    | some f, none => s!"{f}: {r}"
    | none, _ => r
  | .compilation ms _ => Failure.compilationSummary ms
  | .restore m => m
  | .general m => m
  | .os e => e.message
  | .undecodable m => m.message
  | .malformedXml m => m
  | .forbiddenEntity m => m
  | .unknownStage s => "Unknown stage '" ++ s ++ "'"
  | .badData _ m => m
  | .interrupted => ""

/-- The switches of the console. -/
structure Console where
  verbose : Bool := false
  veryVerbose : Bool := false
  warnings : Bool := true
  quiet : Bool := false
  showChanges : Bool := false
deriving Repr, Inhabited

/-- The machine a build runs on. -/
structure Host where
  disk : Disk
  cwd : String
  env : List (String × String) := []
  clock : Int
  serial : Nat := 0
  console : Console := {}
  out : String := ""
  err : String := ""
deriving Inhabited

/-- A computation on the host. -/
abbrev HostM := ExceptT Failure (StateM Host)

namespace HostM

/-- Fails with a configuration error. -/
def configError {α : Type} (message : String) : HostM α := throw (.config message)

/-- Lifts a result whose error is a configuration message. -/
def ofConfig {α : Type} : Except String α → HostM α
  | .ok a => pure a
  | .error m => throw (.config m)

/-- The value of a computation that may fail, failing as it does. -/
def ofExcept {α : Type} : Except Failure α → HostM α
  | .ok a => pure a
  | .error f => throw f

/-- Appends a line to the output stream. -/
def printOut (line : String) : HostM Unit :=
  modify fun h => { h with out := h.out ++ line ++ "\n" }

/-- Appends a line to the error stream. -/
def printErr (line : String) : HostM Unit :=
  modify fun h => { h with err := h.err ++ line ++ "\n" }

/-- Prints a message unless the console is quiet. -/
def log (line : String) : HostM Unit := do
  if !(← get).console.quiet then printOut line

/-- Prints a message in verbose mode. -/
def logVerbose (line : String) : HostM Unit := do
  if (← get).console.verbose then log line

/-- Prints a message in very verbose mode. -/
def logDebug (line : String) : HostM Unit := do
  if (← get).console.veryVerbose then log line

/-- Prints a warning unless warnings are off or the console is quiet. -/
def warn (line : String) : HostM Unit := do
  let c := (← get).console
  if c.warnings && !c.quiet then printErr ("WARNING: " ++ line)

/-- Prints an error message. -/
def logError (line : String) : HostM Unit := printErr line

/-- Prints a deprecation notice. -/
def logDeprecation (line : String) : HostM Unit := printErr ("[DEPRECATED] " ++ line)

/-- The console switches. -/
def console : HostM Console := return (← get).console

/-- The value of an environment variable. -/
def getEnv (name : String) : HostM (Option String) := return (← get).env.lookup name

/-- The current time, then the clock moves on by a millisecond. -/
def tick : HostM Int := do
  let h ← get
  set { h with clock := h.clock + 1000000 }
  pure h.clock

/-- The absolute normal form of a path as given. -/
def resolve (p : String) : HostM String := return Path.absolute (← get).cwd p

/-- Fails when a path holds the stand-in of a surrogate that the system cannot take. -/
def checkWritable (p : String) : HostM Unit :=
  match Text.unwritable? p with
  | none => pure ()
  | some (i, j) =>
    let what := if j == i + 1 then
        let u := (p.toList.getD i ' ')
        let code := ((Text.standInSurrogate? u).getD 0)
        s!"character '\\u{Text.hexPadded 4 code}' in position {i}"
      else s!"characters in position {i}-{j - 1}"
    throw (.badData "UnicodeEncodeError" s!"'utf-8' codec can't encode {what}: surrogates not allowed")

/-- Runs a disk query or change for the path `p` as given, failing with an OS error. The empty
path names no entry. -/
def onDisk {α : Type} (p : String) (f : Disk → String → Except Errno α) : HostM α := do
  checkWritable p
  let h ← get
  if p.isEmpty then throw (.os ⟨.noEntry, p, none⟩)
  match f h.disk (Path.absolute h.cwd p) with
  | .ok a => pure a
  | .error e => throw (.os ⟨e, p, none⟩)

/-- Applies a disk change for the path `p` as given. -/
def change (p : String) (f : Disk → String → Except Errno Disk) : HostM Unit := do
  let d ← onDisk p f
  modify fun h => { h with disk := d }

/-- Whether a path can name an entry: it is not empty and the system can take it. -/
def nameable (p : String) : Bool := !p.isEmpty && (Text.unwritable? p).isNone

/-- Whether a path names an entry. -/
def pathExists (p : String) : HostM Bool := do
  let h ← get
  pure (nameable p && h.disk.exists? (Path.absolute h.cwd p))

/-- Whether a path names a directory. -/
def isDir (p : String) : HostM Bool := do
  let h ← get
  pure (nameable p && h.disk.isDir (Path.absolute h.cwd p))

/-- Whether a path names a file. -/
def isFile (p : String) : HostM Bool := do
  let h ← get
  pure (nameable p && h.disk.isFile (Path.absolute h.cwd p))

/-- The entry at a path. -/
def stat (p : String) : HostM Entry := onDisk p Disk.lookup

/-- The bytes of a file. -/
def readBytes (p : String) : HostM ByteArray := onDisk p Disk.readFile

/-- Line ends as a text file reads them: a carriage return, alone or before a line feed, is a
line feed. -/
def universalNewlines : List Char → List Char
  | [] => []
  | '\r' :: '\n' :: rest => '\n' :: universalNewlines rest
  | '\r' :: rest => '\n' :: universalNewlines rest
  | c :: rest => c :: universalNewlines rest

/-- The text of a UTF-8 file, its line ends read as line feeds. -/
def readText (p : String) : HostM String := do
  match Utf8.decode (← readBytes p) with
  | .ok s => pure (String.ofList (universalNewlines s.toList))
  | .error m => throw (.undecodable m)

/-- The text of a file, malformed UTF-8 replaced, its line ends read as line feeds. -/
def readTextLossy (p : String) : HostM String := do
  pure (String.ofList (universalNewlines (Utf8.decodeLossy (← readBytes p)).toList))

/-- Writes a file now. -/
def writeBytes (p : String) (data : ByteArray) : HostM Unit := do
  let t ← tick
  change p fun d q => d.writeFile q data t

/-- Writes a text file in UTF-8. -/
def writeText (p : String) (s : String) : HostM Unit := writeBytes p s.toUTF8

/-- Removes a file. -/
def removeFile (p : String) : HostM Unit := change p Disk.removeFile

/-- Removes a file if it exists; whether it did. -/
def deleteFile (p : String) : HostM Bool := do
  try
    removeFile p
    pure true
  catch
    | .os ⟨.noEntry, _, _⟩ => pure false
    | e => throw e

/-- Moves a file or directory, replacing the target. -/
def rename (src dst : String) : HostM Unit := do
  let h ← get
  if src.isEmpty || dst.isEmpty then throw (.os ⟨.noEntry, src, some dst⟩)
  match h.disk.rename (Path.absolute h.cwd src) (Path.absolute h.cwd dst) with
  | .ok d => set { h with disk := d }
  | .error e => throw (.os ⟨e, src, some dst⟩)

/-- Creates a directory and its missing ancestors, as a recursive `mkdir`: the first part that
cannot be created is named in the error. -/
def makeDirs (p : String) : HostM Unit := do
  let h ← get
  if p.isEmpty then throw (.os ⟨.noEntry, p, none⟩)
  let abs := Path.absolute h.cwd p
  if h.disk.isDir abs then return
  -- the failing part is the first ancestor (or the path) that is missing or not a directory
  let parts := Disk.ancestors abs ++ [abs]
  let given := fun (a : String) =>
    if Path.isAbsolute p then a else Path.relative h.cwd a h.cwd
  for a in parts do
    let d := (← get).disk
    match d.find? a with
    | some .dir => pure ()
    | some _ =>
      if a == abs then throw (.os ⟨.alreadyExists, p, none⟩)
      else
        -- the next part cannot be created inside a file
        let next := parts.find? (fun b => Path.parent b == a)
        throw (.os ⟨.notDirectory, given (next.getD abs), none⟩)
    | none => modify fun h => { h with disk := h.disk.put a .dir }

/-- The files inside a directory, relative to it, in walking order. -/
def listFiles (dir : String) : HostM (List String) := do
  let h ← get
  pure (if dir.isEmpty then [] else h.disk.listFiles (Path.absolute h.cwd dir))

/-- The modification time of an entry in nanoseconds. -/
def mtimeNanos (p : String) : HostM Int := do
  match ← stat p with
  | .file _ m _ => pure m
  | .dir => pure 0

/-- One nanosecond, as the binary64 value nearest to it. -/
def nanoUnit : Binary64 := Binary64.round (1 / 1000000000)

/-- A time in nanoseconds as binary64 seconds: whole seconds plus nanoseconds times `1e-9`. -/
def secondsOfNanos (ns : Int) : Binary64 :=
  let sec := ns / 1000000000
  let nsec := ns % 1000000000
  Binary64.add (Binary64.ofInt sec) (Binary64.mul (Binary64.ofInt nsec) nanoUnit)

/-- The nanoseconds of a time given in binary64 seconds: whole seconds and the fraction's
nanoseconds, rounded down. -/
def nanosOfSeconds (x : Binary64) : Int :=
  match x with
  | .finite v _ =>
    let (i, f) := Binary64.splitFraction v
    let scaled := Binary64.mul (.finite f false) (Binary64.ofInt 1000000000)
    match scaled with
    | .finite s _ =>
      let n := s.floor
      if n ≥ 1000000000 then (i + 1) * 1000000000 + (n - 1000000000)
      else if n < 0 then (i - 1) * 1000000000 + (n + 1000000000)
      else i * 1000000000 + n
    | _ => i * 1000000000
  | _ => 0

/-- The modification time of an entry in seconds. -/
def mtime (p : String) : HostM Binary64 := do
  return secondsOfNanos (← mtimeNanos p)

/-- Sets the modification time of an entry. -/
def touch (p : String) (ns : Int) : HostM Unit := change p fun d q => d.touch q ns

/-- Eight characters for a temporary name, from a serial number. -/
def serialName (n : Nat) : String :=
  let alphabet := "abcdefghijklmnopqrstuvwxyz0123456789_".toList
  String.ofList ((List.range 8).map fun k => alphabet.getD (n / Nat.pow 37 k % 37) 'x')

/-- The path `dir/prefix<8 characters>suffix` of the temporary file numbered `serial`. -/
def tempName (dir pfx sfx : String) (serial : Nat) : String :=
  Path.join dir (pfx ++ serialName (serial + 7919) ++ sfx)

/-- Creates a new empty file `dir/prefix<8 characters>suffix` and gives its path. -/
def makeTemp (dir pfx sfx : String) : HostM String := do
  let h ← get
  set { h with serial := h.serial + 1 }
  let name := tempName dir pfx sfx h.serial
  writeBytes name ByteArray.empty
  pure name

/-- The directory a path lies in, `.` for a bare name. -/
def directoryOf (p : String) : String := if (Path.parent p).isEmpty then "." else Path.parent p

/-- Writes a text file through a new temporary file beside it that then replaces it, so that
no reader sees half a file. The directory is created first; if the move fails, the temporary
file stays. -/
def writeTextSafely (p text : String) : HostM Unit := do
  let dir := directoryOf p
  makeDirs dir
  let tmp ← makeTemp dir "tmp" (Path.fileName p)
  writeText tmp text
  rename tmp p

/-- The names of the entries directly inside a directory, sorted; none if it is no directory. -/
def entryNames (dir : String) : HostM (List String) := do
  checkWritable dir
  let h ← get
  let abs := Path.absolute h.cwd dir
  pure (if !dir.isEmpty && h.disk.isDir abs then h.disk.childNames abs else [])

end HostM

end JavaBuild
