import JavaBuild.Files.Path
import JavaBuild.Text.Surrogate

/-!
# The disk

A disk maps absolute paths in normal form to entries: a directory, or a file with its bytes,
modification time (nanoseconds since the epoch) and executable flag. The root `/` is always a
directory and is not stored. Every stored path's parent is a stored directory or the root.

Operations fail with an `Errno` as the operating system would: a missing part of a path gives
`noEntry`, a file where a directory is needed gives `notDirectory`, a directory where a file is
needed gives `isDirectory`. Paths given to the operations here are absolute and normal; callers
that hold relative paths resolve them first and keep the text they were given for messages.
-/

namespace JavaBuild

/-- Why a file operation failed. -/
inductive Errno where
  | noEntry
  | accessDenied
  | alreadyExists
  | notDirectory
  | isDirectory
  | notEmpty
  | invalidArgument
  | execFormat
deriving DecidableEq, Repr

/-- The number and the text of an error. -/
def Errno.code : Errno → Nat
  | .noEntry => 2
  | .accessDenied => 13
  | .alreadyExists => 17
  | .notDirectory => 20
  | .isDirectory => 21
  | .notEmpty => 39
  | .invalidArgument => 22
  | .execFormat => 8

/-- The system's description of an error. -/
def Errno.text : Errno → String
  | .noEntry => "No such file or directory"
  | .accessDenied => "Permission denied"
  | .alreadyExists => "File exists"
  | .notDirectory => "Not a directory"
  | .isDirectory => "Is a directory"
  | .notEmpty => "Directory not empty"
  | .invalidArgument => "Invalid argument"
  | .execFormat => "Exec format error"

/-- What a path names. -/
inductive Entry where
  | file (data : ByteArray) (mtime : Int) (executable : Bool)
  | dir
deriving Inhabited

/-- Whether an entry is a directory. -/
def Entry.isDir : Entry → Bool
  | .dir => true
  | _ => false

/-- The files and directories of a disk, by absolute normal path. -/
structure Disk where
  entries : List (String × Entry) := []
deriving Inhabited

namespace Disk

/-- The entry stored at a path. -/
def find? (d : Disk) (p : String) : Option Entry :=
  if p == "/" then some .dir else d.entries.lookup p

/-- The proper ancestors of an absolute path, outermost first, the root excluded. -/
def ancestors (p : String) : List String :=
  let segs := Path.segments p
  (List.range (segs.length - 1)).map fun k => "/" ++ "/".intercalate (segs.take (k + 1))

/-- Checks that every proper ancestor of a path is a directory. -/
def checkAncestors (d : Disk) (p : String) : Except Errno Unit :=
  (ancestors p).forM fun a =>
    match d.find? a with
    | some .dir => pure ()
    | some _ => throw .notDirectory
    | none => throw .noEntry

/-- The entry at a path, or why there is none. -/
def lookup (d : Disk) (p : String) : Except Errno Entry := do
  d.checkAncestors p
  match d.find? p with
  | some e => pure e
  | none => throw .noEntry

/-- Whether a path names an entry. -/
def exists? (d : Disk) (p : String) : Bool := (d.lookup p).toBool

/-- Whether a path names a directory. -/
def isDir (d : Disk) (p : String) : Bool :=
  match d.lookup p with
  | .ok .dir => true
  | _ => false

/-- Whether a path names a file. -/
def isFile (d : Disk) (p : String) : Bool :=
  match d.lookup p with
  | .ok (.file ..) => true
  | _ => false

/-- Whether `p` lies strictly inside the directory `dir`. -/
def isInside (dir p : String) : Bool :=
  if dir == "/" then p != "/" else p.startsWith (dir ++ "/")

/-- Stores an entry at a path, replacing the one there. -/
def put (d : Disk) (p : String) (e : Entry) : Disk :=
  if d.entries.any (·.1 == p) then
    { entries := d.entries.map fun (q, f) => if q == p then (q, e) else (q, f) }
  else { entries := d.entries ++ [(p, e)] }

/-- Removes the entry at a path and everything inside it. -/
def erase (d : Disk) (p : String) : Disk :=
  { entries := d.entries.filter fun (q, _) => q != p && !isInside p q }

/-- The names of the entries directly inside a directory, sorted. -/
def childNames (d : Disk) (dir : String) : List String :=
  let names := d.entries.filterMap fun (q, _) =>
    if isInside dir q && Path.parent q == dir then some (Path.fileName q) else none
  names.mergeSort Text.textLe

/-- Creates a directory whose parent exists. -/
def mkdir (d : Disk) (p : String) : Except Errno Disk := do
  d.checkAncestors p
  match d.find? p with
  | some _ => throw .alreadyExists
  | none => pure (d.put p .dir)

/-- Writes a file whose parent exists, keeping its executable flag if it existed. -/
def writeFile (d : Disk) (p : String) (data : ByteArray) (mtime : Int) : Except Errno Disk := do
  d.checkAncestors p
  match d.find? p with
  | some .dir => throw .isDirectory
  | some (.file _ _ x) => pure (d.put p (.file data mtime x))
  | none => pure (d.put p (.file data mtime false))

/-- The bytes of a file. -/
def readFile (d : Disk) (p : String) : Except Errno ByteArray := do
  match ← d.lookup p with
  | .dir => throw .isDirectory
  | .file data _ _ => pure data

/-- Removes a file. -/
def removeFile (d : Disk) (p : String) : Except Errno Disk := do
  match ← d.lookup p with
  | .dir => throw .isDirectory
  | .file .. => pure (d.erase p)

/-- The disk with the entry at `src`, and everything inside it, moved to `dst`; what was at `dst`
is gone. -/
def moveTree (d : Disk) (src dst : String) : Disk :=
  let moved := d.entries.filterMap fun (q, f) =>
    if q == src then some (dst, f)
    else if isInside src q then some (dst ++ String.ofList (q.toList.drop src.length), f)
    else none
  let rest := (d.erase dst).erase src
  { entries := rest.entries ++ moved }

/-- Moves an entry, replacing a file or an empty directory at the target. -/
def rename (d : Disk) (src dst : String) : Except Errno Disk := do
  let e ← d.lookup src
  d.checkAncestors dst
  if src == dst then return d
  match e, d.find? dst with
  | .file .., some .dir => throw .isDirectory
  | .dir, some (.file ..) => throw .notDirectory
  | .dir, some .dir =>
    if !(d.childNames dst).isEmpty then throw .notEmpty
    else if isInside src dst then throw .invalidArgument
    else pure ()
  | .dir, none => if isInside src dst then throw .invalidArgument else pure ()
  | _, _ => pure ()
  pure (d.moveTree src dst)

/-- Sets the modification time of an entry. -/
def touch (d : Disk) (p : String) (mtime : Int) : Except Errno Disk := do
  match ← d.lookup p with
  | .dir => pure d
  | .file data _ x => pure (d.put p (.file data mtime x))

/-- Marks a file executable or not. -/
def setExecutable (d : Disk) (p : String) (x : Bool) : Disk :=
  match d.find? p with
  | some (.file data m _) => d.put p (.file data m x)
  | _ => d

/-- Creates a directory and its missing ancestors; an existing directory is kept. -/
def makeDirs (d : Disk) (p : String) : Except Errno Disk := do
  let mut disk := d
  for a in ancestors p ++ [p] do
    match disk.find? a with
    | some .dir => pure ()
    | some _ => if a == p then throw .alreadyExists else throw .notDirectory
    | none => disk := disk.put a .dir
  pure disk

/-- The paths of the files inside a directory, relative to it, each directory's own files
(sorted) before those of its subdirectories (sorted). -/
def walkFiles (d : Disk) (dir : String) (fuel : Nat) : List String :=
  match fuel with
  | 0 => []
  | fuel + 1 =>
    let names := d.childNames dir
    let full (n : String) := if dir == "/" then "/" ++ n else dir ++ "/" ++ n
    let files := names.filter fun n => !(d.isDir (full n))
    let dirs := names.filter fun n => d.isDir (full n)
    files ++ dirs.flatMap fun n => (d.walkFiles (full n) fuel).map fun r => n ++ "/" ++ r

/-- The files inside a directory, relative to it, in walking order; none if it is no directory. -/
def listFiles (d : Disk) (dir : String) : List String :=
  if d.isDir dir then d.walkFiles dir (d.entries.length + 1) else []

end Disk

end JavaBuild
