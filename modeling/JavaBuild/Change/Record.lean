import JavaBuild.Change.Stored
import JavaBuild.Change.Symbols
import JavaBuild.Digest.Sha256
import JavaBuild.Files.Path

/-!
# Build status records

After a build the change tracker keeps a record of it: for every source file its modification
time, the digest of its content, the output directory of its unit and (for Java sources) its
symbols; the fingerprint of the compiler options; the identities of the dependencies, sorted; and
the size and modification time of every file of the output directories.

A record is stored as JSON with sorted member names and read back with `Record.ofJson`. The file
may have been changed by anyone, so the stored fields keep the values they hold (`Json`), and
every use of a field takes it as `Stored` says. A record whose format is not `1` is read as an
empty record of that format: nothing else in it is trusted.

The main definitions are `Record.create`, `Record.toJson`, `Record.ofJson` and
`Record.outputIntact`, which tells whether the output directories still hold what the record saw.
-/

namespace JavaBuild.Change

/-- The name of a module declaration's source. -/
def moduleSource : String := "module-info.java"

/-- The name of a compiled module declaration. -/
def moduleClass : String := "module-info.class"

/-- Symbols as a record keeps them. A record read back may have been changed, so the package
and the three lists hold the values stored, texts or not. -/
structure StoredSymbols where
  package : Json
  types : List Json
  imports : List Json
  references : List Json
deriving Inhabited

/-- The symbols of a scan as a record keeps them. -/
def Symbols.stored (s : Symbols) : StoredSymbols :=
  { package := .str s.package, types := s.types.map .str, imports := s.imports.map .str,
    references := s.references.map .str }

namespace StoredSymbols

/-- The name of a type as the file that declares it is referred to: qualified by the package
when there is one (the package and the type shown as text), else the type itself. -/
def qualified (s : StoredSymbols) (t : Json) : Json :=
  if Stored.truthy s.package then .str (Stored.display s.package ++ "." ++ Stored.display t) else t

/-- Whether an import names `name` as the prefix of a member or nested type: `i` starts with
`name.`. Both must be texts. -/
def importsMember (imports : List Json) (name : Json) : Except Fault Bool :=
  imports.anyM fun i =>
    match i with
    | .str i => do return i.startsWith (← Stored.plusText name ".")
    | i => .error (.noAttribute
        s!"{Text.literal (Stored.kindName i)} object has no attribute 'startswith'")

/-- Whether a file may reference one of the types that `other` declares: by its qualified name,
by an import of it or of a member of it, or by its simple name from the same package or through
an import of the whole package. The references and imports are taken as sets. -/
def uses (s other : StoredSymbols) : Except Fault Bool := do
  let refs ← Stored.setOf s.references
  let imports ← Stored.setOf s.imports
  other.types.anyM fun t => do
    let name := other.qualified t
    if ← Stored.memberOf name refs then return true
    if ← Stored.memberOf name imports then return true
    if ← importsMember imports name then return true
    if !(← Stored.memberOf t refs) then return false
    if Stored.equal s.package other.package then return true
    if !Stored.truthy other.package then return false
    Stored.memberOf (.str (Stored.display other.package ++ ".*")) imports

/-- Symbols as stored. -/
def toJson (s : StoredSymbols) : Json :=
  .obj [("package", s.package), ("types", .arr s.types), ("imports", .arr s.imports),
    ("references", .arr s.references)]

end StoredSymbols

/-- Symbols as stored. -/
def Symbols.toJson (s : Symbols) : Json := s.stored.toJson

/-- The state of a source file when it was compiled. -/
structure FileStatus where
  /-- The modification time in seconds. -/
  mtime : Binary64
  /-- The SHA-256 digest of the content, in hexadecimal. -/
  digest : String
  /-- The output directory of the file's unit. -/
  output : String
  /-- What a Java source declares and uses. -/
  symbols : Option StoredSymbols := none

namespace FileStatus

/-- The directory of a package: its name with dots made slashes, none for no package. Only a
text has dots to replace. -/
def packageDir (package : Json) : Except Fault String :=
  if !Stored.truthy package then .ok ""
  else match package with
    | .str p => .ok (p.replace "." "/")
    | p => .error (.noAttribute
        s!"{Text.literal (Stored.kindName p)} object has no attribute 'replace'")

/-- The class file of the source's top-level type: the module's class for a module declaration,
else a file named for the source in the directory of its package. -/
def classFile (st : FileStatus) (path : String) : Except Fault String := do
  if Path.fileName path == moduleSource then return Path.join st.output moduleClass
  let dir ← match st.symbols with
    | some s => packageDir s.package
    | none => pure ""
  return Path.join (Path.join st.output dir) (Path.stem path ++ ".class")

end FileStatus

/-- A status as stored; symbols only when known. -/
def FileStatus.toJson (st : FileStatus) : Json :=
  .obj ([("mtime", .float st.mtime), ("digest", .str st.digest), ("output", .str st.output)] ++
    match st.symbols with
    | some s => [("symbols", s.toJson)]
    | none => [])

/-- What a build leaves: the record of its sources, options, dependencies and outputs. -/
structure Record where
  /-- The format; `1` for the records this library writes. -/
  format : Json := .int 1
  /-- The status of each source file. -/
  files : List (String × FileStatus)
  /-- The fingerprint of the compiler options. -/
  options : Json
  /-- The identities of the dependencies, sorted. -/
  dependencies : List Json
  /-- For each output directory, each file with its size and modification time. -/
  outputs : List (String × List (String × List Json))

namespace Record

/-- The record of a build with the given sources, fingerprint, dependencies and outputs. -/
def create (files : List (String × FileStatus)) (fingerprint : String)
    (dependencies : List String) (outputs : List (String × List (String × Nat × Binary64))) :
    Record :=
  { files, options := .str fingerprint, dependencies := (sortTexts dependencies).map .str,
    outputs := outputs.map fun (d, es) =>
      (d, es.map fun (rel, size, mtime) => (rel, [.int size, .float mtime])) }

/-- The record as stored, with the time of the build. -/
def toJson (r : Record) (buildTime : Binary64) : Json :=
  .obj [("format", r.format), ("buildTime", .float buildTime), ("options", r.options),
    ("dependencies", .arr r.dependencies),
    ("outputs", .obj (r.outputs.map fun (d, es) => (d, .obj (es.map fun (rel, v) => (rel, .arr v))))),
    ("files", .obj (r.files.map fun (p, st) => (p, st.toJson)))]

/-- The stored text of the record: indented by one space per level, members sorted. -/
def toText (r : Record) (buildTime : Binary64) : String := (r.toJson buildTime).renderIndented

end Record

/-- Symbols read back: the package as stored, and each list from a stored sequence. -/
def StoredSymbols.ofStored (j : Json) : Except Fault StoredSymbols := do
  let package ← Stored.member j "package"
  let types ← Stored.items (← Stored.member j "types")
  let imports ← Stored.items (← Stored.member j "imports")
  let references ← Stored.items (← Stored.member j "references")
  return { package, types, imports, references }

/-- A status read back. The time, digest and output are read first, the symbols last. -/
def FileStatus.ofStored (j : Json) : Except Fault FileStatus := do
  let ms ← Stored.members j "get"
  let symbols := ms.lookup "symbols"
  let mtime ← Stored.seconds (← Stored.member j "mtime")
  let digest := Stored.display (← Stored.member j "digest")
  let output := Stored.display (← Stored.member j "output")
  let symbols ← match symbols with
    | none | some .null => pure none
    | some s => some <$> StoredSymbols.ofStored s
  return { mtime, digest, output, symbols }

/-- A record read back from its JSON value. -/
def Record.ofJson (data : Json) : Except Fault Record := do
  let ms ← Stored.members data "get"
  let format := (ms.lookup "format").getD .null
  if !Stored.isOne format then
    return { format, files := [], options := .str "", dependencies := [], outputs := [] }
  let files ← Stored.members (← Stored.member data "files") "items"
  let files ← files.mapM fun (p, st) => do return (p, ← FileStatus.ofStored st)
  let options ← Stored.member data "options"
  let dependencies ← Stored.member data "dependencies"
  let outputs ← Stored.members (← Stored.member data "outputs") "items"
  let outputs ← outputs.mapM fun (d, entries) => do
    let entries ← Stored.members entries "items"
    return (d, ← entries.mapM fun (rel, v) => do return (rel, ← Stored.items v))
  let dependencies ← Stored.sort (← Stored.items dependencies)
  return { format, files, options, dependencies, outputs }

/-- The size and modification time of every file of each directory, in walking order; a
directory that does not exist has no files. -/
def outputManifest (dirs : List String) :
    HostM (List (String × List (String × Nat × Binary64))) := do
  let mut manifest : List (String × List (String × Nat × Binary64)) := []
  for d in dirs do
    let mut entries : List (String × Nat × Binary64) := []
    if ← HostM.isDir d then
      for rel in ← HostM.listFiles d do
        let p := Path.join d rel
        let size := match ← HostM.stat p with
          | .file data _ _ => data.size
          | .dir => 4096
        entries := Assoc.put entries rel (size, ← HostM.mtime p)
    manifest := Assoc.put manifest d entries
  return manifest

/-- The tolerance of time comparisons in seconds: the milliseconds as the nearest binary64 value,
divided by a thousand. Milliseconds beyond the range of binary64 are a fault. -/
def timeTolerance (staleMillis : Int) : Except Fault Binary64 := do
  match ← Stored.intToFloat staleMillis with
  | .finite v _ => return Binary64.round (v / 1000)
  | x => return x

/-- The tolerance of time comparisons, failing the build for milliseconds beyond binary64. -/
def toleranceOf (staleMillis : Int) : HostM Binary64 :=
  match timeTolerance staleMillis with
  | .ok x => pure x
  | .error f => throw f.failure

/-- Whether a stored size is the size of a file. -/
def sameSize (stored : Json) (size : Nat) : Bool :=
  match Stored.numberValue? stored with
  | some v => v == (size : Rat)
  | none => false

/-- Whether a file of an output directory still has its recorded size and, within the
tolerance, its recorded modification time. The stored value must be a size and a time. -/
def entryIntact (tol : Binary64) (d rel : String) (v : List Json) : HostM Bool := do
  let (size, time) ← match v with
    | [size, time] => pure (size, time)
    | _ =>
      let m := if v.length < 2 then
          s!"not enough values to unpack (expected 2, got {v.length})"
        else "too many values to unpack (expected 2)"
      throw (Fault.wrongValue m).failure
  let p := Path.join d rel
  let entry ← tryCatch (some <$> HostM.stat p) fun
    | .os _ => pure none
    | e => throw e
  match entry with
  | none =>
    HostM.logDebug s!"Output file {p} is missing"
    return false
  | some e =>
    let actual := match e with
      | .file data _ _ => data.size
      | .dir => 4096
    if !sameSize size actual then
      HostM.logDebug s!"Output file {p} was modified"
      return false
    let stored ← match time with
      | .float x => pure x
      | .int n =>
        match Stored.intToFloat n with
        | .ok x => pure x
        | .error f => throw f.failure
      | .bool b => pure (Binary64.ofInt (if b then 1 else 0))
      | t =>
        throw (Fault.wrongType
          s!"unsupported operand type(s) for -: 'float' and {Text.literal (Stored.kindName t)}").failure
    if tol.lt (Binary64.abs (Binary64.sub (← HostM.mtime p) stored)) then
      HostM.logDebug s!"Output file {p} was modified"
      return false
    return true

/-- Whether the files of an output directory are intact, checked in order up to the first that
is not. -/
def entriesIntact (tol : Binary64) (d : String) : List (String × List Json) → HostM Bool
  | [] => pure true
  | (rel, v) :: rest => do
    if ← entryIntact tol d rel v then entriesIntact tol d rest else return false

/-- Whether the output directories are intact, checked in order up to the first that is not. -/
def outputsIntact (tol : Binary64) : List (String × List (String × List Json)) → HostM Bool
  | [] => pure true
  | (d, entries) :: rest => do
    if ← entriesIntact tol d entries then outputsIntact tol rest else return false

/-- Whether the output directories still hold every file of the record, each with its size and
a modification time within the tolerance. -/
def Record.outputIntact (r : Record) (staleMillis : Int) : HostM Bool := do
  let tol ← toleranceOf staleMillis
  outputsIntact tol r.outputs

end JavaBuild.Change
