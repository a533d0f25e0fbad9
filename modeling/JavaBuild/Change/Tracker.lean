import JavaBuild.Change.Record
import JavaBuild.Change.Aspect
import JavaBuild.Change.Decision
import JavaBuild.Module.Closure
import JavaBuild.Data.Json.Reader

/-!
# The change tracker

The change tracker compares the sources of a build with the record of the previous one and
decides what to compile. It checks, in this order and as far as its aspects ask:

1. without a record, or with the aspect `none`, everything is compiled;
2. a record of another format, or other compiler options, forces a full build;
3. a source is *added* when the record lacks it, *changed* when its digest differs or its
   modification time moved by more than the tolerance, and *removed* when only the record has it;
   with the aspect `classes`, a source whose class file is older than it counts as changed;
4. other dependencies, a changed module declaration, added or removed sources (with the aspect
   `additions`), or output directories that differ from the record force a full build;
5. if nothing changed there is nothing to compile; else the changed and added sources are
   compiled together with their *dependents*: the recorded sources that use a type of a changed
   or removed source, directly or through other dependents (`dependents`).

`StatusFile` reads and writes the record. A record that cannot be read is reported as a warning
and counts as no record, so that everything is compiled again.
-/

namespace JavaBuild.Change

/-- What the tracker compares, and the tolerance of time comparisons in milliseconds. -/
structure Tracker where
  aspects : List Aspect := Aspect.defaults
  staleMillis : Int := 0

/-- A unit of sources to scan: its files and its output directory. -/
structure ScanUnit where
  files : List String
  output : String

/-- The current status of every source file of the units; a file listed twice keeps its first
place and its last status. -/
def scanUnits (units : List ScanUnit) : HostM (List (String × FileStatus)) := do
  let mut current : List (String × FileStatus) := []
  for u in units do
    for p in u.files do
      let text ← HostM.readTextLossy p
      let symbols := if p.endsWith ".java" then some (Change.scan text).stored else none
      let mtime ← HostM.mtime p
      let digest := Sha256.hexDigest (← HostM.readBytes p)
      current := Assoc.put current p { mtime, digest, output := u.output, symbols }
  return current

/-- The modification time of a path, if it names an entry. -/
def timestamp? (p : String) : HostM (Option Binary64) := do
  if ← HostM.pathExists p then return some (← HostM.mtime p) else return none

/-- Whether a recorded file uses the types that another declares, both with known symbols. -/
def usesTypesOf (user declaring : Option StoredSymbols) : Except Fault Bool :=
  match user, declaring with
  | some u, some d => u.uses d
  | _, _ => .ok false

/-- The recorded files that use a type declared by one of the roots, directly or through other
such files, in the order found: the last pending file is taken first, and every recorded file
not yet visited is checked against it in the order of the record, those that use it becoming
pending in turn. Each round takes one pending file, and a file becomes pending once at most, so
the rounds are bounded by the roots and the files. -/
def dependents (files : List (String × FileStatus)) (roots : List String) :
    Except Fault (List String) :=
  go roots roots [] (roots.length + files.length + 1)
where
  /-- Checks every unvisited file against one declaring file. -/
  visit (declaring : Option StoredSymbols) (state : List String × List String × List String)
      (file : String × FileStatus) : Except Fault (List String × List String × List String) := do
    let (pending, visited, found) := state
    let (other, st) := file
    if visited.contains other || st.symbols.isNone then return state
    if ← usesTypesOf st.symbols declaring then
      return (pending ++ [other], visited ++ [other], found ++ [other])
    return state
  go (pending visited found : List String) : Nat → Except Fault (List String)
    | 0 => pure found
    | fuel + 1 => do
      match pending.getLast? with
      | none => return found
      | some path =>
        let declaring := (files.lookup path).bind (·.symbols)
        let (pending, visited, found) ←
          files.foldlM (visit declaring) (pending.dropLast, visited, found)
        go pending visited found fuel

/-- The files of a list that another list holds, without repeats. -/
def keepListed (xs keep : List String) : List String :=
  (xs.filter keep.contains).eraseDups

/-- What changed between the stored dependency identities and the current ones: the lines
`  - id` for each stored identity that is no longer current, then `  + id` for each new one,
each group sorted. The stored identities are taken as a set, so a list or object among them is a
fault, and so is a vanished identity that is no text. -/
def dependencyChanges (stored : List Json) (current : List String) :
    Except Fault (List String) := do
  let storedSet ← Stored.setOf stored
  let currentSet := (current.map Json.str).eraseDupsBy Stored.same
  let gone ← Stored.sort (storedSet.filter fun j => !currentSet.any (Stored.same j))
  let new := sortTexts (current.eraseDups.filter fun d => !storedSet.any (Stored.same (.str d)))
  let goneLines ← gone.mapM (Stored.textPlus "  - ")
  return goneLines ++ new.map ("  + " ++ ·)

namespace Tracker

/-- The tolerance of the tracker's time comparisons, in seconds. -/
def tolerance (t : Tracker) : HostM Binary64 := toleranceOf t.staleMillis

/-- Whether a source changed since it was recorded: its digest, or its time beyond the
tolerance (a source that no longer exists has changed). -/
def modified (t : Tracker) (path : String) (now before : FileStatus) : HostM Bool := do
  if now.digest != before.digest then return true
  let tol ← t.tolerance
  match ← timestamp? path with
  | none => return true
  | some ts => return tol.lt (Binary64.abs (Binary64.sub ts before.mtime))

/-- Whether a class file is missing or older than its source beyond the tolerance. A source that
does not exist counts as newer. -/
def outdated (tol : Binary64) (classTime : Option Binary64) (source : String) : HostM Bool := do
  match classTime with
  | none => return true
  | some c =>
    match ← timestamp? source with
    | none => return true
    | some s => return tol.lt (Binary64.sub s c)

/-- The recorded sources that are no longer current, sorted. -/
def removedSources (prev : Record) (current : List (String × FileStatus)) : List String :=
  sortTexts ((prev.files.map (·.1)).filter fun p => !(current.any (·.1 == p)))

/-- The sources compared with the record, one after the other, each added to `changed` or
`added`: a source that the record lacks is added, one whose digest or time moved has changed. -/
def sourceChanges (t : Tracker) (prev : Record) (changed added : List String) :
    List (String × FileStatus) → HostM (List String × List String)
  | [] => pure (changed, added)
  | (p, st) :: rest =>
    match prev.files.lookup p with
    | none => t.sourceChanges prev changed (added ++ [p]) rest
    | some before => do
      if ← t.modified p st before then t.sourceChanges prev (changed ++ [p]) added rest
      else t.sourceChanges prev changed added rest

/-- The class files of the sources not yet touched, one after the other: a source whose class
file is older than it joins `changed`. With the aspect `additions`, a missing class file stops
the comparison with a full build, given as the error. -/
def classChanges (t : Tracker) (added changed : List String) :
    List (String × FileStatus) → HostM (Except Decision (List String))
  | [] => pure (.ok changed)
  | (p, st) :: rest =>
    if changed.contains p || added.contains p then t.classChanges added changed rest
    else do
      let classFile ← match st.classFile p with
        | .ok f => pure f
        | .error f => throw f.failure
      let tol ← t.tolerance
      let classTime ← timestamp? classFile
      if classTime.isNone && t.aspects.contains .additions then
        return .error (Decision.full (some "of added source files") ["  + " ++ p])
      if ← outdated tol classTime p then t.classChanges added (changed ++ [p]) rest
      else t.classChanges added changed rest

/-- The decision once the sources are compared: other dependencies, a touched module declaration,
added or removed sources (with the aspect `additions`) or changed outputs force a full build;
else nothing or the touched sources and their dependents are compiled. -/
def conclude (t : Tracker) (current : List (String × FileStatus)) (prev : Record)
    (dependencies changed added removed : List String) : HostM Decision := do
  let has (a : Aspect) : Bool := t.aspects.contains a
  if has .dependencies && Stored.texts? prev.dependencies != some (sortTexts dependencies) then
    match dependencyChanges prev.dependencies dependencies with
    | .ok lines => return Decision.full (some "some dependencies changed") lines
    | .error f => throw f.failure
  let touched := changed ++ added ++ removed
  if let some p := touched.find? (Path.fileName · == moduleSource) then
    return Decision.full (some s!"the module declaration {p} changed")
  if has .additions && !(added.isEmpty && removed.isEmpty) then
    return Decision.full (some "of added or removed source files")
      (added.map ("  + " ++ ·) ++ removed.map ("  - " ++ ·))
  if !(← prev.outputIntact t.staleMillis) then
    return Decision.full (some "the content of the output directory changed")
  if touched.isEmpty then return Decision.noOp
  let roots := changed ++ removed
  let unknown := roots.find? fun p =>
    match prev.files.lookup p with
    | some { symbols := some _, .. } => false
    | _ => true
  if let some p := unknown then
    return Decision.full (some s!"no dependency information is available for {p}")
  let users ← match dependents prev.files roots with
    | .ok users => pure users
    | .error f => throw f.failure
  let files := sortTexts (keepListed (changed ++ added ++ users) (current.map (·.1)))
  HostM.logVerbose (s!"{changed.length} modified, {added.length} added, {removed.length} removed, " ++
    s!"{users.length} dependent source files")
  return Decision.incremental files removed

/-- Decides what to compile, given the current sources, the previous record, the current
fingerprint of the compiler options and the current dependency identities. -/
def decide (t : Tracker) (current : List (String × FileStatus)) (previous : Option Record)
    (fingerprint : String) (dependencies : List String) : HostM Decision := do
  let has (a : Aspect) : Bool := t.aspects.contains a
  let some prev := previous | return Decision.full
  if has .none then return Decision.full
  if !Stored.isOne prev.format then
    return Decision.full (some "the build status was written by another version")
  if has .options && !(match prev.options with | .str s => s == fingerprint | _ => false) then
    return Decision.full (some "of changes in compiler options")
  let (changed, added, removed) ← if has .sources then do
      let (changed, added) ← t.sourceChanges prev [] [] current
      pure (changed, added, removedSources prev current)
    else pure ([], [], [])
  if has .classes then
    match ← t.classChanges added changed current with
    | .ok changed => t.conclude current prev dependencies changed added removed
    | .error d => return d
  else t.conclude current prev dependencies changed added removed

/-- The record of the build that just ended, of the compiled files only when they are given, so
that the others are compiled again next time. -/
def createRecord (current : List (String × FileStatus)) (fingerprint : String)
    (dependencies : List String) (outputs : List String) (compiled : Option (List String)) :
    HostM Record := do
  let files := match compiled with
    | none => current
    | some cs => cs.foldl (fun acc p =>
        match current.lookup p with
        | some st => Assoc.put acc p st
        | none => acc) []
  return Record.create files fingerprint dependencies (← outputManifest outputs)

end Tracker

/-- The names under which the class files of a source are found: the stem of its file, then each
type it declares, each name once. -/
def classNames (path : String) (st : FileStatus) : List Json :=
  match st.symbols with
  | some s => s.types.foldl (fun names t => if names.any (Stored.same t) then names
      else names ++ [t]) [.str (Path.stem path)]
  | none => [.str (Path.stem path)]

/-- The value of a read of the record, its fault failing the build. -/
def liftFault {β : Type} (r : Except Fault β) : HostM β :=
  match r with
  | .ok b => pure b
  | .error f => throw f.failure

/-- The class files compiled from a source: the module's class for a module declaration, else
the class of each of its names and their nested classes `Name$*.class` found in the directory of
its package. A name that is no text has no class file and is a fault. -/
def classFileCandidates (path : String) (st : FileStatus) : HostM (List String) := do
  if Path.fileName path == moduleSource then return [Path.join st.output moduleClass]
  let dir := Path.parent (← liftFault (st.classFile path))
  let inside ← HostM.entryNames dir
  let mut found : List String := []
  for n in classNames path st do
    let file ← liftFault (Stored.plusText n ".class")
    let nested := match n with
      | .str n => (inside.filter fun e => e.startsWith (n ++ "$") && e.endsWith ".class" &&
          e.length ≥ n.length + 7).map (Path.join dir ·)
      | _ => []
    found := found ++ Path.join dir file :: nested
  return found

/-- Deletes the files among `cs` that exist, in order, and gives those deleted. -/
def deleteFiles (cs : List String) : HostM (List String) := do
  let mut deleted := []
  for c in cs do
    if ← HostM.deleteFile c then deleted := deleted ++ [c]
  return deleted

/-- Deletes the class files compiled from a source and gives those deleted. -/
def deleteClassFiles (path : String) (st : FileStatus) : HostM (List String) := do
  deleteFiles (← classFileCandidates path st)

/-- The file that holds the record of a scope. -/
structure StatusFile where
  path : String

namespace StatusFile

/-- Reads the record; none, with a warning, if the file cannot be read or is corrupted, and none
without one if there is no file. -/
def load (sf : StatusFile) : HostM (Option Record) := do
  if !(← HostM.pathExists sf.path) then return none
  let text ← tryCatch (Except.ok <$> HostM.readText sf.path) (fun e => pure (.error e))
  match text with
  | .error (.os e) =>
    HostM.warn s!"Cannot read the build status {sf.path}: {e.message}"
    return none
  | .error (.undecodable m) =>
    HostM.warn s!"Ignoring the corrupted build status {sf.path}: {m.message}"
    return none
  | .error e => throw e
  | .ok text =>
    match Json.parse text with
    | .error e =>
      HostM.warn s!"Ignoring the corrupted build status {sf.path}: {e.message text}"
      return none
    | .ok data =>
      match Record.ofJson data with
      | .ok r => return some r
      | .error f =>
        if f.isCorruption then
          HostM.warn s!"Ignoring the corrupted build status {sf.path}: {f.message}"
          return none
        else throw f.failure

/-- Deletes the record, warning if it cannot be deleted. -/
def delete (sf : StatusFile) : HostM Unit := do
  try
    let _ ← HostM.deleteFile sf.path
  catch
    | .os e => HostM.warn s!"Cannot delete the build status {sf.path}: {e.message}"
    | e => throw e

/-- Writes the record; whether it was written, with a warning if not. -/
def write (sf : StatusFile) (r : Record) : HostM Bool := do
  let now := HostM.secondsOfNanos (← get).clock
  try
    HostM.writeTextSafely sf.path (r.toText now)
    HostM.logDebug s!"Wrote build status {sf.path}"
    return true
  catch
    | .os e =>
      HostM.warn s!"Cannot write the build status {sf.path}: {e.message}"
      return false
    | e => throw e

end StatusFile

end JavaBuild.Change
