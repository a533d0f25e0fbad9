import JavaBuild.Tool
import JavaBuild.Data.Zip.Reader
import JavaBuild.Module.Name
import JavaBuild.Module.Declaration
import JavaBuild.Module.Description

/-!
# Modules of artifacts

`describeArtifact` tells which module a dependency artifact holds, or none when it belongs to the
unnamed module.

- A class directory holds a named module when it has a `module-info.class`; `javap` prints that
  class back as a declaration, which is read with `readDeclaration` once version suffixes
  (`@…`) are removed.
- A jar with a `module-info.class` is described by `jar --describe-module`.
- A jar without one holds an automatic module when its manifest has an
  `Automatic-Module-Name` attribute; the name must be a valid module name. An archive that
  cannot be read fails with the fault of the archive.
- Anything else (a missing path, a file that is no archive) is unnamed.

The tools are taken from `JAVA_HOME/bin` when that variable is set and the tool is there.
-/

namespace JavaBuild.Module

/-- The value of the first manifest line that starts with `key:`, trimmed. -/
def manifestAttribute (manifest key : String) : Option String :=
  let pfx := key ++ ":"
  (manifest.textLines.find? (·.startsWith pfx)).map fun line =>
    (String.ofList (line.toList.drop pfx.length)).trimBlanks

/-- Whether a character ends a version suffix. -/
def isSuffixEnd (c : Char) : Bool := Text.isBlank c || c == ';' || c == '{'

/-- Removes the version suffixes `@…` of a printed declaration. -/
def dropVersions : List Char → List Char
  | [] => []
  | '@' :: c :: rest =>
    if isSuffixEnd c then '@' :: dropVersions (c :: rest)
    else dropVersions ((c :: rest).dropWhile fun d => !isSuffixEnd d)
  | c :: rest => c :: dropVersions rest
termination_by cs => cs.length
decreasing_by
  all_goals simp_wf
  · have := (List.dropWhile_sublist (fun d => !isSuffixEnd d) (l := c :: rest)).length_le
    simp only [List.length_cons] at this
    omega

/-- The failure of a declaration that cannot be read. -/
def DeclarationError.failure : DeclarationError → Failure
  | .missingWord => .badData "IndexError" "list index out of range"
  | e => .config e.message

/-- The descriptor of a class directory, as `javap` prints its `module-info.class`. -/
def describeClassDirectory (path : String) : HostM Descriptor := do
  let classFile := Path.join path "module-info.class"
  let (rc, output) ← HostM.runTool [← HostM.jdkExecutable "javap", classFile]
  if rc != 0 then HostM.configError s!"javap failed for {classFile}:\n{output}"
  HostM.logDebug s!"Module declaration of {path}:\n{output}"
  match readDeclaration (String.ofList (dropVersions output.toList)) (some path) with
  | .ok d => pure d
  | .error e => throw e.failure

/-- The descriptor that `jar --describe-module` prints for a jar. -/
def describeJar (path : String) : HostM Descriptor := do
  let (rc, output) ← HostM.runTool [← HostM.jdkExecutable "jar", "--describe-module", "--file", path]
  if rc != 0 then HostM.configError s!"jar --describe-module failed for {path}:\n{output}"
  let lines := output.textLines
  HostM.logDebug (s!"Module description of {path}:\n" ++ "\n".intercalate lines)
  match readDescription lines (some path) with
  | .ok d => pure d
  | .error e => HostM.configError e.message

/-- The failure of an archive that cannot be read, by the kind of its fault. -/
def archiveFailure : Zip.Fault → Failure
  | .malformed m => .badData "BadZipFile" m
  | .unsupported m => .badData "NotImplementedError" m
  | .encrypted m => .badData "RuntimeError" m
  | .undecodable m => .undecodable m
  | .truncated => .badData "EOFError" ""
  | .beforeStart => .badData "OSError" "[Errno 22] Invalid argument"
  | .corrupt kind m => .badData kind m

/-- Reads an archive, failing with the archive's fault. -/
def readArchive {α : Type} (r : Except Zip.Fault α) : HostM α :=
  match r with
  | .ok a => pure a
  | .error f => throw (archiveFailure f)

/-- The module of an artifact (a jar or a class directory), or none for the unnamed module. -/
def describeArtifact (path : String) : HostM (Option Descriptor) := do
  if ← HostM.isDir path then
    if ← HostM.pathExists (Path.join path "module-info.class") then
      return some (← describeClassDirectory path)
    else return none
  if !(← HostM.isFile path) then return none
  let bytes ← HostM.readBytes path
  if !(← readArchive (Zip.isArchive bytes)) then return none
  let dir ← readArchive (Zip.directory bytes)
  if dir.names.contains "module-info.class" then return some (← describeJar path)
  match dir.find? "META-INF/MANIFEST.MF" with
  | none => return none
  | some entry =>
    let data ← readArchive (Zip.readEntry bytes entry)
    match manifestAttribute (Utf8.decodeLossy data) "Automatic-Module-Name" with
    | none => return none
    | some name =>
      if !isValidName name then
        HostM.configError ("Invalid Automatic-Module-Name '" ++ name ++ s!"' in {path}")
      return some (Descriptor.make name [("java.base", ["mandated"])] [] [] [] [] (some path) [] true false)

end JavaBuild.Module
