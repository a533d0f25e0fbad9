import JavaBuild.Build.Context
import JavaBuild.Source.Unit
import JavaBuild.Source.Glob
import JavaBuild.Module.Artifact
import JavaBuild.Data.Assoc

/-!
# Resolving the sources of a scope

`Layout.resolve` groups the existing source directories of a scope by release (a directory's
own release, else the build's, else the default) and makes one unit per release, by ascending
release. A unit's files are those of its directories that their patterns select, in walking
order, each path once. The first unit writes into the output directory of the scope; a unit of
another release writes below `META-INF/versions/<release>` (a multi-release layout), except for
the default release.

Modules: a directory declares a module when it is configured with one or has a declaration
file. A test directory configured with a module but without declaration file patches that
module. When the main sources declare exactly one module, the tests are compiled as a patch of
it unless they declare modules of their own; a test declaration file then overwrites the main
module's declaration (see `Overwrite`).

Mixing directories with and without release is refused, as are source directories inside an
output directory and two directories of one scope and release that declare the same module.
-/

namespace JavaBuild.Source

/-- The module that a directory declares: the one configured, else the one that its declaration
file names. -/
def SourceDirectory.declaredModule (d : SourceDirectory) : HostM (Option String) := do
  if let some m := d.module then
    if !m.isEmpty then return some m
  if !(← HostM.pathExists d.moduleInfo) then return none
  match Module.readDeclaration (← HostM.readText d.moduleInfo) (some d.moduleInfo) with
  | .ok desc => return some desc.name
  | .error e => throw e.failure

/-- The source directories of both scopes, where their classes go, and the build's release. -/
structure Layout where
  directories : List SourceDirectory
  output : String
  testOutput : Option String
  release : Option Release

namespace Layout

/-- A layout with its output directories seen from `cwd`. -/
def make (cwd : String) (directories : List SourceDirectory) (output : String)
    (testOutput : Option String) (release : Option Release) : Layout :=
  { directories, output := Path.absolute cwd output,
    testOutput := (testOutput.filter (!·.isEmpty)).map (Path.absolute cwd), release }

/-- Where the classes of a scope go. -/
def outputRoot (l : Layout) : Stage → Except Failure String
  | .main => .ok l.output
  | .test =>
    match l.testOutput with
    | some t => .ok t
    | none => .error (.config "No output directory configured for test classes")

/-- The release of a directory's sources. -/
def releaseOf (l : Layout) (d : SourceDirectory) : Release :=
  d.release.getD (l.release.getD .default)

/-- The module that the main sources declare, if exactly one; looked up once per build. -/
def mainModuleName (l : Layout) : BuildM (Option String) := do
  if let some known := (← BuildM.context).mainModule then return known
  let mut declared : List String := []
  for d in l.directories do
    if d.scope == .main then
      if let some m ← d.declaredModule then
        if !m.isEmpty then declared := declared ++ [m]
  let names := sortedSet declared
  let found ← match names with
    | [] => pure none
    | [n] => pure (some n)
    | _ => do
      let listed := ", ".intercalate names
      HostM.logVerbose s!"Main sources declare several modules: {listed}"
      pure none
  BuildM.modifyContext fun c => { c with mainModule := some found }
  return found

/-- Where the classes of a unit go: the output directory of the scope for the lowest release
and the default one, a versioned directory in it for the others. -/
def outputFor (l : Layout) (scope : Stage) (release base : Release) : Except Failure String := do
  let root ← l.outputRoot scope
  if release == base || release.isDefault then return root
  return Path.join (Path.join (Path.join root "META-INF") "versions") release.toText

/-- Whether a source root is an output directory or lies inside one, as the check reads it: the
root is the output directory, or starts with it and a slash. -/
def collides (root out : String) : Bool := root == out || root.startsWith (out ++ "/")

/-- The first source directory whose root collides with an output directory, with that output
directory. -/
def firstCollision (cwd : String) (outputs : List String) (ds : List SourceDirectory) :
    Option (SourceDirectory × String) :=
  ds.findSome? fun d => (outputs.find? (collides (Path.absolute cwd d.root))).map (d, ·)

/-- The output directories that no source root may be or lie in: those of both scopes and of
the units. -/
def outputsOf (l : Layout) (units : List SourceUnit) : List String :=
  ([Path.normalize l.output] ++ (l.testOutput.map Path.normalize).toList ++
    units.map fun u => Path.normalize u.output).eraseDups

/-- Refuses source directories inside an output directory, and a module declared twice for one
scope and release. -/
def checkCollisions (l : Layout) (cwd : String) (units : List SourceUnit) : HostM Unit := do
  if let some (d, out) := firstCollision cwd (l.outputsOf units) l.directories then
    throw (.config s!"Source directory {d.root} collides with the output directory {out}")
  let mut claims : List ((Stage × Option String × Release) × String) := []
  for d in l.directories do
    if !(← HostM.pathExists d.moduleInfo) then continue
    let m ← d.declaredModule
    let key := (d.scope, m, l.releaseOf d)
    if let some other := claims.lookup key then
      if Path.normalize other != Path.normalize d.root then
        let shown := m.getD "None"
        throw (.config
          s!"Module {shown} is declared by both {other} and {d.root} in the {d.scope.name} sources")
    claims := Assoc.put claims key d.root

/-- Appends the roots that a list does not hold yet. -/
def addRoots (known roots : List String) : List String :=
  roots.foldl (fun acc r => if acc.contains r then acc else acc ++ [r]) known

/-- The directories of a scope whose roots exist, in configuration order; a missing root is
noted and passed over. -/
def existingOf (scope : Stage) : List SourceDirectory → HostM (List SourceDirectory)
  | [] => pure []
  | d :: ds => do
    if d.scope == scope then
      if ← HostM.isDir d.root then return d :: (← existingOf scope ds)
      HostM.logDebug s!"Skipping non-existent source directory {d.root}"
    existingOf scope ds

/-- Directories grouped by release, each group in configuration order, the releases in the order
in which they first appear. -/
def groupByRelease (l : Layout) (ds : List SourceDirectory) : List (Release × List SourceDirectory) :=
  ds.foldl (fun t d => Assoc.modify t (l.releaseOf d) [] (· ++ [d])) []

/-- Adds the files that directories select to `files`: directory by directory, each in walking
order, as paths seen from `cwd`, each path once. -/
def selectFiles (cwd : String) (files : List String) : List SourceDirectory → HostM (List String)
  | [] => pure files
  | d :: ds => do
    let root := Path.absolute cwd d.root
    let filter := PathFilter.make d.includes d.excludes
    let rels ← HostM.listFiles root
    selectFiles cwd (addRoots files ((rels.filter filter.selects).map (Path.join root))) ds

/-- The modules that the directories of a unit declare, each with its roots and declaration file,
and the module that a test directory without declaration patches. -/
def unitModules (cwd : String) (scope : Stage) (roots : List SourceDirectory) :
    HostM (List (String × List String) × List (String × String) × Option String) := do
  let mut modules : List (String × List String) := []
  let mut moduleInfos : List (String × String) := []
  let mut patched : Option String := none
  for d in roots do
    let root := Path.absolute cwd d.root
    if let some m ← d.declaredModule then
      if !m.isEmpty then
        let declares ← HostM.pathExists d.moduleInfo
        if scope == .test && !declares then patched := some m
        else
          modules := Assoc.modify modules m [] (· ++ [root])
          if declares then moduleInfos := Assoc.put moduleInfos m (Path.absolute cwd d.moduleInfo)
  return (modules, moduleInfos, patched)

/-- The unit of one release, `base` being the lowest: the files and modules of its directories,
and where its classes go. Under a main module, tests that declare none of their own, or whose
declaration overwrites the main one, patch the main module. -/
def unitOf (l : Layout) (cwd : String) (scope : Stage) (mainModule : Option String)
    (overwrite : Option Overwrite) (base release : Release) (roots : List SourceDirectory) :
    HostM SourceUnit := do
  let files ← selectFiles cwd [] roots
  let (modules, moduleInfos, patched) ← unitModules cwd scope roots
  let output ← HostM.ofExcept (l.outputFor scope release base)
  let unit : SourceUnit := { release, files, roots, output, modules, moduleInfos,
                             patchedModule := patched }
  return match scope, mainModule with
    | .test, some mm =>
      if (modules.isEmpty && patched.isNone) || overwrite.isSome then
        { unit with modules := [], patchedModule := some mm }
      else unit
    | _, _ => unit

/-- The units of the releases, in their order, with the directories of each release; the first
release is the lowest. -/
def unitsOf (l : Layout) (cwd : String) (scope : Stage) (mainModule : Option String)
    (overwrite : Option Overwrite) (byRelease : List (Release × List SourceDirectory))
    (releases : List Release) : HostM (List SourceUnit) := do
  let mut units : List SourceUnit := []
  for release in releases do
    let roots := (byRelease.lookup release).getD []
    units := units ++
      [← l.unitOf cwd scope mainModule overwrite (releases.headD release) release roots]
  return units

/-- The test declaration that overwrites the main module's while the tests compile: under a main
module, that of the first existing test directory that has one. -/
def overwriteOf (l : Layout) (cwd : String) (scope : Stage) (mainModule : Option String) :
    HostM (Option Overwrite) := do
  let some mm := mainModule | return none
  if scope != .test then return none
  let mut overwrite : Option Overwrite := none
  for d in l.directories do
    if overwrite.isNone && d.scope == .test then
      if ← HostM.isDir d.root then
        if ← HostM.pathExists d.moduleInfo then
          overwrite := some ⟨Path.absolute cwd d.moduleInfo, mm, l.output⟩
  return overwrite

/-- Records the modules that the units declare, with their roots, in the build context. -/
def registerModules (units : List SourceUnit) : BuildM Unit := do
  for u in units do
    for (m, rs) in u.modules do
      BuildM.modifyContext fun c =>
        { c with projectModules := Assoc.modify c.projectModules m [] (addRoots · rs) }

/-- The units of a scope, by ascending release. -/
def resolve (l : Layout) (scope : Stage) : BuildM SourceSet := do
  let cwd := (← BuildM.state).host.cwd
  let existing ← BuildM.ofHost (existingOf scope l.directories)
  let byRelease := l.groupByRelease existing
  let releases := Release.sort (Assoc.keys byRelease)
  if releases.length > 1 && releases.any (·.isDefault) then
    let noRelease := ", ".intercalate (((byRelease.lookup .default).getD []).map (·.root))
    throw (.config (s!"Source directories {noRelease} do not declare a release while others do; " ++
      "configure the release option"))
  let mainModule ← l.mainModuleName
  let overwrite ← BuildM.ofHost (l.overwriteOf cwd scope mainModule)
  let units ← BuildM.ofHost (l.unitsOf cwd scope mainModule overwrite byRelease releases)
  registerModules units
  BuildM.ofHost (l.checkCollisions cwd units)
  return { scope, units, mainModule, overwrite }

end Layout

end JavaBuild.Source
