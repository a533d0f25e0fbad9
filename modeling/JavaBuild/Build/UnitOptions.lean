import JavaBuild.Build.Context
import JavaBuild.Source.Unit
import JavaBuild.Options
import JavaBuild.Configuration
import JavaBuild.Patch.Resolution

/-!
# The compiler options of a unit

`Synthesizer.unitOptions` derives the options of one unit of sources, appended in a fixed order:

1. the release: `--source` and `--target` when they are configured (or given among the compiler
   arguments), which refuses any configured release; else `--release` for a unit whose release
   is not the default;
2. the configured switches: `-proc`, `-implicit`, `-encoding`, `-g` (with the debug levels, or
   `-g:none`), `-parameters`, `--enable-preview`, `-nowarn`, `-verbose`, the memory of a compiler
   that runs in its own process, and the processor path;
3. the output directory and the paths: the outputs of the lower releases come first, so that
   they shadow everything else; then, for tests, the main classes; then the dependencies of the
   scope. A modular unit puts the dependencies that are modules on the module path, the others on
   the class path, and may need `--module-source-path`, `--patch-module` and the options of its
   module patch (which also give the lines a test launcher needs);
4. the compiler arguments of the configuration, as given, except that `--release` replaces the
   release value in place and that a module option already given with the same value is
   dropped with a warning.

The same inputs give the same options. Options that the compiler refuses are dropped with the
warning that `OptionList` gives.
-/

namespace JavaBuild

/-- The options that give the module graph or the paths. -/
def moduleFlags : List String :=
  ["--add-modules", "--limit-modules", "--add-reads", "--add-exports", "--patch-module",
    "--module-path", "-p", "--module-source-path", "--class-path", "-classpath", "-cp"]

/-- The options that give the language level without a release. -/
def sourceTargetFlags : List String := ["-source", "--source", "-target", "--target"]

/-- The values of `-g`. -/
def debugLevels : List String := ["lines", "vars", "source"]

/-- The options of one unit, and the lines a test launcher needs to run its classes (only when a
module is patched). -/
structure UnitOptions where
  options : OptionList
  runtimeLines : List String := []

/-- Whether an option is set: given and not empty. -/
def isSet (v : Option String) : Bool := match v with
  | some s => !s.isEmpty
  | none => false

/-- Prints the warnings of an addition and gives the list after it. -/
def OptionList.emit (r : Appended) : HostM OptionList := do
  for w in r.warnings do HostM.warn w
  return r.list

/-- Like `OptionList.emit`, for an addition that can fail. -/
def OptionList.emitChecked (r : Except String Appended) : HostM OptionList :=
  match r with
  | .ok a => OptionList.emit a
  | .error m => throw (.badData "IndexError" m)

/-- What the options of a scope are derived from. -/
structure Synthesizer where
  config : Configuration
  checker : Checker
  scope : Stage
  /-- The main classes, put on the paths of the tests. -/
  mainOutput : Option String := none
  simplify : Bool := true
  /-- The order in which a set of module names is gone through, from the names in the order they
  were added: some order of the distinct names, fixed for a process (it follows the hash seed of
  its strings). By default the order of first addition. -/
  enumerate : List String → List String := List.eraseDups

namespace Synthesizer

/-- Adds the release, or the source and target levels. -/
def addRelease (s : Synthesizer) (o : OptionList) (unit : Source.SourceUnit) :
    HostM OptionList := do
  let cfg := s.config
  let userLevels := cfg.compilerArgs.any fun a =>
    sourceTargetFlags.contains a || sourceTargetFlags.contains (Javac.flagName a)
  let levels := isSet cfg.source || isSet cfg.target || userLevels
  if levels && (cfg.release.isSome || unit.roots.any (·.release.isSome)) then
    throw (.config "The release option cannot be combined with the source or target options")
  if levels then
    let o ← OptionList.emit (o.addValue s.checker "--source" cfg.source)
    OptionList.emit (o.addValue s.checker "--target" cfg.target)
  else if !unit.release.isDefault then
    OptionList.emit (o.setRelease s.checker (some unit.release.toText))
  else return o

/-- Adds the configured switches. -/
def addSwitches (s : Synthesizer) (o : OptionList) : HostM OptionList := do
  let cfg := s.config
  let c := s.checker
  let cwd := (← get).cwd
  let mut o := o
  if isSet cfg.proc then
    o ← OptionList.emitChecked (o.addCommaSeparated c "-proc" cfg.proc (some procValues))
  if isSet cfg.implicit then
    o ← OptionList.emitChecked (o.addCommaSeparated c "-implicit" cfg.implicit (some implicitValues))
  o ← OptionList.emit (o.addValue c "-encoding" cfg.encoding)
  if cfg.debug then
    if isSet cfg.debuglevel then
      o ← OptionList.emitChecked (o.addCommaSeparated c "-g" cfg.debuglevel (some debugLevels))
    else o ← OptionList.emit (o.addFlag c "-g" true)
  else o ← OptionList.emitChecked (o.addCommaSeparated c "-g" (some "none") none)
  o ← OptionList.emit (o.addFlag c "-parameters" cfg.parameters)
  o ← OptionList.emit (o.addFlag c "--enable-preview" cfg.enablePreview)
  o ← OptionList.emit (o.addFlag c "-nowarn" !cfg.showWarnings)
  o ← OptionList.emit (o.addFlag c "-verbose" cfg.verbose)
  if cfg.fork || c.forked then
    o ← OptionList.emit (o.addMemoryValue c "-J-Xms" "meminitial" cfg.meminitial)
    o ← OptionList.emit (o.addMemoryValue c "-J-Xmx" "maxmem" cfg.maxmem)
  else if isSet cfg.meminitial || isSet cfg.maxmem then
    HostM.logVerbose
      "The meminitial and maxmem settings are ignored because the compiler runs in process."
  if !cfg.annotationProcessorPaths.isEmpty then
    let paths := ":".intercalate (cfg.annotationProcessorPaths.map (cfg.path cwd))
    o ← OptionList.emit (o.addValue c "--processor-path" (some paths))
  return o

/-- The patch of the module that a unit patches: read from the first patch file at the top of its
roots, else the defaults; each patch once per scope (`patches`). -/
def patchFor (unit : Source.SourceUnit) (patches : List (String × Patch.ModulePatch)) :
    BuildM (Patch.ModulePatch × List (String × Patch.ModulePatch)) := do
  let cwd := (← BuildM.state).host.cwd
  let found ← Patch.find (unit.roots.map fun d => Path.absolute cwd d.root)
  let key := found.getD ("<defaults>:" ++ unit.patchedModule.getD "None")
  if let some p := patches.lookup key then return (p, patches)
  let shared := (← BuildM.context).shared
  let patch ← match found with
    | some path => do
      let text ← HostM.readText path
      let (shared', loaded) ← Patch.loadLogged shared unit.patchedModule text (some path)
      BuildM.modifyContext fun c => { c with shared := shared' }
      let p ← HostM.ofExcept loaded
      if p.moduleName != unit.patchedModule then
        let named := p.moduleName.getD "None"
        let owner := unit.patchedModule.getD "None"
        throw (.config s!"{path} patches module {named} but the tests belong to module {owner}")
      pure p
    | none => do
      let (shared', p) := Patch.defaults shared unit.patchedModule
      BuildM.modifyContext fun c => { c with shared := shared' }
      pure p
  return (patch, patches ++ [(key, patch)])

/-- The main classes, on the paths of the tests when they exist. -/
def mainOnPaths (s : Synthesizer) : BuildM (Option String) :=
  match s.scope, s.mainOutput with
  | .test, some m => do if ← HostM.pathExists m then pure (some m) else pure none
  | _, _ => pure none

/-- The paths of the dependencies in named modules, and those of the others, in order. -/
def splitByModule (deps : List Dependency) : BuildM (List String × List String) := do
  let mut named : List String := []
  let mut unnamed : List String := []
  for dep in deps do
    if (← BuildM.ofResolve (Resolution.moduleName dep)).isSome then named := named ++ [dep.path]
    else unnamed := unnamed ++ [dep.path]
  return (named, unnamed)

/-- Adds the options of the patch of the module that a unit patches, unless a test declaration
overwrites the main one; gives the lines a test launcher needs. -/
def addPatchOptions (s : Synthesizer) (o : OptionList) (unit : Source.SourceUnit)
    (dependencies : Option Resolution) (overwrite : Bool) (patches : List (String × Patch.ModulePatch)) :
    BuildM (OptionList × List String × List (String × Patch.ModulePatch)) := do
  let c := s.checker
  match unit.patchedModule with
  | some patched =>
    if overwrite then return (o, [], patches)
    let (patch, patches) ← patchFor unit patches
    let context ← BuildM.context
    -- the project modules and the patched one, as a set
    let known := s.enumerate (Assoc.keys context.projectModules ++ [patched])
    let resolved ← BuildM.ofResolve (patch.resolve context.shared dependencies known s.simplify)
    let mut o := o
    for (flag, value) in resolved.compileOptions do
      o ← OptionList.emit (o.addValue c flag (some value))
    return (o, resolved.runtimeLines, patches)
  | none => return (o, [], patches)

/-- Adds the module options of a unit compiled on the module path: the module source paths of a
unit of several modules, the patched module, and the options of its patch; gives the lines a test
launcher needs. -/
def addModuleOptions (s : Synthesizer) (o : OptionList) (unit : Source.SourceUnit) (cwd : String)
    (dependencies : Option Resolution) (earlier : List String) (overwrite : Bool)
    (patches : List (String × Patch.ModulePatch)) :
    BuildM (OptionList × List String × List (String × Patch.ModulePatch)) := do
  let c := s.checker
  let mut o := o
  if unit.modules.length > 1 then
    for (m, roots) in unit.modules.mergeSort (fun a b => Text.textLe a.1 b.1) do
      let joined := ":".intercalate roots
      o ← OptionList.emit (o.addValue c "--module-source-path" (some s!"{m}={joined}"))
  let module := unit.moduleName
  let declared := match module with
    | some m => unit.moduleInfos.any (·.1 == m)
    | none => true
  if unit.patchedModule.isSome || (!earlier.isEmpty && !declared) then
    let roots := ":".intercalate (unit.roots.map fun d => Path.absolute cwd d.root)
    let name := module.getD "None"
    o ← OptionList.emit (o.addValue c "--patch-module" (some s!"{name}={roots}"))
  s.addPatchOptions o unit dependencies overwrite patches

/-- The module path and the class path of a unit: the outputs of the units of lower releases
(the highest first), then, for tests, the main classes, then the dependencies. A unit compiled on
the module path has the dependencies in named modules on the module path and the others on the
class path; any other unit has all of them on the class path. -/
def searchPaths (s : Synthesizer) (unit : Source.SourceUnit) (previous : List String)
    (deps : List Dependency) : BuildM (List String × List String) := do
  let mainOutput ← s.mainOnPaths
  if unit.isModular && !s.config.useModulePath && s.scope == .main then
    let name := unit.moduleName.getD "None"
    HostM.logDeprecation (s!"Module {name} is compiled with its dependencies on the class path. " ++
      "Set useModulePath to true to place them on the module path.")
  if unit.isModular && s.config.useModulePath then
    let (named, unnamed) ← splitByModule deps
    return (previous.reverse ++ mainOutput.toList ++ named, unnamed)
  else return ([], previous.reverse ++ mainOutput.toList ++ deps.map (·.path))

/-- Adds a path option, unless the path is empty. -/
def addPathOption (c : Checker) (o : OptionList) (flag : String) (path : List String) :
    HostM OptionList :=
  if path.isEmpty then pure o else OptionList.emit (o.addValue c flag (some (":".intercalate path)))

/-- Adds the output directory, the paths and the module options; gives the lines a test launcher
needs. -/
def addPaths (s : Synthesizer) (o : OptionList) (unit : Source.SourceUnit)
    (previous : List String) (overwrite : Bool) (patches : List (String × Patch.ModulePatch)) :
    BuildM (OptionList × List String × List (String × Patch.ModulePatch)) := do
  let c := s.checker
  let cwd := (← BuildM.state).host.cwd
  let dependencies := (← BuildM.state).dependencies
  let o ← OptionList.emit (o.addValue c "-d" (some unit.output))
  let deps := match dependencies with
    | some r => r.forStage s.scope
    | none => []
  let (modulePath, classPath) ← s.searchPaths unit previous deps
  let o ← addPathOption c o "--module-path" modulePath
  let o ← addPathOption c o "--class-path" classPath
  if !(unit.isModular && s.config.useModulePath) then return (o, [], patches)
  s.addModuleOptions o unit cwd dependencies previous.reverse overwrite patches

/-- Adds the compiler arguments of the configuration. -/
def addArguments (c : Checker) (given : List (String × Option String)) (o : OptionList)
    (args : List String) : HostM OptionList :=
  match args with
  | [] => pure o
  | arg :: rest => do
    if arg.startsWith "--release=" then
      let o ← OptionList.emit (o.setRelease c (some (String.ofList (arg.toList.drop 10))))
      addArguments c given o rest
    else if arg == "--release" && !rest.isEmpty then
      let o ← OptionList.emit (o.setRelease c rest.head?)
      addArguments c given o rest.tail
    else
      let n := if arg.startsWith "-" then OptionList.arityOf c arg else 0
      let values := rest.take n
      let o ← match values with
        | [v] =>
          if moduleFlags.contains arg && given.contains (arg, some v) then do
            HostM.warn s!"Ignoring the compiler argument '{arg} {v}' because the option is already set."
            pure o
          else pure (o.addUnchecked (arg :: values))
        | _ => pure (o.addUnchecked (arg :: values))
      addArguments c given o (rest.drop n)
termination_by args.length
decreasing_by
  all_goals simp only [List.length_cons, List.length_tail, List.length_drop]
  all_goals omega

/-- The options of a unit, given the outputs of the units of lower releases (ascending) and
whether a test declaration overwrites the main module's. -/
def unitOptions (s : Synthesizer) (unit : Source.SourceUnit) (previous : List String)
    (overwrite : Bool) (patches : List (String × Patch.ModulePatch)) :
    BuildM (UnitOptions × List (String × Patch.ModulePatch)) := do
  let c := s.checker
  let o ← s.addRelease {} unit
  let o ← s.addSwitches o
  let (o, runtimeLines, patches) ← s.addPaths o unit previous overwrite patches
  let given := (o.pairs c).filter fun (f, _) => moduleFlags.contains f
  let o ← addArguments c given o s.config.compilerArgs
  if o.hasFlag c ["--release"] && o.hasFlag c sourceTargetFlags then
    throw (.config "The --release option cannot be combined with the source or target options")
  HostM.logDebug s!"Options for {unit.describe}:\n{o.format c}"
  return ({ options := o, runtimeLines }, patches)

/-- The options of every unit of a set of sources. -/
def setOptions (s : Synthesizer) (sources : Source.SourceSet) : BuildM (List UnitOptions) := do
  let mut result : List UnitOptions := []
  let mut previous : List String := []
  let mut patches : List (String × Patch.ModulePatch) := []
  for unit in sources.units do
    let (options, patches') ← s.unitOptions unit previous sources.overwrite.isSome patches
    result := result ++ [options]
    patches := patches'
    previous := previous ++ [unit.output]
  return result

end Synthesizer

end JavaBuild
