import JavaBuild.Patch.Reader
import JavaBuild.Dependency
import JavaBuild.Module.Closure

/-!
# Module-info patches: resolving them

`ModulePatch.resolve` turns the declarations of a patch into the options of a patched module, one set
for compiling its tests and one for running them.

- `TEST-MODULE-PATH` stands for the modules of the test dependencies: at compile time those of
  the `test` and `test-only` scopes, at run time those of `test` and `test-runtime`. Test
  dependencies in the unnamed module add `ALL-UNNAMED` to the reads and the exports.
- `SUBPROJECT-MODULES` stands for the other modules of the project.
- With `simplify`, a module that a module added before already requires (directly, or through
  `requires transitive`) is not added again; this only shortens the options.

Every module a patch names must be a placeholder, a `java.*` or `jdk.*` module, the patched
module, a module of the project, a system module, the module of a dependency, or a module that a
dependency requires.
-/

namespace JavaBuild.Patch

/-- Where a module is wanted: at compile time, at run time, or both. -/
structure Stages where
  atCompile : Bool
  atRuntime : Bool
deriving DecidableEq, Repr, Inhabited

namespace Stages

/-- Both stages. -/
def both : Stages := ⟨true, true⟩
/-- No stage. -/
def none : Stages := ⟨false, false⟩
/-- The stages of either. -/
def union (a b : Stages) : Stages := ⟨a.atCompile || b.atCompile, a.atRuntime || b.atRuntime⟩
/-- The stages of `a` that are not in `b`. -/
def diff (a b : Stages) : Stages := ⟨a.atCompile && !b.atCompile, a.atRuntime && !b.atRuntime⟩
/-- Whether every stage of `a` is in `b`. -/
def within (a b : Stages) : Bool := (!a.atCompile || b.atCompile) && (!a.atRuntime || b.atRuntime)
/-- Whether no stage is set. -/
def isNone (a : Stages) : Bool := !a.atCompile && !a.atRuntime

end Stages

/-- The option values of one stage of a patched module. -/
structure Directives where
  addModules : List String := []
  limitModules : List String := []
  addReads : List String := []
  addExports : List (String × List String) := []
  addOpens : List (String × List String) := []
deriving Repr, Inhabited

/-- The options of a patched module after its placeholders were expanded. -/
structure Options where
  moduleName : Option String
  compile : Directives
  runtime : Directives
deriving Repr, Inhabited

/-- Adds a module to the lists of the given stages; whether a list changed. -/
def addAt (lists : List String × List String) (stages : Stages) (v : String) :
    (List String × List String) × Bool :=
  let (c, r) := lists
  let c' := if stages.atCompile then addItem c v else c
  let r' := if stages.atRuntime then addItem r v else r
  ((c', r'), c'.length != c.length || r'.length != r.length)

/-- The options of both stages, with one list of each changed. -/
structure Expansion where
  compile : Directives
  runtime : Directives

namespace Expansion

/-- Adds to the added modules. -/
def addModule (e : Expansion) (stages : Stages) (v : String) : Expansion × Bool :=
  let ((c, r), changed) := addAt (e.compile.addModules, e.runtime.addModules) stages v
  ({ compile := { e.compile with addModules := c }, runtime := { e.runtime with addModules := r } }, changed)

/-- Adds to the read modules. -/
def addRead (e : Expansion) (stages : Stages) (v : String) : Expansion × Bool :=
  let ((c, r), changed) := addAt (e.compile.addReads, e.runtime.addReads) stages v
  ({ compile := { e.compile with addReads := c }, runtime := { e.runtime with addReads := r } }, changed)

/-- Adds to the targets of an exported package. -/
def addExport (e : Expansion) (pkg : String) (stages : Stages) (v : String) : Expansion × Bool :=
  let get (d : Directives) := (d.addExports.lookup pkg).getD []
  let ((c, r), changed) := addAt (get e.compile, get e.runtime) stages v
  ({ compile := { e.compile with addExports := Assoc.put e.compile.addExports pkg c },
     runtime := { e.runtime with addExports := Assoc.put e.runtime.addExports pkg r } }, changed)

end Expansion

/-- The modules a descriptor requires, and those that the observable modules reached from them
through `requires transitive` require transitively. -/
def requiredNames (observable : List Descriptor) (d : Descriptor) : List String :=
  let transitive (ms : List String) := ms.contains "transitive"
  let names := Assoc.keys d.requires
  let roots := (sortedSet names).map Module.Root.named
  let reached := (Module.reach observable roots transitive false).toOption.getD []
  let further := reached.flatMap fun n =>
    match Module.lookup observable n with
    | some m => Module.followed transitive m
    | none => []
  names ++ further

/-- The modules a descriptor requires, and those they require transitively, among the modules of
the dependencies. -/
def requiredModules (r : Resolution) (d : Descriptor) : ResolveM (List String) := do
  let observable := (← r.dependencies.mapM Resolution.descriptor).filterMap id
  return requiredNames observable d

/-- Marks modules as covered at more stages. -/
def markCovered (done : List (String × Stages)) (ms : List String) (stages : Stages) :
    List (String × Stages) :=
  ms.foldl (fun done m => Assoc.put done m (((done.lookup m).getD .none).union stages)) done

/-- The stages stages which the test dependencies of a scope are seen. -/
def testStages : Scope → Option Stages
  | .test => some .both
  | .testOnly => some ⟨true, false⟩
  | .testRuntime => some ⟨false, true⟩
  | _ => none

/-- The modules a patch names, in order: added, limited, read, and the targets of exports and
opens. -/
def declaredModules (shared : SharedModules) (p : ModulePatch) : List String :=
  shared.addModules ++ shared.limitModules ++ p.addReads ++
    p.addExports.flatMap (·.2) ++ p.addOpens.flatMap (·.2)

namespace Expansion

/-- Adds a module of the test dependencies, at the given stages, to each list that names the test
module path: the added modules, the read modules, the targets of the `exported` packages;
whether a list changed. -/
def addTestModule (e : Expansion) (addAll readAll : Bool) (exported : List String)
    (stages : Stages) (m : String) : Expansion × Bool :=
  let r₁ := if addAll then e.addModule stages m else (e, false)
  let r₂ := if readAll then r₁.1.addRead stages m else (r₁.1, false)
  let r₃ := exported.foldl (fun r pkg =>
    let r' := r.1.addExport pkg stages m
    (r'.1, r.2 || r'.2)) (r₂.1, false)
  (r₃.1, r₁.2 || r₂.2 || r₃.2)

/-- Adds the unnamed module, at the given stages, to the reads and to the targets of the
`exported` packages when they name the test module path. -/
def addUnnamed (e : Expansion) (readAll : Bool) (exported : List String) (stages : Stages) :
    Expansion :=
  let e := if readAll then (e.addRead stages allUnnamed).1 else e
  exported.foldl (fun e pkg => (e.addExport pkg stages allUnnamed).1) e

end Expansion

/-- Expands the test-module-path placeholder over the dependencies, in resolution order. -/
def expandTestPath (p : ModulePatch) (shared : SharedModules) (r : Resolution) (simplify : Bool)
    (e : Expansion) : ResolveM Expansion := do
  let addAll := shared.addModules.contains testModulePath
  let readAll := p.addReads.contains testModulePath
  let exported := (p.addExports.filter fun x => x.2.contains testModulePath).map (·.1)
  let mut e := e
  let mut done : List (String × Stages) := []
  let mut unnamed := Stages.none
  for dep in r.dependencies do
    let some stages := testStages dep.scope | continue
    let some m ← Resolution.moduleName dep
      | unnamed := unnamed.union stages; continue
    let previous := (done.lookup m).getD .none
    if stages.within previous then continue
    let stages := stages.diff previous
    done := Assoc.put done m (previous.union stages)
    let (e', changed) := e.addTestModule addAll readAll exported stages m
    e := e'
    if simplify && changed then
      if let some d ← Resolution.descriptor dep then
        done := markCovered done (← requiredModules r d) stages
  if !unnamed.isNone then e := e.addUnnamed readAll exported unnamed
  return e

/-- Expands `SUBPROJECT-MODULES`: each package exported to it is also exported, at compile and
run time, to every module of the project but the patched one, in the order they come. -/
def expandSubprojects (p : ModulePatch) (projectModules : List String) (e : Expansion) : Expansion :=
  p.addExports.foldl (fun e (pkg, targets) =>
    if targets.contains subprojectModules then
      projectModules.foldl (fun e m =>
        if some m != p.moduleName then (e.addExport pkg .both m).1 else e) e
    else e) e

/-- The modules that dependencies provide, in order: the module of each whose name is not empty,
with the modules its descriptor requires. -/
def providedModules (deps : List Dependency) : ResolveM (List String) := do
  let mut provided : List String := []
  for dep in deps do
    if let some n ← Resolution.moduleName dep then
      if !n.isEmpty then
        provided := provided ++ [n]
        if let some d ← Resolution.descriptor dep then provided := provided ++ Assoc.keys d.requires
  return provided

/-- The modules a patch may name besides the placeholders and the platform modules: those of the
project, the patched module, the system modules, and the module of each dependency with the
modules its descriptor requires. The empty text names no module. -/
def knownModules (p : ModulePatch) (resolution : Option Resolution) (projectModules : List String) :
    ResolveM (List String) := do
  let mut known : List String := projectModules
  if let some n := p.moduleName then
    if !n.isEmpty then known := known ++ [n]
  if let some r := resolution then
    known := known ++ r.systemModules ++ (← providedModules r.dependencies)
  return known

/-- The error of a module that a patch names and that nothing provides; it names the file of the
patch when there is one. -/
def unknownModule (p : ModulePatch) (m : String) : Failure :=
  let location := match p.file with
    | some f => if f.isEmpty then "" else s!" in {f}"
    | none => ""
  .config s!"Module {m} referenced by {p.title}{location} is neither a dependency nor a module of the project"

/-- Whether a patch may name a module: a placeholder, a `java.*` or `jdk.*` module, or a known
one. -/
def mayName (known : List String) (m : String) : Bool :=
  placeholders.contains m || known.contains m || m.startsWith "java." || m.startsWith "jdk."

/-- Fails on the first module that a patch names and may not name. -/
def checkReferences (p : ModulePatch) (shared : SharedModules) (known : List String) :
    ResolveM Unit := do
  for m in declaredModules shared p do
    if mayName known m then continue
    throw (unknownModule p m)

/-- The options as a patch declares them, without the placeholders that resolving expands. -/
def ModulePatch.declared (p : ModulePatch) (shared : SharedModules) : Directives :=
  let notPlaceholder (ms : List String) (ex : List String) := ms.filter fun m => !ex.contains m
  { addModules := notPlaceholder shared.addModules [testModulePath],
    limitModules := shared.limitModules,
    addReads := notPlaceholder p.addReads [testModulePath],
    addExports := p.addExports.map fun x => (x.1, notPlaceholder x.2 [testModulePath, subprojectModules]),
    addOpens := p.addOpens }

/-- Resolves a patch against the dependencies (if any) and the modules of the project. -/
def ModulePatch.resolve (p : ModulePatch) (shared : SharedModules) (resolution : Option Resolution)
    (projectModules : List String) (simplify : Bool := true) : ResolveM Options := do
  let mut e : Expansion := expandSubprojects p projectModules ⟨p.declared shared, p.declared shared⟩
  let known ← knownModules p resolution projectModules
  if let some r := resolution then
    let exported := p.addExports.any fun x => x.2.contains testModulePath
    if shared.addModules.contains testModulePath || p.addReads.contains testModulePath || exported then
      e ← expandTestPath p shared r simplify e
  checkReferences p shared known
  return { moduleName := p.moduleName, compile := e.compile, runtime := e.runtime }

namespace Options

/-- The flags and values of one stage; the shared lists only when `shared`, the opened packages
only when `opens`. -/
def pairs (o : Options) (d : Directives) (shared opens : Bool) : List (String × String) :=
  let name := o.moduleName.getD "None"
  let joined (xs : List String) := ",".intercalate xs
  (if shared && !d.addModules.isEmpty then [("--add-modules", joined d.addModules)] else []) ++
  (if shared && !d.limitModules.isEmpty then [("--limit-modules", joined d.limitModules)] else []) ++
  (if !d.addReads.isEmpty then [("--add-reads", s!"{name}={joined d.addReads}")] else []) ++
  (d.addExports.filterMap fun (pkg, ts) =>
    if ts.isEmpty then none else some ("--add-exports", s!"{name}/{pkg}={joined ts}")) ++
  (if opens then d.addOpens.filterMap fun (pkg, ts) =>
    if ts.isEmpty then none else some ("--add-opens", s!"{name}/{pkg}={joined ts}") else [])

/-- The options for the compiler. -/
def compileOptions (o : Options) (shared : Bool := true) : List (String × String) :=
  o.pairs o.compile shared false

/-- The option lines for launching the tests. -/
def runtimeLines (o : Options) (shared : Bool := true) : List String :=
  (o.pairs o.runtime shared true).map fun (f, v) => f ++ " " ++ v

end Options

/-- The first patch file stages the top of one of the roots. -/
def find (roots : List String) : HostM (Option String) := do
  for root in roots do
    let candidate := Path.join root fileName
    if ← HostM.pathExists candidate then return some candidate
  return none

end JavaBuild.Patch
