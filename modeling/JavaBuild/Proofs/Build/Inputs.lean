import Mathlib
import JavaBuild.Proofs.Patch.Simplification
import JavaBuild.Proofs.Build.Substitution
import JavaBuild.Proofs.Build.Synthesis

/-!
# What the options of a unit are derived from

Deriving the options of the units of a scope (`Synthesizer.setOptions`) reads the files of the
host and the dependencies of the build, and changes neither: it prints warnings and log lines,
records the patches it loads, and learns the modules of the artifacts it reads, which the
resolution keeps by path. A state of the build that shows the files of `st₀` and resolves the
same dependencies (`BuildState.SameInputs st₀`) stays so through every step of the synthesis, up
to the whole scope (`Synthesizer.setOptions_sameInputs`).

The frame is proved bottom up, one triple per function that the synthesis calls: first on the
host (`Host.SameFiles`, kept by every query, log line and tool run), then on the resolution of
the dependencies, whose list no lookup changes, then on the state of the build.
-/

set_option mvcgen.warning false

namespace JavaBuild

open Std.Do

/-! ## On the host -/

namespace HostM

variable (h₀ : Host)

theorem logDeprecation_sameFiles (line : String) :
    ⦃fun h => ⌜Host.SameFiles h₀ h⌝⦄ logDeprecation line ⦃⇓ _ h => ⌜Host.SameFiles h₀ h⌝⦄ := by
  mvcgen [logDeprecation, printErr]

theorem ofExcept_sameFiles {α : Type} (r : Except Failure α) :
    ⦃fun h => ⌜Host.SameFiles h₀ h⌝⦄ ofExcept r ⦃⇓? _ h => ⌜Host.SameFiles h₀ h⌝⦄ := by
  cases r <;> mvcgen [ofExcept]

theorem isFile_sameFiles (p : String) :
    ⦃fun h => ⌜Host.SameFiles h₀ h⌝⦄ isFile p ⦃⇓ _ h => ⌜Host.SameFiles h₀ h⌝⦄ := by
  mvcgen [isFile]

theorem readBytes_sameFiles (p : String) :
    ⦃fun h => ⌜Host.SameFiles h₀ h⌝⦄ readBytes p ⦃⇓? _ h => ⌜Host.SameFiles h₀ h⌝⦄ := by
  mvcgen [readBytes, onDisk, checkWritable]

theorem jdkExecutable_sameFiles (name : String) :
    ⦃fun h => ⌜Host.SameFiles h₀ h⌝⦄ jdkExecutable name ⦃⇓ _ h => ⌜Host.SameFiles h₀ h⌝⦄ := by
  mvcgen [jdkExecutable, getEnv, pathExists_sameFiles]
  all_goals simp_all [Host.SameFiles]

theorem runTool_sameFiles (args : List String) (cwd : Option String) :
    ⦃fun h => ⌜Host.SameFiles h₀ h⌝⦄ runTool args cwd ⦃⇓? _ h => ⌜Host.SameFiles h₀ h⌝⦄ := by
  mvcgen [runTool, logDebug_sameFiles]
  all_goals simp_all [Host.SameFiles]

end HostM

namespace Module

variable (h₀ : Host)

theorem describeClassDirectory_sameFiles (path : String) :
    ⦃fun h => ⌜Host.SameFiles h₀ h⌝⦄ describeClassDirectory path
    ⦃⇓? _ h => ⌜Host.SameFiles h₀ h⌝⦄ := by
  have hjdk := HostM.jdkExecutable_sameFiles h₀
  have htool := HostM.runTool_sameFiles h₀
  mvcgen [describeClassDirectory, hjdk, htool, HostM.logDebug_sameFiles, HostM.configError]
  all_goals simp_all [Host.SameFiles]

theorem describeJar_sameFiles (path : String) :
    ⦃fun h => ⌜Host.SameFiles h₀ h⌝⦄ describeJar path ⦃⇓? _ h => ⌜Host.SameFiles h₀ h⌝⦄ := by
  have hjdk := HostM.jdkExecutable_sameFiles h₀
  have htool := HostM.runTool_sameFiles h₀
  mvcgen [describeJar, hjdk, htool, HostM.logDebug_sameFiles, HostM.configError]
  all_goals simp_all [Host.SameFiles]

theorem describeArtifact_sameFiles (path : String) :
    ⦃fun h => ⌜Host.SameFiles h₀ h⌝⦄ describeArtifact path ⦃⇓? _ h => ⌜Host.SameFiles h₀ h⌝⦄ := by
  have hdir := describeClassDirectory_sameFiles h₀
  have hjar := describeJar_sameFiles h₀
  have hfile := HostM.isFile_sameFiles h₀
  have hread := HostM.readBytes_sameFiles h₀
  mvcgen [describeArtifact, HostM.isDir_sameFiles, HostM.pathExists_sameFiles, hdir, hfile, hread,
    readArchive, hjar, HostM.configError]
  all_goals simp_all [Host.SameFiles]

end Module

/-! ## On the resolution of the dependencies

A lookup of the module of a dependency may read its artifact on the host; the resolution then
records what it found, and its list of dependencies stays as it was. -/

namespace Resolution

variable (D : List Dependency) (h₀ : Host)

theorem descriptor_keeps (d : Dependency) :
    ⦃fun r h => ⌜r.dependencies = D ∧ Host.SameFiles h₀ h⌝⦄ descriptor d
    ⦃⇓? _ r h => ⌜r.dependencies = D ∧ Host.SameFiles h₀ h⌝⦄ := by
  have hartifact := Module.describeArtifact_sameFiles h₀
  mvcgen [descriptor, hartifact]
  all_goals simp_all +zetaDelta [Host.SameFiles]

theorem moduleName_keeps (d : Dependency) :
    ⦃fun r h => ⌜r.dependencies = D ∧ Host.SameFiles h₀ h⌝⦄ moduleName d
    ⦃⇓? _ r h => ⌜r.dependencies = D ∧ Host.SameFiles h₀ h⌝⦄ := by
  have hdesc := descriptor_keeps D h₀
  mvcgen [moduleName, hdesc]

end Resolution

namespace Patch

variable (D : List Dependency) (h₀ : Host)

theorem mapM_descriptor_keeps (deps : List Dependency) :
    ⦃fun r h => ⌜r.dependencies = D ∧ Host.SameFiles h₀ h⌝⦄ deps.mapM Resolution.descriptor
    ⦃⇓? _ r h => ⌜r.dependencies = D ∧ Host.SameFiles h₀ h⌝⦄ := by
  induction deps generalizing h₀ with
  | nil => mvcgen [List.mapM_nil]
  | cons d deps ih =>
    have hdesc := Resolution.descriptor_keeps D h₀
    mvcgen [List.mapM_cons, hdesc, ih]

theorem requiredModules_keeps (r : Resolution) (d : Descriptor) :
    ⦃fun r h => ⌜r.dependencies = D ∧ Host.SameFiles h₀ h⌝⦄ requiredModules r d
    ⦃⇓? _ r h => ⌜r.dependencies = D ∧ Host.SameFiles h₀ h⌝⦄ := by
  have hdescs := mapM_descriptor_keeps D h₀
  mvcgen [requiredModules, hdescs]

theorem expandTestPath_keeps (p : ModulePatch) (shared : SharedModules) (r : Resolution)
    (simplify : Bool) (e : Expansion) :
    ⦃fun r h => ⌜r.dependencies = D ∧ Host.SameFiles h₀ h⌝⦄ expandTestPath p shared r simplify e
    ⦃⇓? _ r h => ⌜r.dependencies = D ∧ Host.SameFiles h₀ h⌝⦄ := by
  have hname := Resolution.moduleName_keeps D h₀
  have hdesc := Resolution.descriptor_keeps D h₀
  have hrequired := requiredModules_keeps D h₀
  mvcgen [expandTestPath, hname, hdesc, hrequired]
  invariants
  · ⇓? _ r h => ⌜r.dependencies = D ∧ Host.SameFiles h₀ h⌝

theorem providedModules_keeps (deps : List Dependency) :
    ⦃fun r h => ⌜r.dependencies = D ∧ Host.SameFiles h₀ h⌝⦄ providedModules deps
    ⦃⇓? _ r h => ⌜r.dependencies = D ∧ Host.SameFiles h₀ h⌝⦄ := by
  have hname := Resolution.moduleName_keeps D h₀
  have hdesc := Resolution.descriptor_keeps D h₀
  mvcgen [providedModules, hname, hdesc]
  invariants
  · ⇓? _ r h => ⌜r.dependencies = D ∧ Host.SameFiles h₀ h⌝

theorem knownModules_keeps (p : ModulePatch) (resolution : Option Resolution) (pm : List String) :
    ⦃fun r h => ⌜r.dependencies = D ∧ Host.SameFiles h₀ h⌝⦄ knownModules p resolution pm
    ⦃⇓? _ r h => ⌜r.dependencies = D ∧ Host.SameFiles h₀ h⌝⦄ := by
  have hprovided := providedModules_keeps D h₀
  mvcgen [knownModules, hprovided]

theorem checkReferences_keeps (p : ModulePatch) (shared : SharedModules) (known : List String) :
    ⦃fun r h => ⌜r.dependencies = D ∧ Host.SameFiles h₀ h⌝⦄ checkReferences p shared known
    ⦃⇓? _ r h => ⌜r.dependencies = D ∧ Host.SameFiles h₀ h⌝⦄ := by
  mvcgen [checkReferences]
  invariants
  · ⇓? _ r h => ⌜r.dependencies = D ∧ Host.SameFiles h₀ h⌝

theorem resolve_keeps (p : ModulePatch) (shared : SharedModules) (resolution : Option Resolution)
    (pm : List String) (simplify : Bool) :
    ⦃fun r h => ⌜r.dependencies = D ∧ Host.SameFiles h₀ h⌝⦄ p.resolve shared resolution pm simplify
    ⦃⇓? _ r h => ⌜r.dependencies = D ∧ Host.SameFiles h₀ h⌝⦄ := by
  have hknown := knownModules_keeps D h₀
  have hexpand := expandTestPath_keeps D h₀
  have hcheck := checkReferences_keeps D h₀
  mvcgen [ModulePatch.resolve, hknown, hexpand, hcheck]

theorem find_sameFiles (roots : List String) :
    ⦃fun h => ⌜Host.SameFiles h₀ h⌝⦄ find roots ⦃⇓ _ h => ⌜Host.SameFiles h₀ h⌝⦄ := by
  mvcgen [find]
  invariants
  · ⇓ _ h => ⌜Host.SameFiles h₀ h⌝
  all_goals simp_all [Host.SameFiles]

theorem loadLogged_sameFiles (shared : SharedModules) (moduleName : Option String)
    (text : String) (file : Option String) :
    ⦃fun h => ⌜Host.SameFiles h₀ h⌝⦄ loadLogged shared moduleName text file
    ⦃⇓ _ h => ⌜Host.SameFiles h₀ h⌝⦄ := by
  mvcgen [loadLogged]
  all_goals simp_all [Host.SameFiles]

end Patch

namespace OptionList

variable (h₀ : Host)

theorem emit_sameFiles (r : Appended) :
    ⦃fun h => ⌜Host.SameFiles h₀ h⌝⦄ emit r ⦃⇓ _ h => ⌜Host.SameFiles h₀ h⌝⦄ := by
  mvcgen [emit]
  invariants
  · ⇓ _ h => ⌜Host.SameFiles h₀ h⌝
  all_goals simp_all [Host.SameFiles]

theorem emitChecked_sameFiles (r : Except String Appended) :
    ⦃fun h => ⌜Host.SameFiles h₀ h⌝⦄ emitChecked r ⦃⇓? _ h => ⌜Host.SameFiles h₀ h⌝⦄ := by
  have hemit := fun r => emit_sameFiles h₀ r
  mvcgen [emitChecked, hemit]
  all_goals exact id

end OptionList

/-! ## On the state of the build -/

namespace BuildState

/-- A state of the build that shows the files of `st₀` and resolves the same dependencies: what
the options of a unit are derived from. -/
def SameInputs (st₀ st : BuildState) : Prop :=
  Host.SameFiles st₀.host st.host ∧
    st.dependencies.map (·.dependencies) = st₀.dependencies.map (·.dependencies)

/-- The dependencies that a stage sees in a build, in resolution order; none without dependency
information. -/
def stageDependencies (st : BuildState) (stage : Stage) : List Dependency :=
  (st.dependencies.map (·.forStage stage)).getD []

namespace SameInputs

theorem trans {st₀ st st' : BuildState} (h₁ : st₀.SameInputs st) (h₂ : st.SameInputs st') :
    st₀.SameInputs st' :=
  ⟨h₁.1.trans h₂.1, h₂.2.trans h₁.2⟩

theorem stageDependencies_eq {st₀ st : BuildState} (h : st₀.SameInputs st) (stage : Stage) :
    st.stageDependencies stage = st₀.stageDependencies stage := by
  have hmap := congrArg (Option.map fun ds => ds.filter fun d => stage.scopes.contains d.scope) h.2
  simp only [Option.map_map] at hmap
  exact congrArg (Option.getD · []) hmap

end SameInputs

end BuildState

namespace BuildM

variable {α : Type} (st₀ : BuildState)

/-- A computation on the host that keeps its files keeps the inputs of the build. -/
theorem monadLift_sameInputs {x : HostM α} {E : Failure → Host → Prop}
    (hx : ⦃fun h => ⌜Host.SameFiles st₀.host h⌝⦄ x
      ⦃post⟨fun _ h => ⌜Host.SameFiles st₀.host h⌝, fun e h => ⌜E e h⌝⟩⦄) :
    ⦃fun st => ⌜st₀.SameInputs st⌝⦄ (MonadLift.monadLift x : BuildM α)
    ⦃⇓? _ st => ⌜st₀.SameInputs st⌝⦄ := by
  intro st hst
  have hwp := hx st.host hst.1
  rw [wp_apply] at hwp ⊢
  simp only [MonadLift.monadLift, ofHost, ExceptT.run_mk, Id.run, StateT.run] at hwp ⊢
  generalize ExceptT.run x st.host = r at hwp ⊢
  obtain ⟨_ | _, h'⟩ := r
  · trivial
  · exact ⟨hwp, hst.2⟩

/-- A computation on the dependencies that keeps their list and the files keeps the inputs of the
build. -/
theorem ofResolve_sameInputs {x : ResolveM α}
    (hx : ∀ D, ⦃fun r h => ⌜r.dependencies = D ∧ Host.SameFiles st₀.host h⌝⦄ x
      ⦃⇓? _ r h => ⌜r.dependencies = D ∧ Host.SameFiles st₀.host h⌝⦄) :
    ⦃fun st => ⌜st₀.SameInputs st⌝⦄ ofResolve x ⦃⇓? _ st => ⌜st₀.SameInputs st⌝⦄ := by
  intro st hst
  have hwp := hx (st.dependencies.getD {}).dependencies (st.dependencies.getD {}) st.host
    ⟨rfl, hst.1⟩
  rw [ResolveM.wp_apply] at hwp
  rw [wp_apply]
  simp only [ofResolve, ExceptT.run_mk, Id.run, StateT.run] at hwp ⊢
  generalize ExceptT.run (x (st.dependencies.getD {})) st.host = r at hwp ⊢
  obtain ⟨_ | ⟨a, r'⟩, h'⟩ := r
  · trivial
  · refine ⟨hwp.2, ?_⟩
    rw [← hst.2]
    cases hd : st.dependencies with
    | none => rfl
    | some d => simp [hd] at hwp ⊢; exact hwp.1

end BuildM

namespace Synthesizer

variable (h₀ : Host)

theorem addRelease_sameFiles (s : Synthesizer) (o : OptionList) (unit : Source.SourceUnit) :
    ⦃fun h => ⌜Host.SameFiles h₀ h⌝⦄ s.addRelease o unit ⦃⇓? _ h => ⌜Host.SameFiles h₀ h⌝⦄ := by
  have hemit := fun r => OptionList.emit_sameFiles h₀ r
  mvcgen [addRelease, hemit]
  all_goals exact id

theorem addSwitches_sameFiles (s : Synthesizer) (o : OptionList) :
    ⦃fun h => ⌜Host.SameFiles h₀ h⌝⦄ s.addSwitches o ⦃⇓? _ h => ⌜Host.SameFiles h₀ h⌝⦄ := by
  have hemit := fun r => OptionList.emit_sameFiles h₀ r
  have hchecked := fun r => OptionList.emitChecked_sameFiles h₀ r
  mvcgen [addSwitches, hemit, hchecked, HostM.logVerbose, HostM.log, HostM.printOut]

theorem addArguments_sameFiles (c : Checker) (given : List (String × Option String))
    (o : OptionList) (args : List String) :
    ⦃fun h => ⌜Host.SameFiles h₀ h⌝⦄ addArguments c given o args
    ⦃⇓ _ h => ⌜Host.SameFiles h₀ h⌝⦄ := by
  have hemit := fun r => OptionList.emit_sameFiles h₀ r
  -- one case per argument form; each continues with the rest of the arguments
  fun_induction addArguments c given o args with
  | case1 => mvcgen
  | case2 | case3 | case4 | case5 | case6 =>
    rename_i ih
    mvcgen [hemit, ih]
    all_goals simp_all [Host.SameFiles]

theorem addPathOption_sameFiles (c : Checker) (o : OptionList) (flag : String)
    (path : List String) :
    ⦃fun h => ⌜Host.SameFiles h₀ h⌝⦄ addPathOption c o flag path ⦃⇓ _ h => ⌜Host.SameFiles h₀ h⌝⦄ := by
  have hemit := fun r => OptionList.emit_sameFiles h₀ r
  mvcgen [addPathOption, hemit]

end Synthesizer

namespace Synthesizer

variable (st₀ : BuildState)

theorem mainOnPaths_sameInputs (s : Synthesizer) :
    ⦃fun st => ⌜st₀.SameInputs st⌝⦄ s.mainOnPaths ⦃⇓? _ st => ⌜st₀.SameInputs st⌝⦄ := by
  have hexists := fun p => BuildM.monadLift_sameInputs st₀ (HostM.pathExists_sameFiles st₀.host p)
  mvcgen [mainOnPaths, hexists]

theorem splitByModule_sameInputs (deps : List Dependency) :
    ⦃fun st => ⌜st₀.SameInputs st⌝⦄ splitByModule deps ⦃⇓? _ st => ⌜st₀.SameInputs st⌝⦄ := by
  have hname := fun d =>
    BuildM.ofResolve_sameInputs st₀ fun D => Resolution.moduleName_keeps D st₀.host d
  mvcgen [splitByModule, hname]
  invariants
  · ⇓? _ st => ⌜st₀.SameInputs st⌝

theorem searchPaths_sameInputs (s : Synthesizer) (unit : Source.SourceUnit)
    (previous : List String) (deps : List Dependency) :
    ⦃fun st => ⌜st₀.SameInputs st⌝⦄ s.searchPaths unit previous deps
    ⦃⇓? _ st => ⌜st₀.SameInputs st⌝⦄ := by
  have hlog := fun line =>
    BuildM.monadLift_sameInputs st₀ (HostM.logDeprecation_sameFiles st₀.host line)
  have hmain := mainOnPaths_sameInputs st₀
  have hsplit := splitByModule_sameInputs st₀
  mvcgen [searchPaths, hmain, hlog, hsplit]

theorem patchFor_sameInputs (unit : Source.SourceUnit) (patches : List (String × Patch.ModulePatch)) :
    ⦃fun st => ⌜st₀.SameInputs st⌝⦄ patchFor unit patches ⦃⇓? _ st => ⌜st₀.SameInputs st⌝⦄ := by
  have hfind := fun roots =>
    BuildM.monadLift_sameInputs st₀ (Patch.find_sameFiles st₀.host roots)
  have hread := fun p => BuildM.monadLift_sameInputs st₀ (HostM.readText_sameFiles st₀.host p)
  have hload := fun shared m text file =>
    BuildM.monadLift_sameInputs st₀ (Patch.loadLogged_sameFiles st₀.host shared m text file)
  have hexcept := fun (r : Except Failure Patch.ModulePatch) =>
    BuildM.monadLift_sameInputs st₀ (HostM.ofExcept_sameFiles st₀.host r)
  mvcgen [patchFor, BuildM.state, BuildM.context, BuildM.modifyContext, hfind, hread, hload,
    hexcept]

theorem addPatchOptions_sameInputs (s : Synthesizer) (o : OptionList) (unit : Source.SourceUnit)
    (dependencies : Option Resolution) (overwrite : Bool) (patches : List (String × Patch.ModulePatch)) :
    ⦃fun st => ⌜st₀.SameInputs st⌝⦄ s.addPatchOptions o unit dependencies overwrite patches
    ⦃⇓? _ st => ⌜st₀.SameInputs st⌝⦄ := by
  have hemit := fun r => BuildM.monadLift_sameInputs st₀ (OptionList.emit_sameFiles st₀.host r)
  have hresolve := fun (p : Patch.ModulePatch) shared known simplify =>
    BuildM.ofResolve_sameInputs st₀ fun D =>
      Patch.resolve_keeps D st₀.host p shared dependencies known simplify
  have hpatch := patchFor_sameInputs st₀
  mvcgen [addPatchOptions, BuildM.context, BuildM.state, hpatch, hresolve, hemit]
  invariants
  · ⇓? _ st => ⌜st₀.SameInputs st⌝

theorem addModuleOptions_sameInputs (s : Synthesizer) (o : OptionList) (unit : Source.SourceUnit)
    (cwd : String) (dependencies : Option Resolution) (earlier : List String) (overwrite : Bool)
    (patches : List (String × Patch.ModulePatch)) :
    ⦃fun st => ⌜st₀.SameInputs st⌝⦄ s.addModuleOptions o unit cwd dependencies earlier overwrite patches
    ⦃⇓? _ st => ⌜st₀.SameInputs st⌝⦄ := by
  have hemit := fun r => BuildM.monadLift_sameInputs st₀ (OptionList.emit_sameFiles st₀.host r)
  have hpatches := addPatchOptions_sameInputs st₀
  mvcgen [addModuleOptions, hemit, hpatches]
  invariants
  · ⇓? _ st => ⌜st₀.SameInputs st⌝

theorem addPaths_sameInputs (s : Synthesizer) (o : OptionList) (unit : Source.SourceUnit)
    (previous : List String) (overwrite : Bool) (patches : List (String × Patch.ModulePatch)) :
    ⦃fun st => ⌜st₀.SameInputs st⌝⦄ s.addPaths o unit previous overwrite patches
    ⦃⇓? _ st => ⌜st₀.SameInputs st⌝⦄ := by
  have hemit := fun r => BuildM.monadLift_sameInputs st₀ (OptionList.emit_sameFiles st₀.host r)
  have hpath := fun c o flag path =>
    BuildM.monadLift_sameInputs st₀ (addPathOption_sameFiles st₀.host c o flag path)
  have hsearch := searchPaths_sameInputs st₀
  have hmodules := addModuleOptions_sameInputs st₀
  mvcgen [addPaths, BuildM.state, hemit, hsearch, hpath, hmodules]

theorem unitOptions_sameInputs (s : Synthesizer) (unit : Source.SourceUnit)
    (previous : List String) (overwrite : Bool) (patches : List (String × Patch.ModulePatch)) :
    ⦃fun st => ⌜st₀.SameInputs st⌝⦄ s.unitOptions unit previous overwrite patches
    ⦃⇓? _ st => ⌜st₀.SameInputs st⌝⦄ := by
  have hrelease := fun o => BuildM.monadLift_sameInputs st₀ (addRelease_sameFiles st₀.host s o unit)
  have hswitches := fun o => BuildM.monadLift_sameInputs st₀ (addSwitches_sameFiles st₀.host s o)
  have hargs := fun given o =>
    BuildM.monadLift_sameInputs st₀
      (addArguments_sameFiles st₀.host s.checker given o s.config.compilerArgs)
  have hdebug := fun line =>
    BuildM.monadLift_sameInputs st₀ (HostM.logDebug_sameFiles st₀.host line)
  mvcgen [unitOptions, hrelease, hswitches, addPaths_sameInputs, hargs, hdebug]
  all_goals grind [BuildState.SameInputs.trans]

/-- Deriving the options of the units of a scope keeps the files and the dependencies of the
build, whether it succeeds or fails. -/
theorem setOptions_sameInputs (s : Synthesizer) (sources : Source.SourceSet) :
    ⦃fun st => ⌜st₀.SameInputs st⌝⦄ s.setOptions sources ⦃⇓? _ st => ⌜st₀.SameInputs st⌝⦄ := by
  have hunit := fun unit previous overwrite patches =>
    unitOptions_sameInputs st₀ s unit previous overwrite patches
  mvcgen [setOptions, hunit]
  invariants
  · ⇓? _ st => ⌜st₀.SameInputs st⌝

end Synthesizer

end JavaBuild
