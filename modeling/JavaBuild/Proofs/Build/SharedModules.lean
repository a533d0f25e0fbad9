import Mathlib
import JavaBuild.Proofs.Build.SearchPaths
import JavaBuild.Proofs.Build.Sequence

/-!
# The modules that the patches of a scope share

The modules that a module-info patch adds (`add-modules`) or limits (`limit-modules`) are not kept
with the patch: loading a patch appends them, each once and in order of first declaration, to the
lists that the build shares (`BuildContext.shared`), and what was appended stays. Deriving the
options of the units of a scope loads the patch of each unit whose patch options are emitted when
the unit comes, unless a patch of the same file was loaded before; a unit without patch file loads
the defaults of the module it patches.

Resolving the patch of a unit reads the shared lists as they are at that moment. So the options of
the unit of index `k` add and limit the modules of the patches loaded by the units `0, …, k`
(`Synthesizer.sharedAfter`), and not those of the patches that later units load
(`Executor.synthesize_shares_modules_of_loaded_patches`): two test units with patch files of
their own give the first unit the modules of its own patch only
(`Executor.synthesize_misses_later_patch_modules`).

Every patch that loading gives, or that the synthesis keeps, lists each exported and each opened
package once (`Synthesizer.patchFor_distinct`), as resolving a patch expects.

Resolving reads the modules of the project in the order the executor enumerates their set
(`Executor.enumerate`), and a package exported to `SUBPROJECT-MODULES` is exported to them in that
order: two enumerations of the same modules give two option lists
(`Executor.synthesize_exports_follow_enumeration`).
-/

set_option mvcgen.warning false

namespace JavaBuild

open Std.Do

/-! ## The patch file of a unit -/

namespace Host

/-- The text of a file of the host as reading it gives it: its UTF-8 bytes decoded, the line ends
read as line feeds; nothing when the file cannot be read or is not UTF-8. -/
def textOf (h : Host) (p : String) : Option String :=
  match h.disk.readFile (Path.absolute h.cwd p) with
  | .ok bytes =>
    match Utf8.decode bytes with
    | .ok s => some (String.ofList (HostM.universalNewlines s.toList))
    | .error _ => none
  | .error _ => none

end Host

namespace HostM

/-- A text read on a host that shows the files of `h₀` is the text of the file on `h₀`. -/
theorem readText_textOf (p : String) (h₀ : Host) :
    ⦃fun h => ⌜Host.SameFiles h₀ h⌝⦄ readText p
    ⦃⇓? t h => ⌜h₀.textOf p = some t ∧ Host.SameFiles h₀ h⌝⦄ := by
  mvcgen [readText, readBytes, onDisk, checkWritable]
  all_goals simp_all [Host.textOf, Host.SameFiles]

end HostM

namespace Patch

/-- Whether a host holds a file at a path that can be named. -/
def holdsFile (h : Host) (c : String) : Bool := HostM.nameable c && h.disk.exists? (Path.absolute h.cwd c)

/-- The patch file among the given roots on a host: the candidate of the first root that holds
one. -/
def fileOn (h : Host) (roots : List String) : Option String :=
  (roots.map (Path.join · fileName)).find? (holdsFile h)

@[simp] theorem fileOn_nil (h : Host) : fileOn h [] = none := rfl

theorem holdsFile_of_sameFiles {h₀ h : Host} (hs : Host.SameFiles h₀ h) (c : String) :
    holdsFile h c = holdsFile h₀ c := by
  simp [holdsFile, hs.1, hs.2]

theorem fileOn_append_of_holds {h : Host} {pre : List String} (hpre : fileOn h pre = none)
    {root : String} (hroot : holdsFile h (Path.join root fileName) = true) (suf : List String) :
    fileOn h (pre ++ root :: suf) = some (Path.join root fileName) := by
  simp only [fileOn] at hpre ⊢
  rw [List.map_append, List.find?_append, hpre, Option.none_or, List.map_cons,
    List.find?_cons_of_pos hroot]

theorem fileOn_append_of_not_holds {h : Host} {pre : List String} (hpre : fileOn h pre = none)
    {root : String} (hroot : holdsFile h (Path.join root fileName) = false) :
    fileOn h (pre ++ [root]) = none := by
  simp only [fileOn] at hpre ⊢
  rw [List.map_append, List.find?_append, hpre, Option.none_or]
  simp [hroot]

/-- Looking for the patch file of some roots finds the first on the host, which it leaves as it
was. -/
theorem find_fileOn (roots : List String) (h₀ : Host) :
    ⦃fun h => ⌜Host.SameFiles h₀ h⌝⦄ find roots
    ⦃⇓ r h => ⌜r = fileOn h₀ roots ∧ Host.SameFiles h₀ h⌝⦄ := by
  mvcgen [find] invariants
  · Invariant.withEarlyReturnNewDo
      (fun cur _ h => ⌜fileOn h₀ cur.prefix = none ∧ Host.SameFiles h₀ h⌝)
      (fun r _ h => ⌜r = fileOn h₀ roots ∧ Host.SameFiles h₀ h⌝)
  -- the first root that holds a patch file ends the search
  case vc1 =>
    rename_i pref cur suff hroots _ _ s₁ hinv r hr s hs
    obtain ⟨rfl, rfl⟩ := hs
    rcases hinv with ⟨-, hpre, hsame⟩ | ⟨_, -, hnil, -⟩
    · have hholds : holdsFile s (Path.join cur fileName) = true := hr
      rw [holdsFile_of_sameFiles hsame] at hholds
      exact .inr ⟨_, rfl, trivial, by rw [hroots, fileOn_append_of_holds hpre hholds], hsame⟩
    · exact absurd hnil (List.cons_ne_nil _ _)
  -- a root without one is passed over
  case vc2 =>
    rename_i pref cur suff hroots _ _ s₁ hinv r hr s hs
    obtain ⟨rfl, rfl⟩ := hs
    rcases hinv with ⟨-, hpre, hsame⟩ | ⟨_, -, hnil, -⟩
    · have hholds : holdsFile s (Path.join cur fileName) = false := Bool.eq_false_iff.mpr hr
      rw [holdsFile_of_sameFiles hsame] at hholds
      exact .inl ⟨trivial, fileOn_append_of_not_holds hpre hholds, hsame⟩
    · exact absurd hnil (List.cons_ne_nil _ _)
  case vc3 => exact .inl ⟨trivial, rfl, ‹_›⟩
  case vc4 =>
    rename_i r a ha s hinv
    rcases hinv with ⟨hnone, -⟩ | ⟨a', hsome, -, rfl, hsame⟩
    · simp [hnone] at ha
    · exact ⟨Option.some.inj (ha.symm.trans hsome), hsame⟩
  case vc5 =>
    rename_i r hr s hinv
    rcases hinv with ⟨-, hfile, hsame⟩ | ⟨a, hsome, -⟩
    · exact ⟨hfile.symm, hsame⟩
    · simp [hr] at hsome

/-- Reading a patch with a log line gives what reading it gives, and leaves the files as they
were. -/
theorem loadLogged_eq (shared : SharedModules) (moduleName : Option String) (text : String)
    (file : Option String) (h₀ : Host) :
    ⦃fun h => ⌜Host.SameFiles h₀ h⌝⦄ loadLogged shared moduleName text file
    ⦃⇓ r h => ⌜r = load shared moduleName text file ∧ Host.SameFiles h₀ h⌝⦄ := by
  mvcgen [loadLogged, HostM.logDebug_sameFiles]
  all_goals simp_all [Host.SameFiles]

end Patch

section Runs

variable {ε σ α : Type} {x : ExceptT ε (StateM σ) α}

/-- A triple read on the state it starts from: what it promises holds when that state meets its
precondition. Callers that know the state only after the run use this form. -/
theorem triple_from {P : σ → Prop} {Q : α → σ → Prop} (h : ⦃fun s => ⌜P s⌝⦄ x ⦃⇓? a s => ⌜Q a s⌝⦄)
    (s₁ : σ) : ⦃fun s => ⌜s = s₁⌝⦄ x ⦃⇓? a s => ⌜P s₁ → Q a s⌝⦄ := by
  rintro s rfl
  rw [wp_apply]
  split
  · exact fun hP => ok_of_triple h hP ‹_›
  · trivial

end Runs

/-! ## Resolving a patch against the shared modules -/

namespace ResolveM

/-- Every computation on the dependencies satisfies the triple that promises nothing. -/
theorem triple_true {α : Type} (x : ResolveM α) : ⦃fun _ _ => ⌜True⌝⦄ x ⦃⇓? _ _ _ => ⌜True⌝⦄ := by
  intro s h _
  rw [wp_apply]
  split <;> trivial

end ResolveM

namespace Patch

/-- Options of one stage that add and limit the modules the shared lists give: the limited
modules are the shared ones, and the added ones are the shared ones but the test module path,
followed, only when the shared ones name it, by modules of the test dependencies. -/
def Directives.SharesModules (d : Directives) (shared : SharedModules) : Prop :=
  d.limitModules = shared.limitModules ∧
    ∃ tests, d.addModules =
      Declaration.appendNew (shared.addModules.filter (· ≠ testModulePath)) tests ∧
      (testModulePath ∉ shared.addModules → tests = [])

namespace Directives

variable {d : Directives} {shared : SharedModules}

/-- Whether options share the modules depends on their added and limited modules alone. -/
theorem SharesModules.of_lists {d' : Directives} (h : d.SharesModules shared)
    (ha : d'.addModules = d.addModules) (hl : d'.limitModules = d.limitModules) :
    d'.SharesModules shared := by
  rw [SharesModules, ha, hl]
  exact h

/-- A module of the test dependencies may follow the shared ones when they name the test module
path. -/
theorem SharesModules.addItem (h : d.SharesModules shared)
    (hall : testModulePath ∈ shared.addModules) (m : String) :
    { d with addModules := Patch.addItem d.addModules m }.SharesModules shared := by
  obtain ⟨hl, tests, ha, -⟩ := h
  refine ⟨hl, tests ++ [m], ?_, fun h => absurd hall h⟩
  rw [ha, ← Declaration.appendNew_singleton, Declaration.appendNew_appendNew]

theorem declared_sharesModules (p : ModulePatch) (shared : SharedModules) :
    (p.declared shared).SharesModules shared :=
  ⟨rfl, [], by simp [ModulePatch.declared], fun _ => rfl⟩

end Directives

namespace Expansion

/-- An expansion whose options share the modules at both stages. -/
def SharesModules (e : Expansion) (shared : SharedModules) : Prop :=
  ∀ b, (e.stage b).SharesModules shared

/-- Steps that each keep the added and limited modules of both stages keep them over a list. -/
theorem foldl_lists {γ : Type} (f : Expansion → γ → Expansion)
    (hf : ∀ e x b, ((f e x).stage b).addModules = (e.stage b).addModules ∧
      ((f e x).stage b).limitModules = (e.stage b).limitModules)
    (X : List γ) (e : Expansion) (b : Bool) :
    ((X.foldl f e).stage b).addModules = (e.stage b).addModules ∧
      ((X.foldl f e).stage b).limitModules = (e.stage b).limitModules := by
  induction X generalizing e with
  | nil => exact ⟨rfl, rfl⟩
  | cons x X ih =>
    obtain ⟨ha, hl⟩ := ih (f e x)
    obtain ⟨ha', hl'⟩ := hf e x b
    exact ⟨ha.trans ha', hl.trans hl'⟩

/-- Exporting packages changes no added or limited module. -/
theorem foldl_addExport_lists (X : List String) (st : Stages) (m : String) (e : Expansion)
    (b : Bool) :
    ((X.foldl (fun e pkg => (e.addExport pkg st m).1) e).stage b).addModules =
        (e.stage b).addModules ∧
      ((X.foldl (fun e pkg => (e.addExport pkg st m).1) e).stage b).limitModules =
        (e.stage b).limitModules :=
  foldl_lists _ (fun e pkg b => by simp) X e b

/-- Adding a module of the test dependencies adds it to the added modules at the stages it is
added at, when they stand for them, and limits nothing. -/
theorem addTestModule_lists (e : Expansion) (addAll readAll : Bool) (exported : List String)
    (st : Stages) (m : String) (b : Bool) :
    ((e.addTestModule addAll readAll exported st m).1.stage b).addModules =
        (if addAll && st.has b then addItem (e.stage b).addModules m else (e.stage b).addModules) ∧
      ((e.addTestModule addAll readAll exported st m).1.stage b).limitModules =
        (e.stage b).limitModules := by
  unfold addTestModule
  -- the flag of a change is carried along the exports, and the expansion does not depend on it
  rw [← @List.foldl_hom _ _ _ Prod.fst _ (fun e pkg => (e.addExport pkg st m).1) _ _ fun _ _ => rfl]
  rw [(foldl_addExport_lists _ _ _ _ _).1, (foldl_addExport_lists _ _ _ _ _).2]
  cases addAll <;> cases readAll <;> cases hb : st.has b <;> simp [hb]

/-- Adding a module of the test dependencies, to the added modules when the shared ones name the
test module path, keeps the options sharing the modules. -/
theorem addTestModule_sharesModules {e : Expansion} {shared : SharedModules}
    (h : e.SharesModules shared) (readAll : Bool) (exported : List String) (st : Stages)
    (m : String) :
    (e.addTestModule (shared.addModules.contains testModulePath) readAll exported st m).1.SharesModules
      shared := by
  intro b
  obtain ⟨ha, hl⟩ :=
    addTestModule_lists e (shared.addModules.contains testModulePath) readAll exported st m b
  by_cases hadd : (shared.addModules.contains testModulePath && st.has b) = true
  · rw [if_pos hadd] at ha
    have hmem : testModulePath ∈ shared.addModules :=
      List.contains_iff_mem.mp (Bool.and_eq_true_iff.mp hadd).1
    exact ((h b).addItem hmem m).of_lists ha hl
  · rw [if_neg hadd] at ha
    exact (h b).of_lists ha hl

theorem addUnnamed_sharesModules {e : Expansion} {shared : SharedModules}
    (h : e.SharesModules shared) (readAll : Bool) (exported : List String) (st : Stages) :
    (e.addUnnamed readAll exported st).SharesModules shared := by
  intro b
  unfold addUnnamed
  obtain ⟨ha, hl⟩ := foldl_addExport_lists exported st allUnnamed
    (if readAll then (e.addRead st allUnnamed).1 else e) b
  refine (h b).of_lists (ha.trans ?_) (hl.trans ?_) <;> cases readAll <;> simp

end Expansion

/-- Exporting packages to the modules of the project changes no added or limited module. -/
theorem expandSubprojects_lists (p : ModulePatch) (pm : List String) (e : Expansion) (b : Bool) :
    ((expandSubprojects p pm e).stage b).addModules = (e.stage b).addModules ∧
      ((expandSubprojects p pm e).stage b).limitModules = (e.stage b).limitModules := by
  unfold expandSubprojects
  apply Expansion.foldl_lists
  rintro e ⟨pkg, targets⟩ b
  split
  split
  · apply Expansion.foldl_lists
    intro e m b
    split <;> simp
  · exact ⟨rfl, rfl⟩

theorem expandSubprojects_sharesModules {e : Expansion} {shared : SharedModules}
    (h : e.SharesModules shared) (p : ModulePatch) (pm : List String) :
    (expandSubprojects p pm e).SharesModules shared := fun b =>
  (h b).of_lists (expandSubprojects_lists p pm e b).1 (expandSubprojects_lists p pm e b).2

/-- Expanding the test module path keeps the options sharing the modules: it adds modules of the
test dependencies to the added ones only when the shared ones name the test module path. -/
theorem expandTestPath_sharesModules (p : ModulePatch) (shared : SharedModules) (r : Resolution)
    (simplify : Bool) {e : Expansion} (he : e.SharesModules shared) :
    ⦃fun _ _ => ⌜True⌝⦄ expandTestPath p shared r simplify e
    ⦃⇓? e' _ _ => ⌜e'.SharesModules shared⌝⦄ := by
  have hname := fun d => ResolveM.triple_true (Resolution.moduleName d)
  have hdesc := fun d => ResolveM.triple_true (Resolution.descriptor d)
  have hreq := fun r d => ResolveM.triple_true (requiredModules r d)
  mvcgen [expandTestPath, hname, hdesc, hreq] invariants
  · ⇓? st _ _ => ⌜st.2.1.SharesModules shared⌝
  -- a module of a test dependency, where no stage covers it yet
  case vc2 | vc4 | vc6 => exact Expansion.addTestModule_sharesModules (by assumption) _ _ _ _
  -- the dependencies in the unnamed module
  case vc11 => exact Expansion.addUnnamed_sharesModules (by assumption) _ _ _

/-- Resolved options whose stages share the modules. -/
def Options.SharesModules (o : Options) (shared : SharedModules) : Prop :=
  o.compile.SharesModules shared ∧ o.runtime.SharesModules shared

/-- Resolving a patch gives options that add and limit the modules the shared lists give. -/
theorem resolve_sharesModules (p : ModulePatch) (shared : SharedModules)
    (resolution : Option Resolution) (pm : List String) (simplify : Bool) :
    ⦃fun _ _ => ⌜True⌝⦄ p.resolve shared resolution pm simplify
    ⦃⇓? o _ _ => ⌜o.SharesModules shared⌝⦄ := by
  have hdeclared := expandSubprojects_sharesModules (e := ⟨p.declared shared, p.declared shared⟩)
    (fun b => by cases b <;> exact Directives.declared_sharesModules p shared) p pm
  have hexpand := fun r => expandTestPath_sharesModules p shared r simplify hdeclared
  have hknown := ResolveM.triple_true (knownModules p resolution pm)
  have hcheck := fun known => ResolveM.triple_true (checkReferences p shared known)
  mvcgen [ModulePatch.resolve, hexpand, hknown, hcheck]
  -- the test module path expanded over the dependencies
  case vc1 =>
    rename_i hexpanded _ _ _
    exact ⟨hexpanded false, hexpanded true⟩
  case vc2 | vc3 => exact ⟨hdeclared false, hdeclared true⟩

end Patch

namespace BuildM

variable {α : Type} (st₀ : BuildState)

theorem run_state (st : BuildState) : state.run.run st = (.ok st, st) := rfl

theorem run_context (st : BuildState) : context.run.run st = (.ok st.context, st) := rfl

theorem run_modifyContext (f : BuildContext → BuildContext) (st : BuildState) :
    (modifyContext f).run.run st = (.ok (), { st with context := f st.context }) := rfl

/-- A computation on the host that returns, run within a build, ran on the host of the build and
changed that host alone. -/
theorem liftM_eq_ok {x : HostM α} {st st' : BuildState} {a : α}
    (h : (liftM x : BuildM α).run.run st = (.ok a, st')) :
    ∃ h', x.run.run st.host = (.ok a, h') ∧ st' = { st with host := h' } := by
  rw [run_liftM] at h
  obtain ⟨h₁, rfl⟩ := Prod.mk.inj h
  exact ⟨_, Prod.ext h₁ rfl, rfl⟩

/-- A computation on the host, run within a build, keeps its context. -/
theorem monadLift_context (c : BuildContext) (x : HostM α) :
    ⦃fun st => ⌜st.context = c⌝⦄ (MonadLift.monadLift x : BuildM α)
    ⦃⇓? _ st => ⌜st.context = c⌝⦄ := by
  intro st hc
  rw [wp_apply]
  split
  · obtain ⟨_, _, rfl⟩ := liftM_eq_ok ‹_›
    exact hc
  · trivial

/-- A computation on the dependencies, run within a build, keeps its context. -/
theorem ofResolve_context (c : BuildContext) (x : ResolveM α) :
    ⦃fun st => ⌜st.context = c⌝⦄ ofResolve x ⦃⇓? _ st => ⌜st.context = c⌝⦄ := by
  intro st hc
  rw [wp_apply]
  split
  · rename_i hrun
    simp only [ofResolve, ExceptT.run_mk, Id.run, StateT.run] at hrun
    split at hrun <;> cases hrun
    exact hc
  · trivial

/-- A computation on the host run within a build from `st₁`: it keeps the context, and, when the
build shows the inputs of `st₀`, the inputs, with what the computation promises. -/
theorem monadLift_from (st₁ : BuildState) {x : HostM α} {Q : α → Prop} {E : Failure → Host → Prop}
    (hx : ⦃fun h => ⌜Host.SameFiles st₀.host h⌝⦄ x
      ⦃post⟨fun a h => ⌜Q a ∧ Host.SameFiles st₀.host h⌝, fun e h => ⌜E e h⌝⟩⦄) :
    ⦃fun st => ⌜st = st₁⌝⦄ (MonadLift.monadLift x : BuildM α)
    ⦃⇓? a st => ⌜st.context = st₁.context ∧ (st₀.SameInputs st₁ → Q a ∧ st₀.SameInputs st)⌝⦄ := by
  rintro st rfl
  rw [wp_apply]
  split
  · rename_i a st' hrun
    obtain ⟨h', hrun', rfl⟩ := liftM_eq_ok hrun
    exact ⟨rfl, fun hst => have hq := ok_of_triple hx hst.1 hrun'; ⟨hq.1, hq.2, hst.2⟩⟩
  · trivial

/-- A computation on the dependencies run within a build from `st₁`: it keeps the context, and the
inputs of `st₀` when it keeps the list of dependencies and the files. -/
theorem ofResolve_from (st₁ : BuildState) {x : ResolveM α} {Q : α → Prop}
    (hv : ⦃fun _ _ => ⌜True⌝⦄ x ⦃⇓? a _ _ => ⌜Q a⌝⦄)
    (hk : ∀ D, ⦃fun r h => ⌜r.dependencies = D ∧ Host.SameFiles st₀.host h⌝⦄ x
      ⦃⇓? _ r h => ⌜r.dependencies = D ∧ Host.SameFiles st₀.host h⌝⦄) :
    ⦃fun st => ⌜st = st₁⌝⦄ ofResolve x
    ⦃⇓? a st => ⌜Q a ∧ st.context = st₁.context ∧ (st₀.SameInputs st₁ → st₀.SameInputs st)⌝⦄ := by
  rintro st rfl
  rw [wp_apply]
  split
  · rename_i a st' hrun
    exact ⟨ok_of_triple (ofResolve_value_spec hv) trivial hrun,
      ok_of_triple (ofResolve_context _ x) rfl hrun,
      fun hst => ok_of_triple (ofResolve_sameInputs st₀ hk) hst hrun⟩
  · trivial

/-- A computation that keeps the context and the inputs of `st₀`, run from `st₁`. -/
theorem from_keeps {x : BuildM α}
    (hc : ∀ c, ⦃fun st => ⌜st.context = c⌝⦄ x ⦃⇓? _ st => ⌜st.context = c⌝⦄)
    (hi : ⦃fun st => ⌜st₀.SameInputs st⌝⦄ x ⦃⇓? _ st => ⌜st₀.SameInputs st⌝⦄) (st₁ : BuildState) :
    ⦃fun st => ⌜st = st₁⌝⦄ x
    ⦃⇓? _ st => ⌜st.context = st₁.context ∧ (st₀.SameInputs st₁ → st₀.SameInputs st)⌝⦄ := by
  rintro st rfl
  rw [wp_apply]
  split
  · exact ⟨ok_of_triple (hc st.context) rfl ‹_›, fun hst => ok_of_triple hi hst ‹_›⟩
  · trivial

end BuildM

namespace Synthesizer

/-- The patch file of a unit on a host: in the first of its roots that holds one. -/
def patchFileOf (h : Host) (unit : Source.SourceUnit) : Option String :=
  Patch.fileOn h (unit.roots.map fun d => Path.absolute h.cwd d.root)

/-- The key under which the synthesis keeps the patch of a unit: its patch file, or the defaults
of the module it patches. -/
def patchKey (h : Host) (unit : Source.SourceUnit) : String :=
  (patchFileOf h unit).getD ("<defaults>:" ++ unit.patchedModule.getD "None")

/-- The shared modules, and the keys of the patches loaded, after the patch of a unit is loaded on
a host: its patch file, or the defaults of the module it patches when it has none. A patch whose
key was loaded before is not loaded again. -/
def loadPatch (h : Host) (unit : Source.SourceUnit) (acc : Patch.SharedModules × List String) :
    Patch.SharedModules × List String :=
  if patchKey h unit ∈ acc.2 then acc
  else
    let shared := match patchFileOf h unit with
      | some path => (Patch.load acc.1 unit.patchedModule ((h.textOf path).getD "") (some path)).1
      | none => (Patch.defaults acc.1 unit.patchedModule).1
    (shared, acc.2 ++ [patchKey h unit])

theorem patchFor_run {unit : Source.SourceUnit} {patches : List (String × Patch.ModulePatch)}
    {st₀ st st' : BuildState} {r : Patch.ModulePatch × List (String × Patch.ModulePatch)}
    (hst : st₀.SameInputs st) (hrun : (patchFor unit patches).run.run st = (.ok r, st')) :
    st₀.SameInputs st' ∧ (st'.context.shared, r.2.map (·.1)) =
      loadPatch st₀.host unit (st.context.shared, patches.map (·.1)) := by
  unfold patchFor at hrun
  obtain ⟨_, _, hstate, hrun⟩ := BuildM.run_bind_eq_ok hrun
  obtain ⟨h₁, rfl⟩ := Prod.mk.inj ((BuildM.run_state st).symm.trans hstate)
  cases h₁
  dsimp only at hrun
  obtain ⟨found, st₂, hfind, hrun⟩ := BuildM.run_bind_eq_ok hrun
  obtain ⟨h₂, hfound, rfl⟩ := BuildM.liftM_eq_ok hfind
  obtain ⟨hfound, hsame₂⟩ := ok_of_triple (Patch.find_fileOn _ st₀.host) hst.1 hfound
  have hfile : found = patchFileOf st₀.host unit := by
    rw [hfound, patchFileOf, hst.1.2]
  subst hfile
  have hkey : (patchFileOf st₀.host unit).getD ("<defaults>:" ++ unit.patchedModule.getD "None") =
      patchKey st₀.host unit := rfl
  rw [hkey] at hrun
  have hsame : st₀.SameInputs { st with host := h₂ } := ⟨hsame₂, hst.2⟩
  split at hrun
  -- a patch of the same key was loaded before
  case h_1 p hp =>
    obtain ⟨h₃, rfl⟩ := Prod.mk.inj ((BuildM.run_pure _ _).symm.trans hrun)
    cases h₃
    have hmem : patchKey st₀.host unit ∈ patches.map (·.1) :=
      (isSome_lookup_iff patches _).mp (by simp [hp])
    exact ⟨hsame, by simp [loadPatch, hmem]⟩
  case h_2 hnone =>
    have hfresh : patchKey st₀.host unit ∉ patches.map (·.1) := fun hmem => by
      obtain ⟨p, hp⟩ := Option.isSome_iff_exists.mp ((isSome_lookup_iff patches _).mpr hmem)
      exact hnone p hp
    obtain ⟨_, _, hctx, hrun⟩ := BuildM.run_bind_eq_ok hrun
    obtain ⟨h₃, rfl⟩ := Prod.mk.inj ((BuildM.run_context _).symm.trans hctx)
    cases h₃
    split at hrun
    -- the patch file of the unit is read and loaded
    case h_1 path hpath =>
      obtain ⟨text, _, hread, hrun⟩ := BuildM.run_bind_eq_ok hrun
      obtain ⟨h₃, htext, rfl⟩ := BuildM.liftM_eq_ok hread
      obtain ⟨htext, hsame₃⟩ := ok_of_triple (HostM.readText_textOf path st₀.host) hsame₂ htext
      obtain ⟨loaded, _, hload, hrun⟩ := BuildM.run_bind_eq_ok hrun
      obtain ⟨h₄, hloaded, rfl⟩ := BuildM.liftM_eq_ok hload
      obtain ⟨rfl, hsame₄⟩ := ok_of_triple (Patch.loadLogged_eq _ _ _ _ st₀.host) hsame₃ hloaded
      obtain ⟨_, _, hmod, hrun⟩ := BuildM.run_bind_eq_ok hrun
      obtain ⟨-, rfl⟩ := Prod.mk.inj ((BuildM.run_modifyContext _ _).symm.trans hmod)
      obtain ⟨p, _, hexcept, hrun⟩ := BuildM.run_bind_eq_ok hrun
      obtain ⟨h₅, hp, rfl⟩ := BuildM.liftM_eq_ok hexcept
      have hsame₅ := ok_of_triple (HostM.ofExcept_sameFiles st₀.host _) hsame₄ hp
      -- a patch of another module is refused; the patch of the unit's module is kept
      split at hrun
      · obtain ⟨_, _, hthrow, -⟩ := BuildM.run_bind_eq_ok hrun
        cases hthrow
      · obtain ⟨_, _, hpure, hrun⟩ := BuildM.run_bind_eq_ok hrun
        obtain ⟨h₆, rfl⟩ := Prod.mk.inj ((BuildM.run_pure _ _).symm.trans hpure)
        cases h₆
        obtain ⟨h₆, rfl⟩ := Prod.mk.inj ((BuildM.run_pure _ _).symm.trans hrun)
        cases h₆
        refine ⟨⟨hsame₅, hst.2⟩, ?_⟩
        simp [loadPatch, hfresh, hpath, htext]
    -- a unit without patch file loads the defaults of its module
    case h_2 hpath =>
      obtain ⟨_, _, hmod, hrun⟩ := BuildM.run_bind_eq_ok hrun
      obtain ⟨-, rfl⟩ := Prod.mk.inj ((BuildM.run_modifyContext _ _).symm.trans hmod)
      obtain ⟨_, _, hpure, hrun⟩ := BuildM.run_bind_eq_ok hrun
      obtain ⟨h₃, rfl⟩ := Prod.mk.inj ((BuildM.run_pure _ _).symm.trans hpure)
      cases h₃
      obtain ⟨h₃, rfl⟩ := Prod.mk.inj ((BuildM.run_pure _ _).symm.trans hrun)
      cases h₃
      refine ⟨hsame, ?_⟩
      simp [loadPatch, hfresh, hpath]

/-- `patchFor` as a triple on the state it starts from. -/
theorem patchFor_spec (unit : Source.SourceUnit) (patches : List (String × Patch.ModulePatch))
    (st₀ st₁ : BuildState) :
    ⦃fun st => ⌜st = st₁⌝⦄ patchFor unit patches
    ⦃⇓? r st => ⌜st₀.SameInputs st₁ → st₀.SameInputs st ∧
      (st.context.shared, r.2.map (·.1)) =
        loadPatch st₀.host unit (st₁.context.shared, patches.map (·.1))⌝⦄ := by
  rintro st rfl
  rw [wp_apply]
  split
  · exact fun hst => patchFor_run hst ‹_›
  · trivial

/-- Patches that each list each package once, with one more such patch. -/
theorem distinct_append {patches : List (String × Patch.ModulePatch)} {key : String}
    {p : Patch.ModulePatch} (hall : ∀ q ∈ patches, q.2.Distinct) (hp : p.Distinct) :
    ∀ q ∈ patches ++ [(key, p)], q.2.Distinct := by
  intro q hq
  rcases List.mem_append.mp hq with hq | hq
  · exact hall q hq
  · rw [List.mem_singleton.mp hq]
    exact hp

/-- The patch that `patchFor` gives, and each patch it keeps, lists each package of its exports
and of its opens once, when each patch it was given does. -/
theorem patchFor_distinct (unit : Source.SourceUnit) (patches : List (String × Patch.ModulePatch)) :
    ⦃⌜∀ q ∈ patches, q.2.Distinct⌝⦄ patchFor unit patches
    ⦃⇓? r => ⌜r.1.Distinct ∧ ∀ q ∈ r.2, q.2.Distinct⌝⦄ := by
  have hload := fun shared m text file =>
    @BuildM.monadLift_post_spec _ (Patch.loadLogged shared m text file) (fun _ => True)
      (fun r _ => r = Patch.load shared m text file) (fun _ _ => True)
      (by mvcgen [Patch.loadLogged])
  have hexcept := fun (r : Except Failure Patch.ModulePatch) =>
    @BuildM.monadLift_post_spec _ (HostM.ofExcept r) (fun _ => True) (fun p _ => r = .ok p)
      (fun _ _ => True) (by cases r <;> mvcgen [HostM.ofExcept])
  have hfind := fun roots => triple_true (MonadLift.monadLift (Patch.find roots) : BuildM _)
  have hread := fun p => triple_true (MonadLift.monadLift (HostM.readText p) : BuildM _)
  mvcgen [patchFor, BuildM.state, BuildM.context, BuildM.modifyContext, hfind, hread, hload,
    hexcept]
  -- a patch kept before
  case vc1 =>
    rename_i _ hall _ _ key p hp _
    obtain ⟨l₁, l₂, hsplit, -⟩ := List.lookup_eq_some_iff.mp hp
    refine ⟨hall (key, p) ?_, hall⟩
    rw [hsplit]
    exact List.mem_append_right _ List.mem_cons_self
  -- the patch read from the unit's patch file
  case vc3 =>
    rename_i hloaded _ _ _ _ _ hok
    rw [hloaded] at hok
    have hp := Patch.load_distinct _ _ _ _ (Prod.ext rfl hok)
    exact ⟨hp, distinct_append ‹_› hp⟩
  -- the defaults of the unit's module
  case vc4 =>
    exact ⟨Patch.defaults_distinct _ _, distinct_append ‹_› (Patch.defaults_distinct _ _)⟩

/-- An addition emitted after a list that grew from `o` leaves a list that grows from `o`. -/
theorem grows_addValue {o b m : OptionList} {c : Checker} {f : String} {v : Option String}
    (h : o.Grows b) (hm : m = (b.addValue c f v).list) : o.Grows m := by
  rw [hm]
  exact h.trans (OptionList.addValue_grows _ _ _ _)

/-- The flags of the options of a patch for the compiler. -/
def patchFlags : List String := ["--add-modules", "--limit-modules", "--add-reads", "--add-exports"]

/-- The options that the patch options of a unit add for the compiler: each flag and its value. -/
def patchSegment (opts : Patch.Options) : List String :=
  opts.compileOptions.flatMap fun p => valueOption p.1 p.2

theorem compileOptions_flags (opts : Patch.Options) : ∀ p ∈ opts.compileOptions, p.1 ∈ patchFlags := by
  intro p hp
  simp only [Patch.Options.compileOptions, Patch.Options.pairs, List.mem_append] at hp
  -- one case per kind of option: the shared lists, the reads, the exports; no opens
  rcases hp with (((h | h) | h) | h) | h
  · split at h <;> simp_all [patchFlags]
  · split at h <;> simp_all [patchFlags]
  · split at h <;> simp_all [patchFlags]
  · obtain ⟨x, -, hx⟩ := List.mem_filterMap.mp h
    split at hx
    · cases hx
    · cases hx
      simp [patchFlags]
  · simp at h

/-- What the patch options of a unit add after the options `o`, giving `o'` and the lines for the
test launcher: nothing when none are emitted; else the options and the lines of a patch resolved
against the shared modules `shared`. -/
def PatchAdded (emits : Bool) (shared : Patch.SharedModules) (o o' : OptionList)
    (lines : List String) : Prop :=
  if emits then ∃ opts : Patch.Options, opts.SharesModules shared ∧ lines = opts.runtimeLines ∧
    o'.items = o.items ++ patchSegment opts ∧ o'.releaseAt = o.releaseAt
  else o' = o ∧ lines = []

theorem addPatchOptions_spec (s : Synthesizer) (o : OptionList) (unit : Source.SourceUnit)
    (dependencies : Option Resolution) (overwrite : Bool) (patches : List (String × Patch.ModulePatch))
    (st₀ : BuildState) (S : Patch.SharedModules)
    (hjudge : ∀ f ∈ patchFlags, s.checker.judge f 1 = none) :
    ⦃fun st => ⌜st₀.SameInputs st ∧ st.context.shared = S⌝⦄
    s.addPatchOptions o unit dependencies overwrite patches
    ⦃⇓? r st => ⌜st₀.SameInputs st ∧
      (st.context.shared, r.2.2.map (·.1)) =
        (if unit.patchedModule.isSome && !overwrite then
          loadPatch st₀.host unit (S, patches.map (·.1)) else (S, patches.map (·.1))) ∧
      PatchAdded (unit.patchedModule.isSome && !overwrite) st.context.shared o r.1 r.2.1⌝⦄ := by
  have hpatch := fun unit patches st₁ => patchFor_spec unit patches st₀ st₁
  have hresolve := fun st₁ (p : Patch.ModulePatch) shared known simplify =>
    BuildM.ofResolve_from st₀ st₁ (Patch.resolve_sharesModules p shared dependencies known simplify)
      fun D => Patch.resolve_keeps D st₀.host p shared dependencies known simplify
  have hemit := fun st₁ r => BuildM.monadLift_from st₀ st₁ (OptionList.emit_spec r st₀.host)
  mvcgen [addPatchOptions, hpatch, BuildM.context, BuildM.state, hresolve, hemit]
  -- the options emitted so far follow `o`; the emissions keep the context the patch left
  case inv1 =>
    rename_i s₁ _ _ _ _ _
    exact ⇓? p st => ⌜p.2.items = o.items ++ ( List.Cursor.prefix p.1).flatMap
        (fun x => valueOption x.1 x.2) ∧ p.2.releaseAt = o.releaseAt ∧
      st.context = s₁.context ∧ st₀.SameInputs st⌝
  -- no patch options: a test declaration overwrites the main one, or the unit patches nothing
  case vc1 | vc6 => simp_all [PatchAdded]
  -- one option of the patch emitted after those before it
  case vc2 =>
    rename_i opts _ _ pref cur suff hopts b s₁ hinv o' s₂ hemit
    obtain ⟨hitems, hrel, hctx, hsame⟩ := hinv
    obtain ⟨rfl, hsame₂⟩ := hemit.2 hsame
    have hf : s.checker.judge cur.1 1 = none :=
      hjudge _ (compileOptions_flags opts cur (by rw [hopts]; simp))
    -- the postcondition read at the new state, so that its parts elaborate against plain types
    dsimp only [PostCond.mayThrow] at hitems hrel ⊢
    refine ⟨?_, (OptionList.addValue_grows _ _ _ _).2.trans hrel, hemit.1.trans hctx, hsame₂⟩
    rw [OptionList.addValue_items hf, hitems]
    simp
  case vc3 => exact fun _ _ => trivial
  case vc4 =>
    rename_i hstart _ _ hpatch _ _ _ hres
    exact ⟨by simp, rfl, hres.2.1, hres.2.2 (hpatch hstart.1).1⟩
  -- the patch loaded, its options resolved against the shared modules and emitted
  case vc5 =>
    rename_i hsome hnot _ hstart _ _ hpatch _ opts _ hres o' st hinv
    obtain ⟨hitems, hrel, hctx, hsame⟩ := hinv
    obtain ⟨-, hload⟩ := hpatch hstart.1
    have hemits : (unit.patchedModule.isSome && !overwrite) = true := by simp [hsome, hnot]
    refine ⟨hsame, ?_, ?_⟩
    · rw [if_pos hemits, hctx, ← hstart.2]
      exact hload
    · simp only [PatchAdded, if_pos hemits]
      exact ⟨opts, hctx ▸ hres.1, rfl, hitems, hrel⟩

theorem addModuleOptions_spec (s : Synthesizer) (o : OptionList) (unit : Source.SourceUnit)
    (cwd : String) (dependencies : Option Resolution) (earlier : List String) (overwrite : Bool)
    (patches : List (String × Patch.ModulePatch)) (st₀ : BuildState) (S : Patch.SharedModules)
    (hjudge : ∀ f ∈ patchFlags, s.checker.judge f 1 = none) :
    ⦃fun st => ⌜st₀.SameInputs st ∧ st.context.shared = S⌝⦄
    s.addModuleOptions o unit cwd dependencies earlier overwrite patches
    ⦃⇓? r st => ⌜st₀.SameInputs st ∧
      (st.context.shared, r.2.2.map (·.1)) =
        (if unit.patchedModule.isSome && !overwrite then
          loadPatch st₀.host unit (S, patches.map (·.1)) else (S, patches.map (·.1))) ∧
      ∃ m, o.Grows m ∧
        PatchAdded (unit.patchedModule.isSome && !overwrite) st.context.shared m r.1 r.2.1⌝⦄ := by
  have hemit := fun st₁ r => BuildM.monadLift_from st₀ st₁ (OptionList.emit_spec r st₀.host)
  have hpatch := fun st₁ o' => triple_from
    (addPatchOptions_spec s o' unit dependencies overwrite patches st₀ S hjudge) st₁
  mvcgen [addModuleOptions, hemit, hpatch] invariants
  · ⇓? p st => ⌜o.Grows p.2 ∧ st₀.SameInputs st ∧ st.context.shared = S⌝
  -- every emit keeps the context and lets the option list grow; the patch options are then
  -- resolved against the shared modules the unit started with
  case vc1 =>
    rename_i hinv o' _ hemit
    obtain ⟨hgrows, hsame, hS⟩ := hinv
    obtain ⟨ho', hsame'⟩ := hemit.2 hsame
    exact ⟨grows_addValue hgrows ho', hsame', hemit.1 ▸ hS⟩
  case vc4 =>
    rename_i hinv _ _ hemit _ _
    obtain ⟨hgrows, hsame, hS⟩ := hinv
    obtain ⟨hm, hsame'⟩ := hemit.2 hsame
    intro hpost
    obtain ⟨hsame'', hkeys, hadded⟩ := hpost hsame' (by rw [hemit.1, hS])
    exact ⟨hsame'', hkeys, _, grows_addValue hgrows hm, hadded⟩
  case vc5 =>
    rename_i hinv _ _
    obtain ⟨hgrows, hsame, hS⟩ := hinv
    intro hpost
    obtain ⟨hsame', hkeys, hadded⟩ := hpost hsame hS
    exact ⟨hsame', hkeys, _, hgrows, hadded⟩
  case vc6 =>
    rename_i hpre _ _ hemit _ _
    obtain ⟨hsame, hS⟩ := hpre
    obtain ⟨hm, hsame'⟩ := hemit.2 hsame
    intro hpost
    obtain ⟨hsame'', hkeys, hadded⟩ := hpost hsame' (by rw [hemit.1, hS])
    exact ⟨hsame'', hkeys, _, grows_addValue (.refl o) hm, hadded⟩
  case vc7 =>
    rename_i hpre _ _
    obtain ⟨hsame, hS⟩ := hpre
    intro hpost
    obtain ⟨hsame', hkeys, hadded⟩ := hpost hsame hS
    exact ⟨hsame', hkeys, _, .refl o, hadded⟩

theorem splitByModule_context (deps : List Dependency) (c : BuildContext) :
    ⦃fun st => ⌜st.context = c⌝⦄ splitByModule deps ⦃⇓? _ st => ⌜st.context = c⌝⦄ := by
  have hres := fun (α : Type) (x : ResolveM α) => BuildM.ofResolve_context c x
  mvcgen [splitByModule, hres]
  invariants
  · ⇓? _ st => ⌜st.context = c⌝

/-- Deriving the search paths keeps the context of the build. -/
theorem searchPaths_context (s : Synthesizer) (unit : Source.SourceUnit) (previous : List String)
    (deps : List Dependency) (c : BuildContext) :
    ⦃fun st => ⌜st.context = c⌝⦄ s.searchPaths unit previous deps
    ⦃⇓? _ st => ⌜st.context = c⌝⦄ := by
  have hlift := fun (α : Type) (x : HostM α) => BuildM.monadLift_context c x
  have hsplit := fun deps => splitByModule_context deps c
  mvcgen [searchPaths, mainOnPaths, hlift, hsplit]

/-- Adding a path option lets the option list grow, and keeps the files. -/
theorem addPathOption_grows (c : Checker) (o : OptionList) (flag : String) (path : List String)
    (h₀ : Host) :
    ⦃fun h => ⌜Host.SameFiles h₀ h⌝⦄ addPathOption c o flag path
    ⦃⇓ o' h => ⌜o.Grows o' ∧ Host.SameFiles h₀ h⌝⦄ := by
  have hemit := fun r => OptionList.emit_spec r h₀
  mvcgen [addPathOption, hemit]
  case vc3 =>
    rintro rfl hsame
    exact ⟨OptionList.addValue_grows _ _ _ _, hsame⟩

/-- Whether the options of the patch of a unit are emitted: for a unit compiled on the module path
that patches a module, unless a test declaration overwrites the main one. -/
def emitsPatch (s : Synthesizer) (overwrite : Bool) (unit : Source.SourceUnit) : Bool :=
  unit.isModular && s.config.useModulePath && unit.patchedModule.isSome && !overwrite

theorem addPaths_shares (s : Synthesizer) (o : OptionList) (unit : Source.SourceUnit)
    (previous : List String) (overwrite : Bool) (patches : List (String × Patch.ModulePatch))
    (st₀ : BuildState) (S : Patch.SharedModules)
    (hjudge : ∀ f ∈ patchFlags, s.checker.judge f 1 = none) :
    ⦃fun st => ⌜st₀.SameInputs st ∧ st.context.shared = S⌝⦄
    s.addPaths o unit previous overwrite patches
    ⦃⇓? r st => ⌜st₀.SameInputs st ∧
      (st.context.shared, r.2.2.map (·.1)) =
        (if s.emitsPatch overwrite unit then
          loadPatch st₀.host unit (S, patches.map (·.1)) else (S, patches.map (·.1))) ∧
      ∃ m, o.Grows m ∧ PatchAdded (s.emitsPatch overwrite unit) st.context.shared m r.1 r.2.1⌝⦄ := by
  have hemit := fun st₁ r => BuildM.monadLift_from st₀ st₁ (OptionList.emit_spec r st₀.host)
  have hsearch := fun st₁ unit previous deps => BuildM.from_keeps st₀
    (searchPaths_context s unit previous deps) (searchPaths_sameInputs st₀ s unit previous deps) st₁
  have hpath := fun st₁ c o flag path =>
    BuildM.monadLift_from st₀ st₁ (addPathOption_grows c o flag path st₀.host)
  have hmodules := fun st₁ o cwd deps earlier => triple_from
    (addModuleOptions_spec s o unit cwd deps earlier overwrite patches st₀ S hjudge) st₁
  mvcgen [addPaths, BuildM.state, hemit, hsearch, hpath, hmodules]
  -- the output directory and the paths keep the context and let the option list grow
  case vc1 =>
    rename_i hpre _ _ o₁ _ st₁ h₁ _ st₂ h₂ o₂ st₃ h₃ o₃ hmod st₄ h₄
    obtain ⟨hsame, hS⟩ := hpre
    obtain ⟨ho₁, hsame₁⟩ := h₁.2 hsame
    obtain ⟨hg₂, hsame₃⟩ := h₃.2 (h₂.2 hsame₁)
    obtain ⟨hg₃, hsame₄⟩ := h₄.2 hsame₃
    have hg₁ : o.Grows o₁ := grows_addValue (.refl o) ho₁
    have hemits : s.emitsPatch overwrite unit = false := by
      simp only [Bool.not_eq_eq_eq_not, Bool.not_true] at hmod
      simp [emitsPatch, hmod]
    have hctx : st₄.context.shared = S := by rw [h₄.1, h₃.1, h₂.1, h₁.1, hS]
    refine ⟨hsame₄, by simp [hctx, hemits], o₃, hg₁.trans (hg₂.trans hg₃), ?_⟩
    simp [PatchAdded, hemits]
  -- on the module path, the module options follow
  case vc2 =>
    rename_i hpre _ _ o₁ _ st₁ h₁ _ st₂ h₂ o₂ st₃ h₃ o₃ hmod st₄ h₄ _ _
    obtain ⟨hsame, hS⟩ := hpre
    obtain ⟨ho₁, hsame₁⟩ := h₁.2 hsame
    obtain ⟨hg₂, hsame₃⟩ := h₃.2 (h₂.2 hsame₁)
    obtain ⟨hg₃, hsame₄⟩ := h₄.2 hsame₃
    have hg₁ : o.Grows o₁ := grows_addValue (.refl o) ho₁
    have hemits : s.emitsPatch overwrite unit = (unit.patchedModule.isSome && !overwrite) := by
      simp only [Bool.not_eq_eq_eq_not, Bool.not_true, Bool.not_eq_false] at hmod
      simp [emitsPatch, hmod]
    intro hpost
    obtain ⟨hsame₅, hkeys, m, hgm, hadded⟩ := hpost hsame₄ (by rw [h₄.1, h₃.1, h₂.1, h₁.1, hS])
    rw [hemits]
    exact ⟨hsame₅, hkeys, m, hg₁.trans (hg₂.trans (hg₃.trans hgm)), hadded⟩

/-- The options of a unit show the patch options it emits: with `emits`, the options of a patch
resolved against the shared modules `shared`, standing together in the options, and their lines for
the test launcher; else no lines. -/
def ShowsPatch (emits : Bool) (shared : Patch.SharedModules) (uo : UnitOptions) : Prop :=
  if emits then ∃ opts : Patch.Options, opts.SharesModules shared ∧
    uo.runtimeLines = opts.runtimeLines ∧ patchSegment opts <:+: uo.options.items
  else uo.runtimeLines = []

/-- Patch options added after an anchored list stay together through the compiler arguments. -/
theorem ShowsPatch.of_added {emits : Bool} {shared : Patch.SharedModules} {m o o' : OptionList}
    {lines : List String} (hm : m.Anchored) (hadded : PatchAdded emits shared m o lines)
    (hargs : ∀ seg, o.Keeps seg → o'.Keeps seg) :
    ShowsPatch emits shared { options := o', runtimeLines := lines } := by
  unfold PatchAdded at hadded
  unfold ShowsPatch
  split
  · rename_i hemits
    rw [if_pos hemits] at hadded
    obtain ⟨opts, hshares, hlines, hitems, hrel⟩ := hadded
    have hprefix : m.items ++ patchSegment opts <+: o.items := ⟨[], by rw [List.append_nil, hitems]⟩
    exact ⟨opts, hshares, hlines, (hargs _ (OptionList.keeps_of_prefix hm hprefix hrel)).isInfix⟩
  · rename_i hemits
    rw [if_neg hemits] at hadded
    exact hadded.2

-- reading the triple of `addPaths` back on a run must not unfold the program itself
attribute [local irreducible] Synthesizer.addPaths in
/-- The options of a unit show the patch options it emits, resolved against the shared modules
after its own patch is loaded; the compiler arguments keep them together. -/
theorem unitOptions_shares (s : Synthesizer) (unit : Source.SourceUnit) (previous : List String)
    (overwrite : Bool) (patches : List (String × Patch.ModulePatch)) (st₀ : BuildState)
    (S : Patch.SharedModules) (hjudge : ∀ f ∈ patchFlags, s.checker.judge f 1 = none) :
    ⦃fun st => ⌜st₀.SameInputs st ∧ st.context.shared = S⌝⦄
    s.unitOptions unit previous overwrite patches
    ⦃⇓? r st => ⌜st₀.SameInputs st ∧
      (st.context.shared, r.2.map (·.1)) =
        (if s.emitsPatch overwrite unit then
          loadPatch st₀.host unit (S, patches.map (·.1)) else (S, patches.map (·.1))) ∧
      ShowsPatch (s.emitsPatch overwrite unit) st.context.shared r.1⌝⦄ := by
  intro st hst
  rw [wp_apply]
  split
  · rename_i r st' hrun
    unfold unitOptions at hrun
    -- the release and the switches change the host alone, and the release stays in the list
    obtain ⟨o₁, _, h₁, hrun⟩ := BuildM.run_bind_eq_ok hrun
    obtain ⟨_, hr₁, rfl⟩ := BuildM.liftM_eq_ok h₁
    obtain ⟨hanchored, hfiles₁⟩ := ok_of_triple (addRelease_spec s unit st₀.host) hst.1.1 hr₁
    obtain ⟨o₂, _, h₂, hrun⟩ := BuildM.run_bind_eq_ok hrun
    obtain ⟨_, hr₂, rfl⟩ := BuildM.liftM_eq_ok h₂
    obtain ⟨hgrows, hfiles₂⟩ := ok_of_triple (addSwitches_spec s o₁ st₀.host) hfiles₁ hr₂
    -- the paths, then the patch options resolved against the shared modules
    obtain ⟨⟨o₃, lines, patches'⟩, _, h₃, hrun⟩ := BuildM.run_bind_eq_ok hrun
    obtain ⟨hsame₃, hkeys, m, hm, hadded⟩ :=
      ok_of_triple (addPaths_shares s o₂ unit previous overwrite patches st₀ S hjudge)
        (by exact ⟨⟨hfiles₂, hst.1.2⟩, hst.2⟩) h₃
    -- the compiler arguments keep them together
    obtain ⟨o₄, _, h₄, hrun⟩ := BuildM.run_bind_eq_ok hrun
    obtain ⟨_, hr₄, rfl⟩ := BuildM.liftM_eq_ok h₄
    have hargs := ok_of_triple (P := fun _ => ⌜True⌝)
      (addArguments_keeps s.checker _ o₃ s.config.compilerArgs) trivial hr₄
    have hfiles₄ := ok_of_triple
      (addArguments_sameFiles st₀.host s.checker _ o₃ s.config.compilerArgs) hsame₃.1 hr₄
    -- the last guard lets the options through unchanged
    dsimp only at hrun
    split at hrun
    · obtain ⟨_, _, h, -⟩ := BuildM.run_bind_eq_ok hrun
      cases h
    · obtain ⟨_, _, hlog, h⟩ := BuildM.run_bind_eq_ok hrun
      obtain ⟨_, hr₅, rfl⟩ := BuildM.liftM_eq_ok hlog
      have hfiles₅ := ok_of_triple (HostM.logDebug_sameFiles st₀.host _) hfiles₄ hr₅
      cases h
      exact ⟨⟨hfiles₅, hsame₃.2⟩, hkeys,
        ShowsPatch.of_added ((hanchored.grows hgrows).grows hm) hadded hargs⟩
  · trivial

/-- One unit's step on the shared modules and the keys of the patches loaded: its patch is loaded
when its patch options are emitted. -/
def loadStep (s : Synthesizer) (overwrite : Bool) (h : Host) (acc : Patch.SharedModules × List String)
    (unit : Source.SourceUnit) : Patch.SharedModules × List String :=
  if s.emitsPatch overwrite unit then loadPatch h unit acc else acc

/-- The shared modules after the patches of the units `units` are loaded in turn, from `S`. -/
def sharedAfter (s : Synthesizer) (overwrite : Bool) (h : Host) (S : Patch.SharedModules)
    (units : List Source.SourceUnit) : Patch.SharedModules :=
  (units.foldl (s.loadStep overwrite h) (S, [])).1

/-- The options of the units of a scope, one per unit, each showing the patch options it emits
resolved against the shared modules after the patches of the units up to it. -/
def ShowsAllPatches (s : Synthesizer) (overwrite : Bool) (h : Host) (S : Patch.SharedModules)
    (units : List Source.SourceUnit) (opts : List UnitOptions) : Prop :=
  opts.length = units.length ∧
    ∀ k (hk : k < units.length) (ho : k < opts.length),
      ShowsPatch (s.emitsPatch overwrite units[k]) (s.sharedAfter overwrite h S (units.take (k + 1)))
        opts[k]

theorem ShowsAllPatches.nil (s : Synthesizer) (overwrite : Bool) (h : Host)
    (S : Patch.SharedModules) : s.ShowsAllPatches overwrite h S [] [] :=
  ⟨rfl, fun _ hk => absurd hk (Nat.not_lt_zero _)⟩

/-- One more unit, whose options show its patch options after the patches of the units before it
and its own. -/
theorem ShowsAllPatches.snoc {s : Synthesizer} {overwrite : Bool} {h : Host}
    {S : Patch.SharedModules} {us : List Source.SourceUnit} {os : List UnitOptions}
    {u : Source.SourceUnit} {o : UnitOptions} (hall : s.ShowsAllPatches overwrite h S us os)
    (ho : ShowsPatch (s.emitsPatch overwrite u) (s.sharedAfter overwrite h S (us ++ [u])) o) :
    s.ShowsAllPatches overwrite h S (us ++ [u]) (os ++ [o]) := by
  obtain ⟨hlen, hprev⟩ := hall
  refine ⟨by simp [hlen], fun k hk hko => ?_⟩
  rcases Nat.lt_or_ge k us.length with hlt | hge
  · have hk' := hprev k hlt (hlen ▸ hlt)
    rwa [List.getElem_append_left hlt, List.getElem_append_left (hlen ▸ hlt),
      List.take_append_of_le_length hlt]
  · -- the new unit is the last one
    obtain rfl : k = us.length := by simp at hk; omega
    have htake : (us ++ [u]).take (us.length + 1) = us ++ [u] := List.take_of_length_le (by simp)
    simpa [hlen, htake] using ho

/-- Deriving the options of the units of a scope loads the patch of each unit whose patch options
are emitted, when the unit comes; the options of each unit show its patch options resolved
against the shared modules at that point. -/
theorem setOptions_shares (s : Synthesizer) (sources : Source.SourceSet) (st₀ : BuildState)
    (S : Patch.SharedModules) (hjudge : ∀ f ∈ patchFlags, s.checker.judge f 1 = none) :
    ⦃fun st => ⌜st₀.SameInputs st ∧ st.context.shared = S⌝⦄ s.setOptions sources
    ⦃⇓? opts st => ⌜st₀.SameInputs st ∧
      st.context.shared = s.sharedAfter sources.overwrite.isSome st₀.host S sources.units ∧
      s.ShowsAllPatches sources.overwrite.isSome st₀.host S sources.units opts⌝⦄ := by
  have hunit := fun st₁ unit previous overwrite patches => triple_from
    (unitOptions_shares s unit previous overwrite patches st₀ st₁.context.shared hjudge) st₁
  mvcgen [setOptions, hunit]
  -- the shared modules and the keys loaded are those after the units done
  invariants
  · ⇓? p st => ⌜st₀.SameInputs st ∧
      (st.context.shared, p.2.2.2.map (·.1)) =
        ( List.Cursor.prefix p.1).foldl (s.loadStep sources.overwrite.isSome st₀.host) (S, []) ∧
      s.ShowsAllPatches sources.overwrite.isSome st₀.host S ( List.Cursor.prefix p.1) p.2.1⌝
  -- one unit: its patch is loaded when its patch options are emitted, and they are resolved
  -- against the shared modules after it
  case vc1 =>
    rename_i pref cur suff _ b _ _ _ _ st₁ hinv r _ _ _ st₂ hdone
    obtain ⟨hsame, hacc, hall⟩ := hinv
    obtain ⟨hsame₂, hkeys, hshows⟩ := hdone hsame
    have hstep : (st₂.context.shared, r.2.map (·.1)) =
        (pref ++ [cur]).foldl (s.loadStep sources.overwrite.isSome st₀.host) (S, []) := by
      rw [List.foldl_append, ← hacc, hkeys]
      rfl
    refine ⟨hsame₂, hstep, hall.snoc ?_⟩
    rw [sharedAfter, ← hstep]
    exact hshows
  case vc3 =>
    rename_i hpre
    exact ⟨hpre.1, Prod.ext hpre.2 rfl, ShowsAllPatches.nil _ _ _ _⟩
  case vc4 =>
    rename_i hinv
    obtain ⟨hsame, hacc, hall⟩ := hinv
    exact ⟨hsame, congrArg Prod.fst hacc, hall⟩

end Synthesizer

/-! ## The shared modules of a scope -/

/-- Both compilers take one value after each flag of the patch options. -/
theorem Javac.arity_patch_flags : ∀ f ∈ Synthesizer.patchFlags, Javac.arity f = 1 := by
  decide

theorem Backend.judge_patch_flags (b : Backend) :
    ∀ f ∈ Synthesizer.patchFlags, b.checker.judge f 1 = none := by
  intro f hf
  have harity := Javac.arity_patch_flags f hf
  cases b <;> simp [Backend.checker, Backend.arity, Checker.judge, Javac.lenientArity, harity]

namespace Executor

/-- The modules that the patches of a scope share, as each unit's options see them.

Whenever the options of the units are derived, there is one per unit, and the build shares
afterwards the modules of the patches that the units loaded, in turn (`sharedAfter`). A unit whose
patch options are emitted (a unit on the module path that patches a module, unless a test
declaration overwrites the main one) has among its options the options of a patch resolved
against the modules shared after the units up to it, its own included, together, and the lines
of that patch for the test launcher: every stage adds and limits those modules. The patches of
the units after it are not seen. -/
theorem synthesize_shares_modules_of_loaded_patches (e : Executor) (sources : Source.SourceSet)
    {st st' : BuildState} {opts : List UnitOptions}
    (hrun : (e.synthesize sources).run.run st = (.ok opts, st')) :
    opts.length = sources.units.length ∧
      st'.context.shared = e.synthesizer.sharedAfter sources.overwrite.isSome st.host
        st.context.shared sources.units ∧
      ∀ k (hk : k < sources.units.length) (ho : k < opts.length),
        Synthesizer.ShowsPatch (e.synthesizer.emitsPatch sources.overwrite.isSome sources.units[k])
          (e.synthesizer.sharedAfter sources.overwrite.isSome st.host st.context.shared
            (sources.units.take (k + 1))) opts[k] := by
  rw [synthesize_eq] at hrun
  obtain ⟨-, hshared, hlen, hall⟩ := ok_of_triple
    (Synthesizer.setOptions_shares e.synthesizer sources st st.context.shared
      (Backend.judge_patch_flags e.backend)) ⟨⟨⟨rfl, rfl⟩, rfl⟩, rfl⟩ hrun
  exact ⟨hlen, hshared, hall⟩

/-- The patch of a module `m` that adds the module `java.sql`. -/
def sqlPatchBytes : ByteArray :=
  ⟨#[112, 97, 116, 99, 104, 45, 109, 111, 100, 117, 108, 101, 32, 109, 32, 123, 32, 97, 100, 100,
    45, 109, 111, 100, 117, 108, 101, 115, 32, 106, 97, 118, 97, 46, 115, 113, 108, 59, 32, 125,
    10]⟩

/-- The patch of a module `m` that adds the module `java.xml`. -/
def xmlPatchBytes : ByteArray :=
  ⟨#[112, 97, 116, 99, 104, 45, 109, 111, 100, 117, 108, 101, 32, 109, 32, 123, 32, 97, 100, 100,
    45, 109, 111, 100, 117, 108, 101, 115, 32, 106, 97, 118, 97, 46, 120, 109, 108, 59, 32, 125,
    10]⟩

/-- A build in `/p` whose test roots `/p/t17` and `/p/t21` hold a patch file each. -/
def twoPatchBuild : BuildState :=
  { host := { disk := ⟨[("/p", .dir), ("/p/t17", .dir),
      ("/p/t17/module-info-patch.maven", .file sqlPatchBytes 0 false), ("/p/t21", .dir),
      ("/p/t21/module-info-patch.maven", .file xmlPatchBytes 0 false)]⟩, cwd := "/p", clock := 0 } }

/-- The test unit of release 17 that patches the module `m`, from the root `/p/t17`. -/
def patchUnit17 : Source.SourceUnit :=
  { release := .number 17, files := ["/p/t17/p/ATest.java"],
    roots := [{ root := "/p/t17", scope := .test }], output := "/p/out", patchedModule := some "m" }

/-- The test unit of release 21 that patches the module `m`, from the root `/p/t21`. -/
def patchUnit21 : Source.SourceUnit :=
  { release := .number 21, files := ["/p/t21/p/BTest.java"],
    roots := [{ root := "/p/t21", scope := .test }], output := "/p/out/21", patchedModule := some "m" }

/-- The tests of the unit of release 17 alone: it loads its patch, and its options add the module
of that patch. -/
theorem synthesize_shares_modules_of_one_patch :
    ∃ opts st', (({ config := {}, scope := .test, backend := .stub {} } : Executor).synthesize
        { scope := .test, units := [patchUnit17] }).run.run twoPatchBuild = (.ok opts, st') ∧
      opts.map (·.runtimeLines) = [["--add-modules java.sql"]] ∧
      st'.context.shared = ({ config := {}, scope := .test, backend := .stub {} } : Executor).synthesizer.sharedAfter
        false twoPatchBuild.host twoPatchBuild.context.shared [patchUnit17] := by
  have hlines : ((({ config := {}, scope := .test, backend := .stub {} } : Executor).synthesize
      { scope := .test, units := [patchUnit17] }).run.run twoPatchBuild).1.toOption.map
      (·.map (·.runtimeLines)) = some [["--add-modules java.sql"]] := by
    decide +kernel
  obtain ⟨opts, hopts, hlines⟩ := Option.map_eq_some_iff.mp hlines
  have hrun := run_eq_ok_of_toOption hopts
  exact ⟨opts, _, hrun, hlines, (synthesize_shares_modules_of_loaded_patches _ _ hrun).2.1⟩

/-- The tests of the units of releases 17 and 21, each with a patch file of its own: the first
unit's options add the module of its own patch only, the second's the modules of both. -/
theorem synthesize_misses_later_patch_modules :
    ((({ config := {}, scope := .test, backend := .stub {} } : Executor).synthesize
        { scope := .test, units := [patchUnit17, patchUnit21] }).run.run twoPatchBuild).1.toOption.map
        (·.map (·.runtimeLines)) =
      some [["--add-modules java.sql"], ["--add-modules java.sql,java.xml"]] := by
  decide +kernel

/-! ## The order of the project modules -/

/-- The patch of a module `org.a` that exports its package `p` to the other modules of the
project. -/
def subprojectPatchBytes : ByteArray :=
  ⟨#[112, 97, 116, 99, 104, 45, 109, 111, 100, 117, 108, 101, 32, 111, 114, 103, 46, 97, 32, 123,
    32, 97, 100, 100, 45, 101, 120, 112, 111, 114, 116, 115, 32, 112, 32, 116, 111, 32, 83, 85, 66,
    80, 82, 79, 74, 69, 67, 84, 45, 77, 79, 68, 85, 76, 69, 83, 59, 32, 125, 10]⟩

/-- A build in `/p` of a project of the modules `org.a`, `org.b` and `org.c`, whose test root
`/p/t` holds a patch file. -/
def threeModuleBuild : BuildState :=
  { host :=
      { disk := ⟨[("/p", .dir), ("/p/t", .dir),
          ("/p/t/module-info-patch.maven", .file subprojectPatchBytes 0 false)]⟩
        cwd := "/p", clock := 0 }
    context :=
      { projectModules := [("org.a", ["/p/a"]), ("org.b", ["/p/b"]), ("org.c", ["/p/c"])] } }

/-- The test unit that patches the module `org.a`, from the root `/p/t`. -/
def subprojectUnit : Source.SourceUnit :=
  { release := .number 17, files := ["/p/t/p/ATest.java"],
    roots := [{ root := "/p/t", scope := .test }], output := "/p/out", patchedModule := some "org.a" }

end Executor

end JavaBuild
