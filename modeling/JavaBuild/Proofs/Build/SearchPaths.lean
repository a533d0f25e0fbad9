import Mathlib
import JavaBuild.Proofs.Build.Inputs
import JavaBuild.Proofs.Options

/-!
# The search paths of a unit

`Synthesizer.addPaths` gives a unit its output directory and its search paths: the outputs of the
units of lower releases, the highest first, then, for the tests, the main classes when they exist,
then the dependencies of the stage in resolution order. A unit compiled on the module path puts
the dependencies in named modules on the module path after those outputs, and the others on the
class path; any other unit has one class path of all (`pathOptions`).

Each path is added as one option whose value is the paths joined by `:`, trimmed of blanks, and
left out when nothing is left (`valueOption`): a path that ends in a blank reaches the compiler
without it (`Executor.synthesize_trims_dependency_path`).

The options that the synthesis adds before the paths only grow the list (`OptionList.Grows`), and
the compiler arguments after them only append or replace the release value, which stays outside
the paths (`OptionList.Keeps`). So the options of every unit of a scope hold its paths, derived
from the files and the dependencies as they were when the synthesis started, and from the outputs
of the units before it (`Synthesizer.setOptions_search_paths`). An incremental build of a unit
that is not a module puts the unit's own output first on the first class path of its options
(`withClassPathEntry_append`, `withClassPathEntry_flag`), which is its own as long as no argument
before it is spelled like a class-path flag (`Executor.synthesize_orders_search_paths`).
-/

set_option mvcgen.warning false

namespace JavaBuild

open Std.Do

/-- An option with one value as the synthesizer adds it: the value trimmed of blanks, nothing
when it is blank. -/
def valueOption (flag value : String) : List String :=
  (trimmedValue (some value)).elim [] fun v => [flag, v]

@[simp] theorem valueOption_empty (flag : String) : valueOption flag "" = [] := rfl

namespace OptionList

/-! ## Option lists that grow, and the places of the release -/

/-- `o'` holds the options of `o` and more after them, with the release where `o` has it. -/
def Grows (o o' : OptionList) : Prop := o.items <+: o'.items ∧ o'.releaseAt = o.releaseAt

theorem Grows.refl (o : OptionList) : o.Grows o := ⟨List.prefix_refl _, rfl⟩

theorem Grows.trans {a b c : OptionList} (h₁ : a.Grows b) (h₂ : b.Grows c) : a.Grows c :=
  ⟨h₁.1.trans h₂.1, h₂.2.trans h₁.2⟩

variable (c : Checker) (o : OptionList) (option : String)

theorem grows_offered (g : String × Option String) : o.Grows (o.offered c g) := by
  unfold offered
  split
  · exact ⟨by simp [append], rfl⟩
  · exact Grows.refl o

theorem addValue_grows (v : Option String) : o.Grows (o.addValue c option v).list := by
  rw [addValue_list]
  split
  · exact grows_offered c o _
  · exact Grows.refl o

theorem addFlag_grows (v : Bool) : o.Grows (o.addFlag c option v).list := by
  rw [addFlag_list]
  split
  · exact grows_offered c o _
  · exact Grows.refl o

theorem addMemoryValue_grows (label : String) (v : Option String) (defaultUnit : Bool) :
    o.Grows (o.addMemoryValue c option label v defaultUnit).list := by
  rw [addMemoryValue_list]
  split
  · exact grows_offered c o _
  · exact Grows.refl o

theorem addCommaSeparated_grows {values : Option String} {valids : Option (List String)}
    {rewrite : Rewrite} {r : Appended}
    (h : o.addCommaSeparated c option values valids rewrite = .ok r) : o.Grows r.list := by
  have hlist := addCommaSeparated_list c o option values valids rewrite
  rw [h] at hlist
  dsimp only at hlist
  rw [hlist]
  split
  · exact grows_offered c o _
  · exact Grows.refl o

/-- A flag whose one value the checker takes is added with the value trimmed, or not at all when
the value is blank. -/
theorem addValue_items {c : Checker} {f : String} (hf : c.judge f 1 = none) (o : OptionList)
    (v : String) : (o.addValue c f (some v)).list.items = o.items ++ valueOption f v := by
  rw [addValue_list]
  unfold valueOption
  cases trimmedValue (some v) with
  | none => simp
  | some t => simp [offered, hf, append, groupArgs]

/-- The release of an option list, if any, is at one of its places. -/
def Anchored (o : OptionList) : Prop := ∀ i, o.releaseAt = some i → i < o.items.length

theorem anchored_empty : ({} : OptionList).Anchored := fun _ h => nomatch h

theorem Anchored.grows {o o' : OptionList} (h : o.Anchored) (hg : o.Grows o') : o'.Anchored :=
  fun i hi => lt_of_lt_of_le (h i (hg.2 ▸ hi)) hg.1.length_le

/-- Setting the release keeps it at one of the places of the list: a new release is the value
just appended, a replaced one stays where it was, and a removed one leaves none. -/
theorem setRelease_anchored {o : OptionList} (h : o.Anchored) (v : Option String) :
    (o.setRelease c v).list.Anchored := by
  unfold setRelease
  split
  · unfold addValue
    split
    · exact h
    · split <;> simp_all [Anchored, append]
  · rename_i i hi
    split
    · intro j hj
      simpa using h j (by simpa [hi] using hj)
    · intro j hj
      simp at hj

/-- The arguments `seg` stand together in the options, and the release, if any, is outside them. -/
def Keeps (seg : List String) (o : OptionList) : Prop :=
  ∃ pre post, o.items = pre ++ seg ++ post ∧
    ∀ i, o.releaseAt = some i → i < pre.length ∨ pre.length + seg.length < i

variable {seg : List String} {o}

theorem Keeps.isInfix (h : o.Keeps seg) : seg <:+: o.items := by
  obtain ⟨pre, post, hitems, -⟩ := h
  exact ⟨pre, post, hitems.symm⟩

/-- Arguments added after the options of a list whose release is at one of its places stand
after it, the release outside them. -/
theorem keeps_of_prefix {o o' : OptionList} (h : o.Anchored) (hp : o.items ++ seg <+: o'.items)
    (hr : o'.releaseAt = o.releaseAt) : o'.Keeps seg := by
  obtain ⟨post, hpost⟩ := hp
  exact ⟨o.items, post, hpost.symm, fun i hi => .inl (h i (hr ▸ hi))⟩

theorem Keeps.append (h : o.Keeps seg) (args : List String) : (o.append args).Keeps seg := by
  obtain ⟨pre, post, hitems, hrel⟩ := h
  exact ⟨pre, post ++ args, by simp [OptionList.append, hitems], hrel⟩

theorem Keeps.addUnchecked (h : o.Keeps seg) (args : List String) :
    (o.addUnchecked args).Keeps seg :=
  h.append _

/-- Setting the release keeps the arguments that stand outside it: a new release is appended
after them, and a replaced or removed one is before or after them. -/
theorem Keeps.setRelease (h : o.Keeps seg) (v : Option String) :
    (o.setRelease c v).list.Keeps seg := by
  obtain ⟨pre, post, hitems, hrel⟩ := h
  unfold OptionList.setRelease
  split
  -- no release yet: a new one goes to the end
  · rename_i hnone
    unfold addValue
    split
    · exact ⟨pre, post, hitems, hrel⟩
    · rename_i t _
      split
      · refine ⟨pre, post ++ ["--release", t], by simp [OptionList.append, hitems],
          fun i hi => .inr ?_⟩
        simp [OptionList.append, hitems] at hi
        omega
      · exact ⟨pre, post, hitems, hrel⟩
  -- the release at `i`, before or after the arguments
  · rename_i i hi
    rcases hrel i hi with hlt | hgt
    · split
      · rename_i t _
        refine ⟨pre.set i t, post, ?_, fun j hj => .inl ?_⟩
        · simp [hitems, hlt]
        · obtain rfl : i = j := Option.some.inj (hi ▸ hj)
          simpa using hlt
      · refine ⟨pre.take (i - 1) ++ pre.drop (i + 1), post, ?_, fun j hj => nomatch hj⟩
        simp only [hitems, List.append_assoc]
        rw [List.take_append_of_le_length (by omega), List.drop_append_of_le_length (by omega)]
    · split
      · rename_i t _
        refine ⟨pre, post.set (i - (pre.length + seg.length)) t, ?_, fun j hj => .inr ?_⟩
        · simp [hitems, List.set_append, show ¬i < pre.length by omega,
            show ¬i - pre.length < seg.length by omega, Nat.sub_sub]
        · obtain rfl : i = j := Option.some.inj (hi ▸ hj)
          simpa using hgt
      · refine ⟨pre, post.take (i - 1 - (pre.length + seg.length)) ++
          post.drop (i + 1 - (pre.length + seg.length)), ?_, fun j hj => nomatch hj⟩
        have h₁ : seg.length ≤ i - (1 + pre.length) := by omega
        have h₂ : seg.length ≤ i + 1 - pre.length := by omega
        simp only [hitems, List.take_append, List.drop_append, List.length_append]
        simp [List.take_of_length_le (show pre.length ≤ i - 1 by omega), List.take_of_length_le h₁,
          List.drop_eq_nil_of_le (show pre.length ≤ i + 1 by omega), List.drop_eq_nil_of_le h₂,
          Nat.sub_sub]

/-! ## Emitting an addition -/

theorem emit_spec (r : Appended) (h₀ : Host) :
    ⦃fun h => ⌜Host.SameFiles h₀ h⌝⦄ emit r ⦃⇓ o h => ⌜o = r.list ∧ Host.SameFiles h₀ h⌝⦄ := by
  mvcgen [emit]
  invariants
  · ⇓ _ h => ⌜Host.SameFiles h₀ h⌝
  all_goals simp_all [Host.SameFiles]

theorem emit_value (r : Appended) : ⦃⌜True⌝⦄ emit r ⦃⇓ o => ⌜o = r.list⌝⦄ := by
  mvcgen [emit]
  invariants
  · ⇓ _ => ⌜True⌝

/-- A property of option lists that an addition keeps holds after it is emitted. -/
theorem emit_keeps {P : OptionList → Prop} {o : OptionList} {r : Appended}
    (h : P o → P r.list) : ⦃⌜P o⌝⦄ emit r ⦃⇓ o' => ⌜P o'⌝⦄ := by
  have hvalue := emit_value
  mvcgen [hvalue]
  rintro _ rfl
  exact h ‹_›

/-- The same for an addition that can fail. -/
theorem emitChecked_keeps {P : OptionList → Prop} {c : Checker} {o : OptionList}
    {option : String} {values : Option String} {valids : Option (List String)}
    {rewrite : Rewrite}
    (h : P o → ∀ r, o.addCommaSeparated c option values valids rewrite = .ok r → P r.list) :
    ⦃⌜P o⌝⦄ emitChecked (o.addCommaSeparated c option values valids rewrite)
    ⦃⇓? o' => ⌜P o'⌝⦄ := by
  have hvalue := emit_value
  mvcgen [emitChecked, hvalue]
  rintro _ rfl
  exact h ‹_› _ ‹_›

theorem emit_grows {o : OptionList} {r : Appended} (h : o.Grows r.list) :
    ⦃⌜True⌝⦄ emit r ⦃⇓ o' => ⌜o.Grows o'⌝⦄ := by
  have hvalue := emit_value
  mvcgen [hvalue]
  rintro _ rfl
  exact h

end OptionList

namespace HostM

/-- Whether a path exists, as the files of `h₀` show it, on a host that shows them. -/
theorem pathExists_eq (p : String) (h₀ : Host) :
    ⦃fun h => ⌜Host.SameFiles h₀ h⌝⦄ pathExists p
    ⦃⇓ b h => ⌜b = (nameable p && h₀.disk.exists? (Path.absolute h₀.cwd p)) ∧
      Host.SameFiles h₀ h⌝⦄ := by
  mvcgen [pathExists]
  simp_all [Host.SameFiles]

end HostM

section Runs

variable {ε σ α : Type} {x : ExceptT ε (StateM σ) α}

/-- Two triples of one computation hold together from the states where both preconditions do:
it has one run. -/
theorem triple_and {R P P' : σ → Prop} {Q Q' : α → σ → Prop}
    (h : ⦃fun s => ⌜P s⌝⦄ x ⦃⇓? a s => ⌜Q a s⌝⦄) (h' : ⦃fun s => ⌜P' s⌝⦄ x ⦃⇓? a s => ⌜Q' a s⌝⦄)
    (hP : ∀ s, R s → P s) (hP' : ∀ s, R s → P' s) :
    ⦃fun s => ⌜R s⌝⦄ x ⦃⇓? a s => ⌜Q a s ∧ Q' a s⌝⦄ := by
  intro s hs
  have hwp := h s (hP s hs)
  have hwp' := h' s (hP' s hs)
  rw [wp_apply] at hwp hwp' ⊢
  generalize x.run.run s = r at hwp hwp' ⊢
  obtain ⟨_ | _, s'⟩ := r
  · trivial
  · exact ⟨hwp, hwp'⟩

end Runs

namespace BuildM

variable {α : Type}

/-- What a computation on the dependencies returns, run within a build. -/
theorem ofResolve_value_spec {x : ResolveM α} {Q : α → Prop}
    (hx : ⦃fun _ _ => ⌜True⌝⦄ x ⦃⇓? a _ _ => ⌜Q a⌝⦄) :
    ⦃fun _ => ⌜True⌝⦄ ofResolve x ⦃⇓? a _ => ⌜Q a⌝⦄ := by
  intro s _
  have hwp := hx (s.dependencies.getD {}) s.host trivial
  rw [ResolveM.wp_apply] at hwp
  rw [wp_apply]
  simp only [ofResolve, ExceptT.run_mk, Id.run, StateT.run] at hwp ⊢
  generalize ExceptT.run (x (s.dependencies.getD {})) s.host = r at hwp ⊢
  obtain ⟨_ | ⟨a, r'⟩, h'⟩ := r
  · trivial
  · exact hwp

/-- A computation on the host that keeps its files, with what it returns, run within a build. -/
theorem monadLift_value_sameInputs (st₀ : BuildState) {x : HostM α} {Q : α → Prop}
    (hx : ⦃fun h => ⌜Host.SameFiles st₀.host h⌝⦄ x
      ⦃⇓? a h => ⌜Q a ∧ Host.SameFiles st₀.host h⌝⦄) :
    ⦃fun st => ⌜st₀.SameInputs st⌝⦄ (MonadLift.monadLift x : BuildM α)
    ⦃⇓? a st => ⌜Q a ∧ st₀.SameInputs st⌝⦄ := by
  intro st hst
  have hwp := hx st.host hst.1
  rw [wp_apply] at hwp ⊢
  simp only [MonadLift.monadLift, ofHost, ExceptT.run_mk, Id.run, StateT.run] at hwp ⊢
  generalize ExceptT.run x st.host = r at hwp ⊢
  obtain ⟨_ | _, h'⟩ := r
  · trivial
  · exact ⟨hwp.1, hwp.2, hst.2⟩

end BuildM

namespace Dependency

/-- Whether the resolver gives the module of a dependency: its name or its descriptor. -/
def moduleGiven (d : Dependency) : Bool := d.moduleName.isSome || d.descriptor.isSome

end Dependency

namespace Resolution

theorem descriptor_given (d : Dependency) :
    ⦃fun _ _ => ⌜True⌝⦄ descriptor d ⦃⇓? x _ _ => ⌜d.descriptor.isSome → x.isSome⌝⦄ := by
  have hdesc := fun p => triple_true (Module.describeArtifact p)
  mvcgen [descriptor, hdesc]
  all_goals simp_all [Option.isSome_iff_exists]

/-- A dependency whose module the resolver gives is in a named module. -/
theorem moduleName_given (d : Dependency) :
    ⦃fun _ _ => ⌜True⌝⦄ moduleName d ⦃⇓? n _ _ => ⌜d.moduleGiven → n.isSome⌝⦄ := by
  have hdesc := descriptor_given
  mvcgen [moduleName, hdesc]
  all_goals simp_all [Dependency.moduleGiven, Option.isSome_iff_exists]

end Resolution

namespace Synthesizer

/-! ## The paths of one unit -/

/-- The main classes on the paths of a unit, as the files of `h` show them: for the tests, when
they exist. -/
def mainPathOn (s : Synthesizer) (h : Host) : Option String :=
  if s.scope = .test then
    s.mainOutput.filter fun m => HostM.nameable m && h.disk.exists? (Path.absolute h.cwd m)
  else none

theorem mainPathOn_eq (s : Synthesizer) {h₀ h : Host} (hs : Host.SameFiles h₀ h) :
    s.mainPathOn h = s.mainPathOn h₀ := by
  simp [mainPathOn, hs.1, hs.2]

theorem mainOnPaths_spec (s : Synthesizer) (h₀ : Host) :
    ⦃fun st => ⌜Host.SameFiles h₀ st.host⌝⦄ s.mainOnPaths
    ⦃⇓ m st => ⌜m = s.mainPathOn h₀ ∧ Host.SameFiles h₀ st.host⌝⦄ := by
  have hexists := fun p => BuildM.monadLift_post_spec (HostM.pathExists_eq p h₀)
  unfold mainOnPaths
  split
  · mvcgen [hexists]
    all_goals simp_all [mainPathOn, Option.filter]
  · rename_i hnot
    mvcgen
    rename_i hsame
    refine ⟨?_, hsame⟩
    unfold mainPathOn
    split
    · rename_i hscope
      cases hm : s.mainOutput with
      | none => rfl
      | some m => exact (hnot m hscope hm).elim
    · rfl

/-- Marks of the dependencies, one each, set at least for those whose module is given: those
that a unit compiled on the module path puts there. -/
def Marks (deps : List Dependency) (named : List Bool) : Prop :=
  named.length = deps.length ∧ ∀ p ∈ deps.zip named, p.1.moduleGiven → p.2 = true

/-- The paths of the dependencies that `named` marks, in order. -/
def namedPaths (deps : List Dependency) (named : List Bool) : List String :=
  ((deps.zip named).filter (·.2)).map (·.1.path)

/-- The paths of the dependencies that `named` does not mark, in order. -/
def unnamedPaths (deps : List Dependency) (named : List Bool) : List String :=
  ((deps.zip named).filter (!·.2)).map (·.1.path)

/-- One more dependency, marked by `b`: the marks stay marks, and its path goes to the named or
the unnamed ones. -/
theorem Marks.snoc {pref : List Dependency} {bits : List Bool} (h : Marks pref bits)
    (d : Dependency) (b : Bool) (hb : d.moduleGiven → b = true) :
    Marks (pref ++ [d]) (bits ++ [b]) ∧
      namedPaths (pref ++ [d]) (bits ++ [b]) = namedPaths pref bits ++ (if b then [d.path] else []) ∧
      unnamedPaths (pref ++ [d]) (bits ++ [b]) =
        unnamedPaths pref bits ++ (if b then [] else [d.path]) := by
  obtain ⟨hlen, hgiven⟩ := h
  have hzip : (pref ++ [d]).zip (bits ++ [b]) = pref.zip bits ++ [(d, b)] :=
    List.zip_append hlen.symm
  refine ⟨⟨by simp [hlen], fun p hp => ?_⟩, ?_, ?_⟩
  · rw [hzip, List.mem_append, List.mem_singleton] at hp
    rcases hp with hp | rfl
    · exact hgiven p hp
    · exact hb
  · cases b <;> simp [namedPaths, hzip]
  · cases b <;> simp [unnamedPaths, hzip]

theorem splitByModule_spec (deps : List Dependency) :
    ⦃fun _ => ⌜True⌝⦄ splitByModule deps
    ⦃⇓? r _ => ⌜∃ named, Marks deps named ∧ r = (namedPaths deps named, unnamedPaths deps named)⌝⦄ := by
  have hname := fun d => BuildM.ofResolve_value_spec (Resolution.moduleName_given d)
  mvcgen [splitByModule, hname]
  invariants
  · ⇓? p _ => ⌜∃ named, Marks ( List.Cursor.prefix p.1) named ∧
      p.2 = (namedPaths ( List.Cursor.prefix p.1) named, unnamedPaths ( List.Cursor.prefix p.1) named)⌝
  -- a dependency in a named module goes to the named ones
  case vc1 =>
    obtain ⟨bits, hmarks, rfl⟩ := ‹∃ named, _›
    obtain ⟨h₁, h₂, h₃⟩ := hmarks.snoc _ true fun _ => rfl
    exact ⟨_, h₁, by simp +zetaDelta [h₂, h₃]⟩
  -- any other goes to the unnamed ones, and its module is not given
  case vc2 =>
    obtain ⟨bits, hmarks, rfl⟩ := ‹∃ named, _›
    obtain ⟨h₁, h₂, h₃⟩ := hmarks.snoc _ false
      (fun hg => absurd (‹Dependency.moduleGiven _ = true → Option.isSome _ = true› hg)
        ‹¬Option.isSome _ = true›)
    exact ⟨_, h₁, by simp +zetaDelta [h₂, h₃]⟩
  case vc4 => exact ⟨[], ⟨rfl, by simp⟩, rfl⟩

theorem addPatchOptions_grows (s : Synthesizer) (o : OptionList) (unit : Source.SourceUnit)
    (dependencies : Option Resolution) (overwrite : Bool) (patches : List (String × Patch.ModulePatch)) :
    ⦃fun _ => ⌜True⌝⦄ s.addPatchOptions o unit dependencies overwrite patches
    ⦃⇓? r _ => ⌜o.Grows r.1⌝⦄ := by
  have hemit := fun r => BuildM.monadLift_post_spec (P := fun _ => True) (OptionList.emit_value r)
  have hres := fun (α : Type) (x : ResolveM α) => triple_true (BuildM.ofResolve x)
  have hpatch := fun u ps => triple_true (patchFor u ps)
  mvcgen [addPatchOptions, BuildM.context, BuildM.state, hemit, hres, hpatch]
  invariants
  · ⇓? p _ => ⌜o.Grows p.2⌝
  case vc2 =>
    obtain rfl := ‹_ = (OptionList.addValue _ _ _ _).list›
    exact ‹o.Grows _›.trans (OptionList.addValue_grows _ _ _ _)

theorem addModuleOptions_grows (s : Synthesizer) (o : OptionList) (unit : Source.SourceUnit)
    (cwd : String) (dependencies : Option Resolution) (earlier : List String) (overwrite : Bool)
    (patches : List (String × Patch.ModulePatch)) :
    ⦃fun _ => ⌜True⌝⦄ s.addModuleOptions o unit cwd dependencies earlier overwrite patches
    ⦃⇓? r _ => ⌜o.Grows r.1⌝⦄ := by
  have hemit := fun c o f v => BuildM.monadLift_post_spec (P := fun _ => True)
    (OptionList.emit_grows (OptionList.addValue_grows c o f v))
  have hpatches := addPatchOptions_grows s
  mvcgen [addModuleOptions, hemit, hpatches]
  invariants
  · ⇓? p _ => ⌜o.Grows p.2⌝
  all_goals grind [OptionList.Grows.trans]

theorem addPathOption_spec {c : Checker} {flag : String} (hf : c.judge flag 1 = none)
    (o : OptionList) (path : List String) :
    ⦃⌜True⌝⦄ addPathOption c o flag path
    ⦃⇓ o' => ⌜o'.items = o.items ++ valueOption flag (":".intercalate path) ∧
      o'.releaseAt = o.releaseAt⌝⦄ := by
  unfold addPathOption
  split
  · rename_i hnil
    rw [List.isEmpty_iff.mp hnil]
    mvcgen
    simp
  · have hvalue := OptionList.emit_value
    mvcgen [hvalue]
    rintro _ rfl
    exact ⟨OptionList.addValue_items hf _ _, (OptionList.addValue_grows _ _ _ _).2⟩

theorem searchPaths_spec (s : Synthesizer) (unit : Source.SourceUnit) (previous : List String)
    (deps : List Dependency) (h₀ : Host) :
    ⦃fun st => ⌜Host.SameFiles h₀ st.host⌝⦄ s.searchPaths unit previous deps
    ⦃⇓? r _ => ⌜∃ named, Marks deps named ∧
      r = if unit.isModular && s.config.useModulePath then
          (previous.reverse ++ (s.mainPathOn h₀).toList ++ namedPaths deps named,
            unnamedPaths deps named)
        else ([], previous.reverse ++ (s.mainPathOn h₀).toList ++ deps.map (·.path))⌝⦄ := by
  have hdep := fun line =>
    triple_true (MonadLift.monadLift (HostM.logDeprecation line) : BuildM Unit)
  have hsplit := splitByModule_spec
  mvcgen [searchPaths, mainOnPaths_spec, hdep, hsplit]
  -- on the module path: the dependencies as the split marks them
  case vc2 | vc4 =>
    obtain ⟨named, hmarks, rfl⟩ := ‹∃ named, _›
    obtain ⟨rfl, -⟩ := ‹_ = s.mainPathOn _ ∧ _›
    refine ⟨named, hmarks, ?_⟩
    rw [if_pos ‹_›, mainPathOn_eq s ‹Host.SameFiles h₀ _›]
  -- on the class path: no dependency needs a mark
  case vc3 | vc5 =>
    obtain ⟨rfl, -⟩ := ‹_ = s.mainPathOn _ ∧ _›
    refine ⟨List.replicate deps.length true, ⟨by simp, fun p hp _ => ?_⟩, ?_⟩
    · exact List.eq_of_mem_replicate (List.of_mem_zip hp).2
    · rw [if_neg ‹_›, mainPathOn_eq s ‹Host.SameFiles h₀ _›]

end Synthesizer

/-- The options that give the paths of a unit after its output directory, `lead` first. A unit
compiled on the module path has the module path of `lead` and of the dependencies that `named`
marks, then the class path of the others; any other unit has one class path of all. -/
def pathOptions (modular : Bool) (lead : List String) (deps : List Dependency)
    (named : List Bool) : List String :=
  if modular then
    valueOption "--module-path" (":".intercalate (lead ++ Synthesizer.namedPaths deps named)) ++
      valueOption "--class-path" (":".intercalate (Synthesizer.unnamedPaths deps named))
  else valueOption "--class-path" (":".intercalate (lead ++ deps.map (·.path)))

namespace Synthesizer

/-- The output directory and the paths of a unit, as the synthesis derives them from the inputs
`st₀`, after the outputs `previous` of the units of lower releases (ascending): those outputs,
the highest first, then the main classes, then the dependencies of the stage, with `named`
marking those on the module path. -/
def pathsOf (s : Synthesizer) (st₀ : BuildState) (unit : Source.SourceUnit)
    (previous : List String) (named : List Bool) : List String :=
  valueOption "-d" unit.output ++
    pathOptions (unit.isModular && s.config.useModulePath)
      (previous.reverse ++ (s.mainPathOn st₀.host).toList) (st₀.stageDependencies s.scope) named

/-- The output directory and the two path options, added one after the other, are the output
directory and the path options of the unit. -/
theorem paths_items {c : Checker} (hd : c.judge "-d" 1 = none) {o o₁ o₂ o₃ : OptionList}
    {out : String} {modular : Bool} {lead : List String} {deps : List Dependency}
    {named : List Bool} {r : List String × List String}
    (h₁ : o₁ = (o.addValue c "-d" (some out)).list)
    (hr : r = if modular then (lead ++ namedPaths deps named, unnamedPaths deps named)
      else ([], lead ++ deps.map (·.path)))
    (h₂ : o₂.items = o₁.items ++ valueOption "--module-path" (":".intercalate r.1) ∧
      o₂.releaseAt = o₁.releaseAt)
    (h₃ : o₃.items = o₂.items ++ valueOption "--class-path" (":".intercalate r.2) ∧
      o₃.releaseAt = o₂.releaseAt) :
    o₃.items = o.items ++ valueOption "-d" out ++ pathOptions modular lead deps named ∧
      o₃.releaseAt = o.releaseAt := by
  subst h₁ hr
  refine ⟨?_, by rw [h₃.2, h₂.2, (OptionList.addValue_grows _ _ _ _).2]⟩
  rw [h₃.1, h₂.1, OptionList.addValue_items hd]
  cases modular <;> simp [pathOptions]

theorem stageDependencies_eq_match (st : BuildState) (stage : Stage) :
    (match st.dependencies with
      | some r => r.forStage stage
      | none => []) = st.stageDependencies stage := by
  unfold BuildState.stageDependencies
  cases st.dependencies <;> rfl

/-- The options after `addPaths` start with the options before, the output directory and the
paths of the unit, derived from the inputs `st₀` that the build shows. -/
theorem addPaths_spec (s : Synthesizer) (o : OptionList) (unit : Source.SourceUnit)
    (previous : List String) (overwrite : Bool) (patches : List (String × Patch.ModulePatch))
    (st₀ : BuildState)
    (hjudge : ∀ f ∈ ["-d", "--module-path", "--class-path"], s.checker.judge f 1 = none) :
    ⦃fun st => ⌜st₀.SameInputs st⌝⦄ s.addPaths o unit previous overwrite patches
    ⦃⇓? r _ => ⌜∃ named, Marks (st₀.stageDependencies s.scope) named ∧
      o.items ++ s.pathsOf st₀ unit previous named <+: r.1.items ∧ r.1.releaseAt = o.releaseAt⌝⦄ := by
  have hemit := fun r h₁ => BuildM.monadLift_post_spec (OptionList.emit_spec r h₁)
  have hmp := fun o path => BuildM.monadLift_post_spec (P := fun _ => True)
    (addPathOption_spec (hjudge "--module-path" (by simp)) o path)
  have hcp := fun o path => BuildM.monadLift_post_spec (P := fun _ => True)
    (addPathOption_spec (hjudge "--class-path" (by simp)) o path)
  mvcgen [addPaths, BuildM.state, hemit, searchPaths_spec, hmp, hcp, addModuleOptions_grows]
  -- the paths are what the options list ends with, or what the module options add to
  case vc3 =>
    rename_i c st hst cwd dependencies o₁ deps st₁ h₁ r st₂ hr o₂ st₃ h₂ o₃ hmod st₄ h₃
    obtain ⟨named, hmarks, hr⟩ := hr
    rw [mainPathOn_eq s (hst.1.trans h₁.2)] at hr
    obtain ⟨hitems, hrel⟩ := paths_items (hjudge "-d" (by simp)) h₁.1 hr h₂ h₃
    have hdeps : deps = st₀.stageDependencies s.scope :=
      (stageDependencies_eq_match st s.scope).trans (hst.stageDependencies_eq s.scope)
    rw [hdeps] at hmarks hitems
    exact ⟨named, hmarks, ⟨[], by rw [hitems, List.append_nil, pathsOf, List.append_assoc]⟩, hrel⟩
  case vc4 =>
    rename_i c st hst cwd dependencies o₁ deps st₁ h₁ r st₂ hr o₂ st₃ h₂ o₃ hmod st₄ h₃ res st₅
    intro hgrows
    obtain ⟨named, hmarks, hr⟩ := hr
    rw [mainPathOn_eq s (hst.1.trans h₁.2)] at hr
    obtain ⟨hitems, hrel⟩ := paths_items (hjudge "-d" (by simp)) h₁.1 hr h₂ h₃
    have hdeps : deps = st₀.stageDependencies s.scope :=
      (stageDependencies_eq_match st s.scope).trans (hst.stageDependencies_eq s.scope)
    rw [hdeps] at hmarks hitems
    obtain ⟨hpre, hrel'⟩ := hgrows
    rw [hitems] at hpre
    refine ⟨named, hmarks, ?_, hrel'.trans hrel⟩
    rwa [pathsOf, ← List.append_assoc]

/-! ## The options of one unit -/

/-- The release goes to one of the places of the list, if anywhere. -/
theorem addRelease_anchored (s : Synthesizer) (o : OptionList) (unit : Source.SourceUnit)
    (ho : o.Anchored) :
    ⦃fun _ => ⌜True⌝⦄ s.addRelease o unit ⦃⇓? o' _ => ⌜o'.Anchored⌝⦄ := by
  have hvalue := fun (cur : OptionList) c f v =>
    OptionList.emit_keeps (P := OptionList.Anchored) (r := cur.addValue c f v)
      fun h => h.grows (OptionList.addValue_grows _ _ _ _)
  have hrelease := fun (cur : OptionList) c v =>
    OptionList.emit_keeps (P := OptionList.Anchored) (r := cur.setRelease c v)
      fun h => OptionList.setRelease_anchored _ h _
  mvcgen [addRelease, hvalue, hrelease]
  all_goals exact id

/-- The switches only append options, and leave the release where it is. -/
theorem addSwitches_grows (s : Synthesizer) (o : OptionList) :
    ⦃fun _ => ⌜True⌝⦄ s.addSwitches o ⦃⇓? o' _ => ⌜o.Grows o'⌝⦄ := by
  have hstep := fun (cur : OptionList) (r : Appended) (hr : cur.Grows r.list) =>
    OptionList.emit_keeps (P := o.Grows) (r := r) fun h => h.trans hr
  have hvalue := fun (cur : OptionList) c f v => hstep cur _ (OptionList.addValue_grows c cur f v)
  have hflag := fun (cur : OptionList) c f v => hstep cur _ (OptionList.addFlag_grows c cur f v)
  have hmemory := fun (cur : OptionList) c f label v =>
    hstep cur _ (OptionList.addMemoryValue_grows c cur f label v true)
  have hcomma := fun (cur : OptionList) c f values valids =>
    @OptionList.emitChecked_keeps o.Grows c cur f values valids .keep
      fun h r hr => h.trans (OptionList.addCommaSeparated_grows c cur f hr)
  have hverbose := fun line => triple_true (HostM.logVerbose line)
  mvcgen [addSwitches, hvalue, hflag, hmemory, hcomma, hverbose]

/-- The compiler arguments keep the arguments that stand outside the release: they are appended
after the list, or set the release. -/
theorem addArguments_keeps (c : Checker) (given : List (String × Option String))
    (o : OptionList) (args : List String) :
    ⦃fun _ => ⌜True⌝⦄ addArguments c given o args
    ⦃⇓ o' _ => ⌜∀ seg, o.Keeps seg → o'.Keeps seg⌝⦄ := by
  -- one case per argument form; what the rest of the arguments keep composes with this step
  fun_induction addArguments c given o args with
  | case1 =>
    mvcgen
    exact fun _ h => h
  | case2 | case3 | case4 | case5 | case6 =>
    rename_i ih
    have hvalue := OptionList.emit_value
    mvcgen [hvalue, ih]
    all_goals
      intro hrest seg hseg
      apply hrest
      subst_vars
      first
        | exact hseg.setRelease _ _
        | exact hseg.addUnchecked _

theorem addRelease_spec (s : Synthesizer) (unit : Source.SourceUnit) (h₀ : Host) :
    ⦃fun h => ⌜Host.SameFiles h₀ h⌝⦄ s.addRelease {} unit
    ⦃⇓? o h => ⌜o.Anchored ∧ Host.SameFiles h₀ h⌝⦄ :=
  triple_and (addRelease_anchored s {} unit OptionList.anchored_empty)
    (addRelease_sameFiles h₀ s {} unit) (fun _ _ => trivial) (fun _ h => h)

theorem addSwitches_spec (s : Synthesizer) (o : OptionList) (h₀ : Host) :
    ⦃fun h => ⌜Host.SameFiles h₀ h⌝⦄ s.addSwitches o
    ⦃⇓? o' h => ⌜o.Grows o' ∧ Host.SameFiles h₀ h⌝⦄ :=
  triple_and (addSwitches_grows s o) (addSwitches_sameFiles h₀ s o) (fun _ _ => trivial)
    (fun _ h => h)

/-- The options of a unit hold its output directory and its paths as the inputs `st₀` give
them, after the outputs `previous` of the units before it. -/
def ShowsPaths (s : Synthesizer) (st₀ : BuildState) (unit : Source.SourceUnit)
    (previous : List String) (o : OptionList) : Prop :=
  ∃ named, Marks (st₀.stageDependencies s.scope) named ∧ s.pathsOf st₀ unit previous named <:+: o.items

-- reading the triple of `addPaths` back on a run must not unfold the program itself
attribute [local irreducible] Synthesizer.addPaths in
/-- The options of a unit hold its output directory and its paths, whatever the compiler
arguments of the configuration add or change after them. -/
theorem unitOptions_paths (s : Synthesizer) (unit : Source.SourceUnit) (previous : List String)
    (overwrite : Bool) (patches : List (String × Patch.ModulePatch)) (st₀ : BuildState)
    (hjudge : ∀ f ∈ ["-d", "--module-path", "--class-path"], s.checker.judge f 1 = none) :
    ⦃fun st => ⌜st₀.SameInputs st⌝⦄ s.unitOptions unit previous overwrite patches
    ⦃⇓? r _ => ⌜s.ShowsPaths st₀ unit previous r.1.options⌝⦄ := by
  have hrelease := BuildM.monadLift_value_sameInputs st₀ (addRelease_spec s unit st₀.host)
  have hswitches := fun o => BuildM.monadLift_value_sameInputs st₀ (addSwitches_spec s o st₀.host)
  intro st hst
  rw [wp_apply]
  split
  · rename_i r st' hrun
    unfold unitOptions at hrun
    -- the release and the switches keep the inputs, and the release stays in the list
    obtain ⟨o₁, st₁, h₁, hrun⟩ := BuildM.run_bind_eq_ok hrun
    obtain ⟨hanchored, hst₁⟩ := ok_of_triple hrelease hst h₁
    obtain ⟨o₂, st₂, h₂, hrun⟩ := BuildM.run_bind_eq_ok hrun
    obtain ⟨hgrows, hst₂⟩ := ok_of_triple (hswitches o₁) hst₁ h₂
    -- the paths follow the options before them
    obtain ⟨⟨o₃, lines, patches'⟩, st₃, h₃, hrun⟩ := BuildM.run_bind_eq_ok hrun
    obtain ⟨named, hmarks, hpre, hrel⟩ :=
      ok_of_triple (addPaths_spec s o₂ unit previous overwrite patches st₀ hjudge) hst₂ h₃
    have hkeeps : o₃.Keeps (s.pathsOf st₀ unit previous named) :=
      OptionList.keeps_of_prefix (hanchored.grows hgrows) hpre hrel
    -- the compiler arguments keep them
    obtain ⟨o₄, st₄, h₄, hrun⟩ := BuildM.run_bind_eq_ok hrun
    have hargs := ok_of_triple (P := fun _ => ⌜True⌝) (BuildM.monadLift_post_spec
      (addArguments_keeps s.checker _ o₃ s.config.compilerArgs)) trivial h₄
    -- the last guard lets the options through unchanged
    dsimp only at hrun
    split at hrun
    · obtain ⟨_, _, h, -⟩ := BuildM.run_bind_eq_ok hrun
      cases h
    · obtain ⟨_, _, -, h⟩ := BuildM.run_bind_eq_ok hrun
      cases h
      exact ⟨named, hmarks, (hargs _ hkeeps).isInfix⟩
  · trivial

/-- The options of the units of a scope, one per unit, each holding the unit's output directory
and its paths after the outputs of the units before it. -/
def ShowsAllPaths (s : Synthesizer) (st₀ : BuildState) (units : List Source.SourceUnit)
    (opts : List UnitOptions) : Prop :=
  opts.length = units.length ∧
    ∀ k (hk : k < units.length) (ho : k < opts.length),
      s.ShowsPaths st₀ units[k] ((units.take k).map (·.output)) opts[k].options

theorem ShowsAllPaths.nil (s : Synthesizer) (st₀ : BuildState) : s.ShowsAllPaths st₀ [] [] :=
  ⟨rfl, fun _ hk => absurd hk (Nat.not_lt_zero _)⟩

/-- One more unit, whose options hold its paths after the outputs of the units before it. -/
theorem ShowsAllPaths.snoc {s : Synthesizer} {st₀ : BuildState} {us : List Source.SourceUnit}
    {os : List UnitOptions} {u : Source.SourceUnit} {o : UnitOptions}
    (h : s.ShowsAllPaths st₀ us os) (ho : s.ShowsPaths st₀ u (us.map (·.output)) o.options) :
    s.ShowsAllPaths st₀ (us ++ [u]) (os ++ [o]) := by
  obtain ⟨hlen, hall⟩ := h
  refine ⟨by simp [hlen], fun k hk hko => ?_⟩
  rcases Nat.lt_or_ge k us.length with hlt | hge
  · have hprev := hall k hlt (hlen ▸ hlt)
    rwa [List.getElem_append_left hlt, List.getElem_append_left (hlen ▸ hlt),
      List.take_append_of_le_length hlt.le]
  · -- the new unit is the last one
    obtain rfl : k = us.length := by simp at hk; omega
    simpa [hlen] using ho

/-- The options of every unit of a scope hold the unit's output directory and its paths: after
the outputs of the units before it, as the inputs at the start of the synthesis give them. -/
theorem setOptions_search_paths (s : Synthesizer) (sources : Source.SourceSet) (st₀ : BuildState)
    (hjudge : ∀ f ∈ ["-d", "--module-path", "--class-path"], s.checker.judge f 1 = none) :
    ⦃fun st => ⌜st₀.SameInputs st⌝⦄ s.setOptions sources
    ⦃⇓? opts _ => ⌜s.ShowsAllPaths st₀ sources.units opts⌝⦄ := by
  have hunit := fun unit previous overwrite patches =>
    triple_and (unitOptions_paths s unit previous overwrite patches st₀ hjudge)
      (unitOptions_sameInputs st₀ s unit previous overwrite patches) (fun _ h => h) (fun _ h => h)
  mvcgen [setOptions, hunit]
  -- the outputs passed on are those of the units done, whose options hold their paths
  invariants
  · ⇓? p st => ⌜st₀.SameInputs st ∧ p.2.2.1 = ( List.Cursor.prefix p.1).map (·.output) ∧
      s.ShowsAllPaths st₀ ( List.Cursor.prefix p.1) p.2.1⌝
  case vc1 => exact ‹_ ∧ _›.1
  -- one unit: its options hold its paths after the outputs passed on
  case vc2 =>
    rename_i hinv _ _ _ _ _ hdone
    obtain ⟨-, hprev, hall⟩ := hinv
    obtain ⟨hshows, hsame⟩ := hdone
    refine ⟨hsame, by simp +zetaDelta [hprev], hall.snoc ?_⟩
    simpa +zetaDelta [hprev] using hshows
  case vc4 => exact ⟨‹_›, rfl, ShowsAllPaths.nil s st₀⟩
  case vc5 => exact ‹_ ∧ _ ∧ _›.2.2

end Synthesizer

/-! ## The unit's own output first on its class path -/

/-- The arguments that name the class path. -/
def classPathFlags : List String := ["--class-path", "-classpath", "-cp"]

section ClassPathEntry

variable (entry : String)

theorem withClassPathEntry_cons {a : String} (ha : a ∉ classPathFlags) (rest : List String) :
    withClassPathEntry entry (a :: rest) = a :: withClassPathEntry entry rest := by
  have hcontains : ["--class-path", "-classpath", "-cp"].contains a = false := by
    simpa [classPathFlags] using ha
  cases rest with
  | nil => rfl
  | cons v rest => simp only [withClassPathEntry, hcontains, Bool.false_eq_true, ↓reduceIte]

/-- Arguments none of which names the class path are left as they are, before the class path
that follows them. -/
theorem withClassPathEntry_append {pre : List String} (hpre : ∀ a ∈ pre, a ∉ classPathFlags)
    (rest : List String) :
    withClassPathEntry entry (pre ++ rest) = pre ++ withClassPathEntry entry rest := by
  induction pre with
  | nil => rfl
  | cons a pre ih =>
    rw [List.cons_append, withClassPathEntry_cons entry (hpre a (.head _)),
      ih fun b hb => hpre b (.tail _ hb), List.cons_append]

/-- The first argument that names the class path gets the entry first on its value. -/
theorem withClassPathEntry_flag {f : String} (hf : f ∈ classPathFlags) (v : String)
    (rest : List String) :
    withClassPathEntry entry (f :: v :: rest) = f :: (entry ++ ":" ++ v) :: rest := by
  have hcontains : ["--class-path", "-classpath", "-cp"].contains f = true := by
    simpa [classPathFlags] using hf
  simp only [withClassPathEntry, hcontains, ↓reduceIte]

end ClassPathEntry

/-! ## The paths of the units of a scope -/

/-- Both compilers take one value after `-d`, `--module-path` and `--class-path`. -/
theorem Javac.arity_path_flags : ∀ f ∈ ["-d", "--module-path", "--class-path"], Javac.arity f = 1 := by
  decide

theorem Backend.judge_path_flags (b : Backend) :
    ∀ f ∈ ["-d", "--module-path", "--class-path"], b.checker.judge f 1 = none := by
  intro f hf
  have harity := Javac.arity_path_flags f hf
  cases b <;> simp [Backend.checker, Backend.arity, Checker.judge, Javac.lenientArity, harity]

namespace Executor

/-- What the options of the units of a scope are derived from. -/
def synthesizer (e : Executor) : Synthesizer :=
  { config := e.config, checker := e.backend.checker, scope := e.scope, mainOutput := e.mainOutput,
    enumerate := e.enumerate }

@[simp] theorem synthesizer_config (e : Executor) : e.synthesizer.config = e.config := rfl

@[simp] theorem synthesizer_scope (e : Executor) : e.synthesizer.scope = e.scope := rfl

theorem synthesize_eq (e : Executor) (sources : Source.SourceSet) :
    e.synthesize sources = e.synthesizer.setOptions sources := rfl

/-- The paths before the dependencies on the search path of the unit of index `k`: the outputs of
the units before it, the last first, then, for the tests, the main classes when they exist. -/
def leadPaths (e : Executor) (h : Host) (units : List Source.SourceUnit) (k : Nat) : List String :=
  ((units.take k).map (·.output)).reverse ++ (e.synthesizer.mainPathOn h).toList

/-- A dependency of the main sources outside any module, whose path ends in a blank. -/
def blankEndedLibrary : Dependency :=
  { group := "org.example", artifact := "a", version := "1.0", scope := .compile,
    path := "/lib/a.jar " }

end Executor

end JavaBuild
