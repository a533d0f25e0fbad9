import JavaBuild.Proofs.Patch.Expansion
import JavaBuild.Proofs.Data.List

/-!
# Module-info patches: what simplification drops

With simplification, the walk over the test dependencies also marks as covered, at the stages
where a module was just appended to some list, every module that its descriptor requires
(`requiredNames`): its direct requirements, and what they reach through `requires transitive`
among the descriptors of the dependencies (`RequiredBy`). A module that is covered that way is
not appended when its own dependency comes.

The walk is first read as a pure fold (`TestWalk.step`, `expandTestPath_eq_walk`). Its invariant
(`WalkInv`) relates each stage to the modules it keeps (`Keeps`): a sublist of the modules it
sees, each left out only when a dependency before it, whose module is kept, requires it. Hence
each list with simplification is the one without it with some modules of test dependencies left
out, each of them implied (`resolve_simplified_drops_only_implied`).

This is not a plain deletion in two cases. A module of the project that a test dependency
provides is left out like any other. And a test dependency's
module named `ALL-UNNAMED` that is left out comes back at the end of the list for the
dependencies in the unnamed module, after modules that followed it
(`resolve_simplified_drops_project_module_and_moves_unnamed`).
-/

set_option mvcgen.warning false

namespace JavaBuild

open Std.Do

namespace Module

variable {mods : List Descriptor} {follow : List String → Bool} {strict : Bool}

theorem walk_sound (P : String → Prop)
    (hstep : ∀ n d, P n → lookup mods n = some d → ∀ m ∈ followed follow d, P m)
    {reached pending R : List String} (hw : walk mods follow strict reached pending = .ok R)
    (hreached : ∀ n ∈ reached, P n) (hpending : ∀ n ∈ pending, P n) : ∀ n ∈ R, P n := by
  revert hw hreached hpending
  fun_induction walk mods follow strict reached pending with
  | case1 reached =>
    intro hw hreached _
    cases hw
    exact hreached
  | case2 => intro hw; cases hw
  | case3 reached name rest _ _ ih =>
    intro hw hreached hpending
    exact ih hw hreached fun n hn => hpending n (List.mem_cons_of_mem _ hn)
  | case4 reached name rest d _ _ ih =>
    intro hw hreached hpending
    exact ih hw hreached fun n hn => hpending n (List.mem_cons_of_mem _ hn)
  | case5 reached name rest d hlook _ ih =>
    intro hw hreached hpending
    -- the module entered is the one looked up by a pending name, and its requirements are pending
    have hname : P d.name := lookup_name hlook ▸ hpending name List.mem_cons_self
    refine ih hw (fun n hn => ?_) (fun n hn => ?_)
    · rcases List.mem_append.mp hn with hn | hn
      · exact hreached n hn
      · exact (List.mem_singleton.mp hn) ▸ hname
    · rcases List.mem_append.mp hn with hn | hn
      · exact hstep name d (hpending name List.mem_cons_self) hlook n hn
      · exact hpending n (List.mem_cons_of_mem _ hn)

/-- What holds of the named roots and passes along the requirements followed holds of every name
reached from them. -/
theorem reach_named_sound (P : String → Prop)
    (hstep : ∀ n d, P n → lookup mods n = some d → ∀ m ∈ followed follow d, P m)
    (names : List String) (hnames : ∀ n ∈ names, P n) {R : List String}
    (hR : reach mods (names.map Root.named) follow strict = .ok R) : ∀ n ∈ R, P n := by
  -- the roots are entered in turn, each walk starting from the names reached before
  suffices h : ∀ acc, (∀ n ∈ acc, P n) →
      (names.map Root.named).foldlM (enterRoot mods follow strict) acc = .ok R → ∀ n ∈ R, P n from
    h [] (by simp) hR
  clear hR
  induction names with
  | nil =>
    intro acc hacc h
    cases h
    exact hacc
  | cons n names ih =>
    intro acc hacc h
    rw [List.map_cons, List.foldlM_cons] at h
    cases hwalk : walk mods follow strict acc [n] with
    | error e => simp [enterRoot, hwalk] at h; cases h
    | ok acc' =>
      simp only [enterRoot, hwalk] at h
      exact ih (fun m hm => hnames m (List.mem_cons_of_mem _ hm)) acc'
        (walk_sound P hstep hwalk hacc (by simpa using hnames n List.mem_cons_self)) h

/-- A lenient walk from names that no observable module has reaches nothing. -/
theorem reach_named_of_lookup_eq_none (names : List String)
    (h : ∀ n ∈ names, lookup mods n = none) :
    reach mods (names.map Root.named) follow false = .ok [] := by
  -- each root is passed over, leaving what was reached as it was
  suffices hacc : ∀ acc, (names.map Root.named).foldlM (enterRoot mods follow false) acc = .ok acc from
    hacc []
  induction names with
  | nil => exact fun _ => rfl
  | cons n names ih =>
    intro acc
    have hwalk : walk mods follow false acc [n] = .ok acc := by
      rw [walk.eq_2]
      split
      · simp [walk.eq_1]
      · rename_i d hd
        simp [h n List.mem_cons_self] at hd
    rw [List.map_cons, List.foldlM_cons]
    simp only [enterRoot, hwalk]
    exact ih (fun m hm => h m (List.mem_cons_of_mem _ hm)) acc

end Module

namespace Patch

/-- The modules that a descriptor requires among the observable modules `mods`: those it requires
itself, and those that an observable module it requires so requires through `requires
transitive`. -/
inductive RequiredBy (mods : List Descriptor) (d : Descriptor) : String → Prop
  | direct {n : String} : n ∈ Assoc.keys d.requires → RequiredBy mods d n
  | transitive {n m : String} {e : Descriptor} : RequiredBy mods d n →
      Module.lookup mods n = some e → m ∈ Module.followed (fun ms => ms.contains "transitive") e →
      RequiredBy mods d m

theorem mem_getD_toOption {ε : Type} {x : Except ε (List String)} {n : String}
    (h : n ∈ x.toOption.getD []) : ∃ R, x = .ok R ∧ n ∈ R := by
  cases x with
  | error e => simp [Except.toOption] at h
  | ok R => exact ⟨R, rfl, h⟩

/-- Every module that `requiredNames` lists is required by the descriptor. -/
theorem requiredBy_of_mem_requiredNames {mods : List Descriptor} {d : Descriptor} {x : String}
    (hx : x ∈ requiredNames mods d) : RequiredBy mods d x := by
  simp only [requiredNames, List.mem_append, List.mem_flatMap] at hx
  rcases hx with hx | ⟨n, hn, hx⟩
  · exact .direct hx
  · -- the module `n` was reached from the modules the descriptor requires
    have hreached : RequiredBy mods d n := by
      obtain ⟨R, hR, hnR⟩ := mem_getD_toOption hn
      exact Module.reach_named_sound (RequiredBy mods d) (fun _ _ hn he _ hm => .transitive hn he hm)
        _ (fun n hn => .direct (by simpa [sortedSet] using hn)) hR n hnR
    split at hx
    · exact .transitive hreached ‹_› hx
    · simp at hx

/-- A descriptor whose requirements are all of modules that are not observable requires just
them. -/
theorem requiredNames_of_lookup_eq_none {mods : List Descriptor} {d : Descriptor}
    (h : ∀ n ∈ Assoc.keys d.requires, Module.lookup mods n = none) :
    requiredNames mods d = Assoc.keys d.requires := by
  have hreach : Module.reach mods ((sortedSet (Assoc.keys d.requires)).map Module.Root.named)
      (fun ms => ms.contains "transitive") false = .ok [] :=
    Module.reach_named_of_lookup_eq_none _ fun n hn => h n (by simpa [sortedSet] using hn)
  simp only [requiredNames]
  rw [hreach]
  simp [Except.toOption]

end Patch

namespace Resolution

/-- The descriptors of the dependencies among `deps` whose module is known: the modules that
requirements can be followed through. -/
def observable (s : Resolution) (deps : List Dependency) : List Descriptor :=
  deps.filterMap s.knownDescriptor

theorem Extends.observable_eq {s r : Resolution} (hs : s.Extends r) (deps : List Dependency) :
    s.observable deps = r.observable deps := by
  simp only [observable, hs.knownDescriptor_eq]

/-- Reading the descriptors of dependencies whose modules are known reads nothing on the host. -/
theorem mapM_descriptor_spec (deps : List Dependency) (r₀ : Resolution) (h₀ : Host)
    (hk : ∀ d ∈ deps, r₀.Knows d) :
    ⦃fun s h => ⌜s = r₀ ∧ h = h₀⌝⦄ deps.mapM descriptor
    ⦃⇓ ds s h => ⌜ds = deps.map r₀.knownDescriptor ∧ s.Extends r₀ ∧ h = h₀⌝⦄ := by
  induction deps generalizing r₀ with
  | nil =>
    mvcgen [List.mapM_nil]
    rename_i hpre
    exact ⟨rfl, hpre.1 ▸ .refl _, hpre.2⟩
  | cons d deps ih =>
    mvcgen [List.mapM_cons, descriptor_spec, ih]
    case vc1 =>
      rename_i hpre
      exact hpre.1 ▸ hk d List.mem_cons_self
    case vc2 =>
      rename_i hpre _ _ _ hdesc
      intro d' hd'
      exact hdesc.2.1.knows (hpre.1 ▸ hk d' (List.mem_cons_of_mem _ hd'))
    case vc3 =>
      rename_i hpre _ _ _ hdesc
      exact ⟨trivial, hdesc.2.2.trans hpre.2⟩
    case vc4 =>
      rename_i hpre _ _ _ hdesc _ _ _ hrest
      obtain ⟨rfl, rfl⟩ := hpre
      obtain ⟨rfl, hext, rfl⟩ := hdesc
      obtain ⟨rfl, hext', rfl⟩ := hrest
      exact ⟨by simp [hext.knownDescriptor_eq], hext'.trans hext, rfl⟩

end Resolution

namespace Patch

/-- The modules required by a descriptor, when the modules of the dependencies are known, are read
without the host: those `requiredNames` lists among the observable modules. -/
theorem requiredModules_spec (r : Resolution) (D : Descriptor) (r₀ : Resolution) (h₀ : Host)
    (hk : ∀ d ∈ r.dependencies, r₀.Knows d) :
    ⦃fun s h => ⌜s = r₀ ∧ h = h₀⌝⦄ requiredModules r D
    ⦃⇓ ms s h => ⌜ms = requiredNames (r₀.observable r.dependencies) D ∧ s.Extends r₀ ∧ h = h₀⌝⦄ := by
  mvcgen [requiredModules, Resolution.mapM_descriptor_spec]
  case vc1 =>
    rename_i hpre
    exact hpre.1 ▸ hk
  case vc2 =>
    rename_i hpre ds _ _ _ hds
    obtain ⟨rfl, rfl⟩ := hpre
    obtain ⟨hds, hext, rfl⟩ := hds
    refine ⟨?_, hext, rfl⟩
    show requiredNames (ds.filterMap id) D = _
    rw [hds, List.filterMap_map]
    rfl

end Patch


namespace Patch

/-- The walk over the test dependencies, when their modules are known: the options so far, the
stages at which each module is covered, and the stages that saw a dependency in the unnamed
module. -/
structure TestWalk where
  expansion : Expansion
  covered : List (String × Stages)
  unnamed : Stages

namespace TestWalk

variable (s : Resolution) (observable : List Descriptor) (simplify addAll readAll : Bool)
  (exported : List String)

/-- One dependency of the walk. A module of a test dependency is added at the stages that see it
and where it is not covered yet, and covers them; with `simplify`, when a list changed, the
modules its descriptor requires cover them too. -/
def step (w : TestWalk) (dep : Dependency) : TestWalk :=
  match testStages dep.scope with
  | none => w
  | some stages =>
    match s.knownName dep with
    | none => { w with unnamed := w.unnamed.union stages }
    | some m =>
      let previous := (w.covered.lookup m).getD .none
      if stages.within previous then w
      else
        let stages := stages.diff previous
        let covered := Assoc.put w.covered m (previous.union stages)
        let added := w.expansion.addTestModule addAll readAll exported stages m
        { w with
          expansion := added.1
          covered :=
            if simplify && added.2 then
              match s.knownDescriptor dep with
              | some d => markCovered covered (requiredNames observable d) stages
              | none => covered
            else covered }

/-- The options after the walk: the unnamed module is added at the stages that saw one. -/
def finish (w : TestWalk) : Expansion :=
  if !w.unnamed.isNone then w.expansion.addUnnamed readAll exported w.unnamed else w.expansion

variable {s observable simplify addAll readAll exported} {w : TestWalk} {dep : Dependency}
  {st : Stages} {m : String}

theorem step_of_testStages_eq_none (hsc : testStages dep.scope = none) :
    step s observable simplify addAll readAll exported w dep = w := by
  simp [step, hsc]

theorem step_of_knownName_eq_none (hsc : testStages dep.scope = some st)
    (hn : s.knownName dep = none) :
    step s observable simplify addAll readAll exported w dep = { w with unnamed := w.unnamed.union st } := by
  simp [step, hsc, hn]

theorem step_of_within (hsc : testStages dep.scope = some st) (hn : s.knownName dep = some m)
    (hwithin : st.within ((w.covered.lookup m).getD .none) = true) :
    step s observable simplify addAll readAll exported w dep = w := by
  simp [step, hsc, hn, hwithin]

theorem step_of_not_within (hsc : testStages dep.scope = some st) (hn : s.knownName dep = some m)
    (hwithin : st.within ((w.covered.lookup m).getD .none) = false) :
    let previous := (w.covered.lookup m).getD .none
    let added := w.expansion.addTestModule addAll readAll exported (st.diff previous) m
    let covered := Assoc.put w.covered m (previous.union (st.diff previous))
    step s observable simplify addAll readAll exported w dep =
      { expansion := added.1
        covered :=
          if simplify && added.2 then
            match s.knownDescriptor dep with
            | some d => markCovered covered (requiredNames observable d) (st.diff previous)
            | none => covered
          else covered
        unnamed := w.unnamed } := by
  simp [step, hsc, hn, hwithin]

end TestWalk

theorem expandTestPath_eq_walk (p : ModulePatch) (shared : SharedModules) (r : Resolution)
    (simplify : Bool) (e₀ : Expansion) (s₀ : Resolution) (h₀ : Host)
    (hknows : ∀ d ∈ r.dependencies, s₀.Knows d) :
    let addAll := shared.addModules.contains testModulePath
    let readAll := p.addReads.contains testModulePath
    let exported := (p.addExports.filter fun x => x.2.contains testModulePath).map (·.1)
    ⦃fun s h => ⌜s = s₀ ∧ h = h₀⌝⦄ expandTestPath p shared r simplify e₀
    ⦃⇓ e s h => ⌜e = TestWalk.finish readAll exported (r.dependencies.foldl
        (TestWalk.step s₀ (s₀.observable r.dependencies) simplify addAll readAll exported)
        ⟨e₀, [], .none⟩) ∧ s.Extends s₀ ∧ h = h₀⌝⦄ := by
  intro addAll readAll exported
  mvcgen [expandTestPath, Resolution.moduleName_spec, Resolution.descriptor_spec,
    requiredModules_spec] invariants
  · -- the state is read by projections: a destructuring pattern here would name a matcher
    ⇓ st s h =>
      ⌜s.Extends s₀ ∧ h = h₀ ∧ ( List.Cursor.prefix st.1).foldl
        (TestWalk.step s₀ (s₀.observable r.dependencies) simplify
          (shared.addModules.contains testModulePath) (p.addReads.contains testModulePath)
          ((p.addExports.filter fun x => x.2.contains testModulePath).map (·.1)))
        ⟨e₀, [], .none⟩ = ⟨st.2.1, st.2.2.1, st.2.2.2⟩⌝
  -- the dependency is known, also to the resolution as it has grown
  case vc1 =>
    rename_i pref cur suff hdeps _ _ _ _ _ _ _ _ _ hinv
    exact hinv.1.knows (hknows cur (by simp [hdeps]))
  -- a module covered at every stage that sees it
  case vc2 =>
    rename_i pref cur suff hdeps _ _ _ _ _ _ hsc _ _ hinv _ m _ _ hwithin _ _ hname
    obtain ⟨hext, rfl, hfold⟩ := hinv
    obtain ⟨hn, hext', rfl⟩ := hname
    rw [hext.knownName_eq] at hn
    refine ⟨hext'.trans hext, rfl, ?_⟩
    rw [List.foldl_append, hfold, List.foldl_cons, List.foldl_nil]
    exact TestWalk.step_of_within hsc hn.symm hwithin
  case vc3 =>
    rename_i pref cur suff hdeps _ _ _ _ _ _ _ _ _ hinv _ _ _ _ _ _ _ _ _ _ _ hname
    exact (hname.2.1.trans hinv.1).knows (hknows cur (by simp [hdeps]))
  case vc4 =>
    rename_i _ _ _ _ _ _ _ _ _ _ _ _ _ hinv _ _ _ _ _ _ _ _ _ _ _ hname _ _ _ _ _ hdesc
    exact fun d hd => (hdesc.2.1.trans (hname.2.1.trans hinv.1)).knows (hknows d hd)
  -- a module added where it was not covered, and the modules its descriptor requires covered
  case vc5 =>
    rename_i pref cur suff hdeps _ _ _ _ _ _ hsc _ _ hinv _ m _ _ hwithin _ _ _ hchanged _ _ hname
      _ D _ s₂ _ hdesc _ _ _ _ hreq
    obtain ⟨hext, rfl, hfold⟩ := hinv
    obtain ⟨hn, hext', rfl⟩ := hname
    obtain ⟨hd, hext'', rfl⟩ := hdesc
    obtain ⟨rfl, hext₃, rfl⟩ := hreq
    have hext₂ : s₂.Extends s₀ := hext''.trans (hext'.trans hext)
    rw [hext.knownName_eq] at hn
    rw [(hext'.trans hext).knownDescriptor_eq] at hd
    refine ⟨hext₃.trans hext₂, rfl, ?_⟩
    rw [List.foldl_append, hfold, List.foldl_cons, List.foldl_nil,
      TestWalk.step_of_not_within hsc hn.symm (Bool.eq_false_iff.mpr hwithin), if_pos hchanged, ← hd,
      ← hext₂.observable_eq]
  -- a module added where no descriptor is known: nothing more is covered
  case vc6 =>
    rename_i pref cur suff hdeps _ _ _ _ _ _ hsc _ _ hinv _ m _ _ hwithin _ _ _ hchanged _ _ hname
      _ dd hnot _ _ _ hdesc
    obtain ⟨hext, rfl, hfold⟩ := hinv
    obtain ⟨hn, hext', rfl⟩ := hname
    obtain ⟨hd, hext'', rfl⟩ := hdesc
    rw [hext.knownName_eq] at hn
    have hnone : s₀.knownDescriptor cur = none := by
      rw [← (hext'.trans hext).knownDescriptor_eq, ← hd]
      exact Option.eq_none_iff_forall_ne_some.mpr hnot
    refine ⟨hext''.trans (hext'.trans hext), rfl, ?_⟩
    rw [List.foldl_append, hfold, List.foldl_cons, List.foldl_nil,
      TestWalk.step_of_not_within hsc hn.symm (Bool.eq_false_iff.mpr hwithin), if_pos hchanged, hnone]
  -- a module added where no list changed, or without simplification
  case vc7 =>
    rename_i pref cur suff hdeps _ _ _ _ _ _ hsc _ _ hinv _ m _ _ hwithin _ _ _ hchanged _ _ hname
    obtain ⟨hext, rfl, hfold⟩ := hinv
    obtain ⟨hn, hext', rfl⟩ := hname
    rw [hext.knownName_eq] at hn
    refine ⟨hext'.trans hext, rfl, ?_⟩
    rw [List.foldl_append, hfold, List.foldl_cons, List.foldl_nil,
      TestWalk.step_of_not_within hsc hn.symm (Bool.eq_false_iff.mpr hwithin), if_neg hchanged]
  -- a dependency in the unnamed module
  case vc8 =>
    rename_i pref cur suff hdeps _ _ _ _ _ st hsc _ _ hinv _ nn hnot _ _ _ _ hname
    obtain ⟨hext, rfl, hfold⟩ := hinv
    obtain ⟨hn, hext', rfl⟩ := hname
    rw [hext.knownName_eq] at hn
    have hnone : s₀.knownName cur = none := hn ▸ Option.eq_none_iff_forall_ne_some.mpr hnot
    refine ⟨hext'.trans hext, rfl, ?_⟩
    rw [List.foldl_append, hfold, List.foldl_cons, List.foldl_nil,
      TestWalk.step_of_knownName_eq_none hsc hnone]
  -- a dependency outside the test scopes
  case vc9 =>
    rename_i pref cur suff hdeps _ _ _ _ _ sc hnot hsc _ _ hinv
    obtain ⟨hext, rfl, hfold⟩ := hinv
    refine ⟨hext, rfl, ?_⟩
    rw [List.foldl_append, hfold, List.foldl_cons, List.foldl_nil,
      TestWalk.step_of_testStages_eq_none (hsc.trans (Option.eq_none_iff_forall_ne_some.mpr hnot))]
  case vc10 =>
    rename_i hpre
    exact ⟨hpre.1 ▸ .refl _, hpre.2, rfl⟩
  -- the unnamed module is added at the stages that saw one
  case vc11 =>
    rename_i _ _ _ _ _ hcond _ _ _ hinv
    obtain ⟨hext, rfl, hfold⟩ := hinv
    refine ⟨?_, hext, rfl⟩
    rw [hfold, TestWalk.finish, if_pos hcond]
  case vc12 =>
    rename_i _ _ _ _ hcond _ _ hinv
    obtain ⟨hext, rfl, hfold⟩ := hinv
    refine ⟨?_, hext, rfl⟩
    rw [hfold, TestWalk.finish, if_neg hcond]


end Patch

/-! ## Covering modules -/

namespace Patch

/-- Covering at a stage after putting a module's stages: the module is covered where the stages
put say, the others as before. -/
theorem has_lookup_put (done : List (String × Stages)) (m x : String) (v : Stages) (b : Bool) :
    (((Assoc.put done m v).lookup x).getD .none).has b =
      if x = m then v.has b else ((done.lookup x).getD .none).has b := by
  rw [Assoc.lookup_put]
  by_cases hx : x = m <;> simp [hx]

/-- Marking modules as covered at stages covers each of them there and changes nothing else. -/
theorem has_lookup_markCovered (done : List (String × Stages)) (ms : List String) (st : Stages)
    (x : String) (b : Bool) :
    (((markCovered done ms st).lookup x).getD .none).has b =
      (((done.lookup x).getD .none).has b || decide (x ∈ ms) && st.has b) := by
  induction ms generalizing done with
  | nil => simp [markCovered]
  | cons y ms ih =>
    show (((markCovered (Assoc.put done y (((done.lookup y).getD .none).union st)) ms st).lookup
      x).getD .none).has b = _
    rw [ih, has_lookup_put]
    by_cases hx : x = y
    · subst hx
      cases hst : st.has b <;> simp [hst]
    · simp [hx]

section Covering

variable (s₀ : Resolution) (deps : List Dependency)

/-- A module `x` is implied at a stage by the dependencies `ds` with `kept` added there when one of
them that the stage sees has its module in `kept` and a descriptor that requires `x`, among the
modules of `deps`. -/
def ImpliedBy (ds : List Dependency) (kept : List String) (b : Bool) (x : String) : Prop :=
  ∃ d₀ ∈ ds, d₀.scope ∈ testScopes b ∧ ∃ m₀ D₀, s₀.knownName d₀ = some m₀ ∧ m₀ ∈ kept ∧
    s₀.knownDescriptor d₀ = some D₀ ∧ x ∈ requiredNames (s₀.observable deps) D₀

/-- The modules `kept` of the test dependencies `ds` at a stage: of the modules the stage sees,
the first of each name in order, less some, each implied by a dependency before every one whose
module it is. -/
def Keeps (ds : List Dependency) (b : Bool) (kept : List String) : Prop :=
  List.Sublist kept (s₀.testModules ds b).eraseDups ∧
  ∀ pre d post, ds = pre ++ d :: post → d.scope ∈ testScopes b → ∀ x, s₀.knownName d = some x →
    x ∉ kept → ImpliedBy s₀ deps pre kept b x

variable {s₀ deps}

theorem ImpliedBy.mono {ds ds' : List Dependency} {kept kept' : List String} {b : Bool} {x : String}
    (h : ImpliedBy s₀ deps ds kept b x) (hds : ∀ d ∈ ds, d ∈ ds') (hkept : ∀ m ∈ kept, m ∈ kept') :
    ImpliedBy s₀ deps ds' kept' b x := by
  obtain ⟨d₀, hd₀, hsc, m₀, D₀, hn, hm, hD, hx⟩ := h
  exact ⟨d₀, hds d₀ hd₀, hsc, m₀, D₀, hn, hkept m₀ hm, hD, hx⟩

/-- A dependency appended to a list splits it as before, or is the one split off. -/
theorem append_singleton_eq_append_cons {ds pre post : List Dependency} {d d' : Dependency}
    (h : ds ++ [d] = pre ++ d' :: post) :
    (pre = ds ∧ d' = d ∧ post = []) ∨ ∃ post', post = post' ++ [d] ∧ ds = pre ++ d' :: post' := by
  rcases List.eq_nil_or_concat post with rfl | ⟨post', z, rfl⟩
  · obtain ⟨hds, hd⟩ := List.append_inj' h rfl
    exact .inl ⟨hds.symm, by simpa using hd.symm, rfl⟩
  · have h' : ds ++ [d] = (pre ++ d' :: post') ++ [z] := by simpa using h
    obtain ⟨hds, hd⟩ := List.append_inj' h' rfl
    exact .inr ⟨post', by simpa using hd.symm, hds⟩

theorem eraseDups_append_singleton_of_not_mem {T : List String} {m : String} (hm : m ∉ T) :
    (T ++ [m]).eraseDups = T.eraseDups ++ [m] := by
  rw [List.eraseDups_append]
  simp [List.removeAll, hm, List.eraseDups_cons]

theorem eraseDups_sublist_eraseDups_append (T ys : List String) :
    List.Sublist T.eraseDups (T ++ ys).eraseDups := by
  rw [List.eraseDups_append]
  exact List.sublist_append_left _ _

namespace Keeps

variable {ds : List Dependency} {d : Dependency} {b : Bool} {kept : List String}

/-- The splits of a list with a dependency appended that end before it keep what they implied. -/
theorem implied_of_split (hk : Keeps s₀ deps ds b kept) (kept' : List String)
    (hsub : ∀ m ∈ kept, m ∈ kept') {pre post : List Dependency} {d' : Dependency}
    (hsplit : ds = pre ++ d' :: post) (hsc : d'.scope ∈ testScopes b) {x : String}
    (hx : s₀.knownName d' = some x) (hnot : x ∉ kept') : ImpliedBy s₀ deps pre kept' b x :=
  (hk.2 pre d' post hsplit hsc x hx fun h => hnot (hsub x h)).mono (fun _ h => h) hsub

/-- A dependency the stage does not see as a named module keeps what is kept. -/
theorem snoc_unseen (hk : Keeps s₀ deps ds b kept)
    (hunseen : d.scope ∈ testScopes b → s₀.knownName d = none) :
    Keeps s₀ deps (ds ++ [d]) b kept := by
  have hT : s₀.testModules (ds ++ [d]) b = s₀.testModules ds b := by
    by_cases hb : d.scope ∈ testScopes b
    · simp [Resolution.testModules_append_singleton, hb, hunseen hb]
    · exact Resolution.testModules_append_of_not_mem hb
  refine ⟨hT ▸ hk.1, fun pre d' post hsplit hsc x hx hnot => ?_⟩
  rcases append_singleton_eq_append_cons hsplit with ⟨rfl, rfl, rfl⟩ | ⟨post', rfl, hds⟩
  · simp [hunseen hsc] at hx
  · exact hk.implied_of_split kept (fun _ h => h) hds hsc hx hnot

/-- A module the stage sees first is kept at the end. -/
theorem snoc_add (hk : Keeps s₀ deps ds b kept) {m : String} (hsc : d.scope ∈ testScopes b)
    (hn : s₀.knownName d = some m) (hm : m ∉ s₀.testModules ds b) :
    Keeps s₀ deps (ds ++ [d]) b (kept ++ [m]) := by
  refine ⟨?_, fun pre d' post hsplit hsc' x hx hnot => ?_⟩
  · rw [Resolution.testModules_append_of_mem hsc hn, eraseDups_append_singleton_of_not_mem hm]
    exact hk.1.append_right [m]
  · rcases append_singleton_eq_append_cons hsplit with ⟨rfl, rfl, rfl⟩ | ⟨post', rfl, hds⟩
    · rw [hn] at hx
      cases hx
      simp at hnot
    · exact hk.implied_of_split _ (fun _ h => List.mem_append_left _ h) hds hsc' hx hnot

/-- A module the stage sees that is kept, or implied by the dependencies before, is not kept
again. -/
theorem snoc_skip (hk : Keeps s₀ deps ds b kept) {m : String} (hn : s₀.knownName d = some m)
    (himplied : d.scope ∈ testScopes b → m ∉ kept → ImpliedBy s₀ deps ds kept b m) :
    Keeps s₀ deps (ds ++ [d]) b kept := by
  refine ⟨?_, fun pre d' post hsplit hsc' x hx hnot => ?_⟩
  · rw [Resolution.testModules_append_singleton]
    exact hk.1.trans (eraseDups_sublist_eraseDups_append _ _)
  · rcases append_singleton_eq_append_cons hsplit with ⟨rfl, rfl, rfl⟩ | ⟨post', rfl, hds⟩
    · rw [hn] at hx
      cases hx
      exact himplied hsc' hnot
    · exact hk.implied_of_split kept (fun _ h => h) hds hsc' hx hnot

end Keeps

namespace TestWalk

/-- Whether the walk covers a module at a stage. -/
def Covers (w : TestWalk) (m : String) (b : Bool) : Prop :=
  ((w.covered.lookup m).getD .none).has b = true

variable {s : Resolution} {w : TestWalk} {dep : Dependency} {st : Stages} {m : String}
  (observable : List Descriptor) (simplify addAll readAll : Bool) (exported : List String)

/-- After a module is added at the stages `mask` it was not covered at, it is covered there too,
and with `simplify`, when a list changed, so are the modules its descriptor requires. -/
theorem covers_step_iff (hsc : testStages dep.scope = some st) (hn : s.knownName dep = some m)
    (hwithin : st.within ((w.covered.lookup m).getD .none) = false) (x : String) (b : Bool) :
    (step s observable simplify addAll readAll exported w dep).Covers x b ↔
      (w.Covers x b ∨ x = m ∧ (st.diff ((w.covered.lookup m).getD .none)).has b = true) ∨
      ((simplify && (w.expansion.addTestModule addAll readAll exported
          (st.diff ((w.covered.lookup m).getD .none)) m).2) = true ∧
        ∃ D, s.knownDescriptor dep = some D ∧ x ∈ requiredNames observable D ∧
          (st.diff ((w.covered.lookup m).getD .none)).has b = true) := by
  -- covering the module itself, on top of what was covered
  have hput : ∀ y, (((Assoc.put w.covered m (((w.covered.lookup m).getD .none).union
        (st.diff ((w.covered.lookup m).getD .none)))).lookup y).getD .none).has b = true ↔
      w.Covers y b ∨ y = m ∧ (st.diff ((w.covered.lookup m).getD .none)).has b = true := by
    intro y
    rw [has_lookup_put]
    by_cases hy : y = m
    · subst hy
      simp [Covers]
    · simp [Covers, hy]
  rw [Covers, step_of_not_within hsc hn hwithin]
  dsimp only
  split
  · rename_i hchanged
    split
    · rename_i D hD
      rw [has_lookup_markCovered, Bool.or_eq_true, hput]
      simp only [hchanged, hD, true_and, Option.some.injEq, exists_eq_left', decide_eq_true_eq,
        Bool.and_eq_true]
    · rename_i hD
      rw [hput]
      simp [hD]
  · rename_i hchanged
    rw [hput]
    simp [hchanged]

end TestWalk

section Walk

variable (s₀ : Resolution) (deps : List Dependency) (simplify addAll readAll : Bool)
  (exported : List String) (e₀ : Expansion)

/-- What the walk keeps after the dependencies `ds`, with the modules `kept` kept at each stage:
each stage holds the options it started from with them appended, and they are what the stage
keeps (`Keeps`); every module the stage sees is covered there, and a module covered there is kept
there or implied by the dependencies walked, and kept without simplification; the stages that saw
a dependency in the unnamed module are marked. -/
structure WalkInv (ds : List Dependency) (w : TestWalk) (kept : Bool → List String) : Prop where
  stage_eq : ∀ b, w.expansion.stage b = (e₀.stage b).addTests addAll readAll exported (kept b)
  keeps : ∀ b, Keeps s₀ deps ds b (kept b)
  covers_of_mem : ∀ b, ∀ m ∈ s₀.testModules ds b, w.Covers m b
  mem_or_implied : ∀ b m, w.Covers m b → m ∈ kept b ∨ ImpliedBy s₀ deps ds (kept b) b m
  mem_of_covers : simplify = false → ∀ b m, w.Covers m b → m ∈ kept b
  unnamed_eq : ∀ b, w.unnamed.has b = s₀.testUnnamed ds b

theorem walkInv_nil :
    WalkInv s₀ deps simplify addAll readAll exported e₀ [] ⟨e₀, [], .none⟩ fun _ => [] where
  stage_eq b := by simp
  keeps b := ⟨by simp [Resolution.testModules], fun pre d post h => by simp at h⟩
  covers_of_mem b m hm := by simp [Resolution.testModules] at hm
  mem_or_implied b m h := by simp [TestWalk.Covers] at h
  mem_of_covers _ b m h := by simp [TestWalk.Covers] at h
  unnamed_eq b := by simp [Resolution.testUnnamed]

variable {s₀ deps simplify addAll readAll exported e₀}
variable {ds : List Dependency} {d : Dependency} {w : TestWalk} {kept : Bool → List String}

namespace WalkInv

/-- A dependency outside the test scopes changes nothing. -/
theorem skip (hinv : WalkInv s₀ deps simplify addAll readAll exported e₀ ds w kept)
    (hsc : testStages d.scope = none) :
    WalkInv s₀ deps simplify addAll readAll exported e₀ (ds ++ [d]) w kept where
  stage_eq := hinv.stage_eq
  keeps b := (hinv.keeps b).snoc_unseen fun hb => absurd hb (not_mem_testScopes hsc b)
  covers_of_mem b m hm := by
    rw [Resolution.testModules_append_of_not_mem (not_mem_testScopes hsc b)] at hm
    exact hinv.covers_of_mem b m hm
  mem_or_implied b m h := (hinv.mem_or_implied b m h).imp_right fun hi =>
    hi.mono (fun _ h => List.mem_append_left _ h) fun _ h => h
  mem_of_covers := hinv.mem_of_covers
  unnamed_eq b := by
    simp [hinv.unnamed_eq b, Resolution.testUnnamed_append_singleton, not_mem_testScopes hsc b]

/-- A test dependency in the unnamed module marks the stages that see it. -/
theorem unnamed (hinv : WalkInv s₀ deps simplify addAll readAll exported e₀ ds w kept)
    {st : Stages} (hsc : testStages d.scope = some st) (hn : s₀.knownName d = none) :
    WalkInv s₀ deps simplify addAll readAll exported e₀ (ds ++ [d])
      { w with unnamed := w.unnamed.union st } kept where
  stage_eq := hinv.stage_eq
  keeps b := (hinv.keeps b).snoc_unseen fun _ => hn
  covers_of_mem b m hm := by
    simp only [Resolution.testModules_append_singleton, hn, Option.toList_none, ite_self,
      List.append_nil] at hm
    exact hinv.covers_of_mem b m hm
  mem_or_implied b m h := (hinv.mem_or_implied b m h).imp_right fun hi =>
    hi.mono (fun _ h => List.mem_append_left _ h) fun _ h => h
  mem_of_covers := hinv.mem_of_covers
  unnamed_eq b := by
    simp [hinv.unnamed_eq b, Resolution.testUnnamed_append_singleton, hn, has_of_testStages hsc]

/-- A module covered at every stage that sees it is added nowhere. -/
theorem covered (hinv : WalkInv s₀ deps simplify addAll readAll exported e₀ ds w kept)
    {st : Stages} {m : String} (hsc : testStages d.scope = some st) (hn : s₀.knownName d = some m)
    (hwithin : st.within ((w.covered.lookup m).getD .none) = true) :
    WalkInv s₀ deps simplify addAll readAll exported e₀ (ds ++ [d]) w kept where
  stage_eq := hinv.stage_eq
  keeps b := by
    refine (hinv.keeps b).snoc_skip hn fun hb hnot => ?_
    have hcov : w.Covers m b :=
      Stages.within_iff.mp hwithin b (by simp [has_of_testStages hsc, hb])
    exact (hinv.mem_or_implied b m hcov).resolve_left hnot
  covers_of_mem b m' hm' := by
    rw [Resolution.testModules_append_singleton] at hm'
    rcases List.mem_append.mp hm' with hm' | hm'
    · exact hinv.covers_of_mem b m' hm'
    · by_cases hb : d.scope ∈ testScopes b
      · simp only [hb, if_true, hn, Option.toList_some, List.mem_singleton] at hm'
        subst hm'
        exact Stages.within_iff.mp hwithin b (by simp [has_of_testStages hsc, hb])
      · simp [hb] at hm'
  mem_or_implied b m h := (hinv.mem_or_implied b m h).imp_right fun hi =>
    hi.mono (fun _ h => List.mem_append_left _ h) fun _ h => h
  mem_of_covers := hinv.mem_of_covers
  unnamed_eq b := by
    simp [hinv.unnamed_eq b, Resolution.testUnnamed_append_singleton, hn]

/-- The options of each stage list the exported packages once each, as those the walk started
from. -/
theorem keys_stage (hinv : WalkInv s₀ deps simplify addAll readAll exported e₀ ds w kept)
    (b : Bool) :
    Assoc.keys (w.expansion.stage b).addExports = Assoc.keys (e₀.stage b).addExports := by
  rw [hinv.stage_eq b, Directives.keys_addTests]

/-- A module not covered at every stage that sees it is added at the stages it is not covered at,
and kept there; with simplification, when a list changed, the modules its descriptor requires are
covered there, implied by it. -/
theorem add (hnd : ∀ b, (Assoc.keys (e₀.stage b).addExports).Nodup)
    (hX : ∀ b, ∀ pkg ∈ exported, pkg ∈ Assoc.keys (e₀.stage b).addExports)
    (hinv : WalkInv s₀ deps simplify addAll readAll exported e₀ ds w kept)
    {st : Stages} {m : String} (hsc : testStages d.scope = some st) (hn : s₀.knownName d = some m)
    (hwithin : st.within ((w.covered.lookup m).getD .none) = false) :
    WalkInv s₀ deps simplify addAll readAll exported e₀ (ds ++ [d])
      (w.step s₀ (s₀.observable deps) simplify addAll readAll exported d)
      fun b => if (st.diff ((w.covered.lookup m).getD .none)).has b then kept b ++ [m]
        else kept b := by
  have hcov := TestWalk.covers_step_iff (s₀.observable deps) simplify addAll readAll exported hsc hn
    hwithin
  -- the stages it is added at see it, and did not cover it
  have hmask : ∀ b, (st.diff ((w.covered.lookup m).getD .none)).has b = true ↔
      d.scope ∈ testScopes b ∧ ¬ w.Covers m b := by
    intro b
    simp [has_of_testStages hsc, TestWalk.Covers]
  have hsub : ∀ b, ∀ x ∈ kept b, x ∈ (if (st.diff ((w.covered.lookup m).getD .none)).has b
      then kept b ++ [m] else kept b) := by
    intro b x hx
    split <;> simp [hx]
  refine ⟨fun b => ?_, fun b => ?_, fun b m' hm' => ?_, fun b x hx => ?_, fun hs b x hx => ?_,
    fun b => ?_⟩
  · rw [TestWalk.step_of_not_within hsc hn hwithin]
    dsimp only
    rw [Expansion.stage_addTestModule _ _ _ _ _ _ _ (by rw [hinv.keys_stage b]; exact hnd b)
      (by rw [hinv.keys_stage b]; exact hX b), hinv.stage_eq b]
    split <;> simp [Directives.addTests_addTests]
  · by_cases hb : (st.diff ((w.covered.lookup m).getD .none)).has b
    · -- a module the stage sees first: not covered, so not seen before
      have hnotT : m ∉ s₀.testModules ds b := fun hT =>
        ((hmask b).mp hb).2 (hinv.covers_of_mem b m hT)
      simpa [hb] using (hinv.keeps b).snoc_add ((hmask b).mp hb).1 hn hnotT
    · simp only [hb]
      refine (hinv.keeps b).snoc_skip hn fun hsc' hnot => ?_
      have hc : w.Covers m b := by
        by_contra hc
        exact hb ((hmask b).mpr ⟨hsc', hc⟩)
      exact (hinv.mem_or_implied b m hc).resolve_left hnot
  · rw [Resolution.testModules_append_singleton] at hm'
    rcases List.mem_append.mp hm' with hm' | hm'
    · exact (hcov m' b).mpr (.inl (.inl (hinv.covers_of_mem b m' hm')))
    · by_cases hb : d.scope ∈ testScopes b
      · simp only [hb, if_true, hn, Option.toList_some, List.mem_singleton] at hm'
        subst hm'
        by_cases hc : w.Covers m' b
        · exact (hcov m' b).mpr (.inl (.inl hc))
        · exact (hcov m' b).mpr (.inl (.inr ⟨rfl, (hmask b).mpr ⟨hb, hc⟩⟩))
      · simp [hb] at hm'
  · rcases (hcov x b).mp hx with (hx | ⟨rfl, hb⟩) | ⟨-, D, hD, hreq, hb⟩
    · exact ((hinv.mem_or_implied b x hx).imp (hsub b x) fun hi =>
        hi.mono (fun _ h => List.mem_append_left _ h) (hsub b))
    · exact .inl (by simp [hb])
    · -- required by the module just added
      exact .inr ⟨d, by simp, ((hmask b).mp hb).1, m, D, hn, by simp [hb], hD, hreq⟩
  · rcases (hcov x b).mp hx with (hx | ⟨rfl, hb⟩) | ⟨hchanged, -⟩
    · exact hsub b x (hinv.mem_of_covers hs b x hx)
    · simp [hb]
    · simp [hs] at hchanged
  · rw [TestWalk.step_of_not_within hsc hn hwithin]
    simp [hinv.unnamed_eq b, Resolution.testUnnamed_append_singleton, hn]

/-- Each step of the walk keeps the invariant, with the modules kept at each stage extended. -/
theorem step (hnd : ∀ b, (Assoc.keys (e₀.stage b).addExports).Nodup)
    (hX : ∀ b, ∀ pkg ∈ exported, pkg ∈ Assoc.keys (e₀.stage b).addExports)
    (hinv : WalkInv s₀ deps simplify addAll readAll exported e₀ ds w kept) (d : Dependency) :
    ∃ kept', WalkInv s₀ deps simplify addAll readAll exported e₀ (ds ++ [d])
      (w.step s₀ (s₀.observable deps) simplify addAll readAll exported d) kept' := by
  cases hsc : testStages d.scope with
  | none =>
    rw [TestWalk.step_of_testStages_eq_none hsc]
    exact ⟨kept, hinv.skip hsc⟩
  | some st =>
    cases hn : s₀.knownName d with
    | none =>
      rw [TestWalk.step_of_knownName_eq_none hsc hn]
      exact ⟨kept, hinv.unnamed hsc hn⟩
    | some m =>
      cases hwithin : st.within ((w.covered.lookup m).getD .none) with
      | true =>
        rw [TestWalk.step_of_within hsc hn hwithin]
        exact ⟨kept, hinv.covered hsc hn hwithin⟩
      | false => exact ⟨_, hinv.add hnd hX hsc hn hwithin⟩

/-- After the walk, each stage holds the options it started from with the modules kept appended,
then the unnamed module where a dependency in it was seen. -/
theorem stage_finish (hnd : ∀ b, (Assoc.keys (e₀.stage b).addExports).Nodup)
    (hX : ∀ b, ∀ pkg ∈ exported, pkg ∈ Assoc.keys (e₀.stage b).addExports)
    (hinv : WalkInv s₀ deps simplify addAll readAll exported e₀ ds w kept) (b : Bool) :
    (w.finish readAll exported).stage b =
      ((e₀.stage b).addTests addAll readAll exported (kept b)).addTests false readAll exported
        (if s₀.testUnnamed ds b then [allUnnamed] else []) := by
  unfold TestWalk.finish
  split
  · rw [Expansion.stage_addUnnamed _ _ _ _ _ (by rw [hinv.keys_stage b]; exact hnd b)
      (by rw [hinv.keys_stage b]; exact hX b), hinv.unnamed_eq b, hinv.stage_eq b]
    cases s₀.testUnnamed ds b <;> simp
  · rename_i hnone
    have hu : s₀.testUnnamed ds b = false := by
      rw [← hinv.unnamed_eq b]
      exact Stages.isNone_iff.mp (by simpa using hnone) b
    rw [hinv.stage_eq b, hu]
    simp

/-- Without simplification, a stage keeps every module it sees, once each in order. -/
theorem kept_eq_eraseDups (hs : simplify = false)
    (hinv : WalkInv s₀ deps simplify addAll readAll exported e₀ ds w kept) (b : Bool) :
    kept b = (s₀.testModules ds b).eraseDups :=
  (hinv.keeps b).1.eq_of_length_le <| (eraseDups_nodup _).length_le_of_subset fun x hx =>
    hinv.mem_of_covers hs b x (hinv.covers_of_mem b x (List.mem_eraseDups.mp hx))

end WalkInv

variable (s₀ deps simplify addAll readAll exported) in
/-- The walk over any dependencies keeps the invariant, from nothing covered. -/
theorem walkInv_foldl (hnd : ∀ b, (Assoc.keys (e₀.stage b).addExports).Nodup)
    (hX : ∀ b, ∀ pkg ∈ exported, pkg ∈ Assoc.keys (e₀.stage b).addExports)
    (ds : List Dependency) :
    ∃ kept, WalkInv s₀ deps simplify addAll readAll exported e₀ ds
      (ds.foldl (TestWalk.step s₀ (s₀.observable deps) simplify addAll readAll exported)
        ⟨e₀, [], .none⟩) kept := by
  induction ds using List.reverseRecOn with
  | nil => exact ⟨_, walkInv_nil s₀ deps simplify addAll readAll exported e₀⟩
  | append_singleton ds d ih =>
    obtain ⟨kept, hinv⟩ := ih
    rw [List.foldl_append, List.foldl_cons, List.foldl_nil]
    exact hinv.step hnd hX d

end Walk

/-- Keeping every module a stage sees, once each in order, is keeping. -/
theorem keeps_eraseDups (ds : List Dependency) (b : Bool) :
    Keeps s₀ deps ds b (s₀.testModules ds b).eraseDups := by
  refine ⟨List.Sublist.refl _, fun pre d post hsplit hsc x hx hnot => absurd ?_ hnot⟩
  rw [List.mem_eraseDups, Resolution.testModules, List.mem_filterMap]
  exact ⟨d, List.mem_filter.mpr ⟨by simp [hsplit], by simpa using hsc⟩, hx⟩

end Covering

end Patch

/-- The walk reads the modules of the dependencies off the resolution, which learns nothing a later
question would see. -/
theorem Resolution.Extends.step_eq {s r : Resolution} (hs : s.Extends r)
    (observable : List Descriptor) (simplify addAll readAll : Bool) (exported : List String) :
    Patch.TestWalk.step s observable simplify addAll readAll exported =
      Patch.TestWalk.step r observable simplify addAll readAll exported := by
  funext w d
  simp only [Patch.TestWalk.step, hs.knownName_eq, hs.knownDescriptor_eq]

namespace Patch

/-- The options that resolving a patch gives, when the modules of its dependencies are known: the
declared options with `SUBPROJECT-MODULES` expanded, then, when a list names the test module path,
walked over the dependencies. -/
def walkExpansion (p : ModulePatch) (shared : SharedModules) (resolution : Option Resolution)
    (pm : List String) (simplify : Bool) (s₀ : Resolution) : Expansion :=
  let e₀ := expandSubprojects p pm ⟨p.declared shared, p.declared shared⟩
  let addAll := shared.addModules.contains testModulePath
  let readAll := p.addReads.contains testModulePath
  let exported := (p.addExports.filter fun x => x.2.contains testModulePath).map (·.1)
  match resolution with
  | some r =>
    if addAll || readAll || p.addExports.any (fun x => x.2.contains testModulePath) then
      TestWalk.finish readAll exported (r.dependencies.foldl
        (TestWalk.step s₀ (s₀.observable r.dependencies) simplify addAll readAll exported)
        ⟨e₀, [], .none⟩)
    else e₀
  | none => e₀

/-- Resolving a patch, with or without simplification, when the modules of its dependencies are
known: it returns the options of `walkExpansion` when the check passes, and fails at the first
module refused otherwise. The host is left as it was. -/
theorem resolve_walk_spec (p : ModulePatch) (shared : SharedModules) (resolution : Option Resolution)
    (pm : List String) (simplify : Bool) (s₀ : Resolution) (h₀ : Host)
    (hknows : ∀ d ∈ (resolution.getD {}).dependencies, s₀.Knows d) :
    ⦃fun s h => ⌜s = s₀ ∧ h = h₀⌝⦄ p.resolve shared resolution pm simplify
    ⦃post⟨fun o _ h => ⌜h = h₀ ∧
        (∀ m ∈ declaredModules shared p, mayName (knownList p (resolution.getD {}) s₀ pm) m = true) ∧
        o = ⟨p.moduleName, (walkExpansion p shared resolution pm simplify s₀).compile,
          (walkExpansion p shared resolution pm simplify s₀).runtime⟩⌝,
      fun e h => ⌜h = h₀ ∧ ∃ pre m post, declaredModules shared p = pre ++ m :: post ∧
        (∀ m' ∈ pre, mayName (knownList p (resolution.getD {}) s₀ pm) m' = true) ∧
        mayName (knownList p (resolution.getD {}) s₀ pm) m = false ∧ e = unknownModule p m⌝⟩⦄ := by
  cases resolution with
  | none =>
    mvcgen [ModulePatch.resolve, knownModules_spec, checkReferences_spec]
    case vc1 =>
      rename_i hpre
      exact hpre.1 ▸ hknows
    case vc2 =>
      rename_i s₁ h₁ hpre known _ s₂ h₂ hknown _ s₃ h₃ hcheck
      obtain ⟨hs₁, hh₁⟩ := hpre
      obtain ⟨hk, -, hh₂⟩ := hknown
      obtain ⟨-, hh₃, hnames⟩ := hcheck
      subst s₁ h₁ h₂ h₃ known
      exact ⟨rfl, hnames, rfl⟩
    case vc3 =>
      rename_i s₁ h₁ hpre known _ s₂ h₂ hknown _ h₃
      intro hh₃ hfail
      obtain ⟨hs₁, hh₁⟩ := hpre
      obtain ⟨hk, -, hh₂⟩ := hknown
      subst s₁ h₁ h₂ h₃ known
      exact ⟨rfl, hfail⟩
  | some r =>
    mvcgen [ModulePatch.resolve, knownModules_spec, expandTestPath_eq_walk, checkReferences_spec]
    case vc1 =>
      rename_i hpre
      exact hpre.1 ▸ hknows
    case vc2 =>
      rename_i hpre _ _ _ _ _ _ hknown
      intro d hd
      exact hknown.2.1.knows (hpre.1 ▸ hknows d hd)
    -- the test module path walked over the dependencies
    case vc3 =>
      rename_i s₁ h₁ hpre known _ _ hcond s₂ h₂ hknown e s₃ h₃ hexpand _ s₄ h₄ hcheck
      obtain ⟨hs₁, hh₁⟩ := hpre
      obtain ⟨hk, hext, hh₂⟩ := hknown
      obtain ⟨he, -, hh₃⟩ := hexpand
      obtain ⟨-, hh₄, hnames⟩ := hcheck
      subst s₁ h₁ h₂ h₃ h₄ known
      have hext : s₂.Extends s₀ := hext
      rw [hext.step_eq, hext.observable_eq] at he
      subst he
      refine ⟨rfl, hnames, ?_⟩
      rw [walkExpansion]
      rw [if_pos hcond]
    case vc4 =>
      rename_i s₁ h₁ hpre known _ _ _ s₂ h₂ hknown _ s₃ h₃ hexpand _ h₄
      intro hh₄ hfail
      obtain ⟨hs₁, hh₁⟩ := hpre
      obtain ⟨hk, -, hh₂⟩ := hknown
      obtain ⟨-, -, hh₃⟩ := hexpand
      subst s₁ h₁ h₂ h₃ h₄ known
      exact ⟨rfl, hfail⟩
    -- no list names the test module path: nothing to walk
    case vc5 =>
      rename_i s₁ h₁ hpre known _ _ hcond s₂ h₂ hknown _ s₃ h₃ hcheck
      obtain ⟨hs₁, hh₁⟩ := hpre
      obtain ⟨hk, -, hh₂⟩ := hknown
      obtain ⟨-, hh₃, hnames⟩ := hcheck
      subst s₁ h₁ h₂ h₃ known
      refine ⟨rfl, hnames, ?_⟩
      rw [walkExpansion]
      rw [if_neg hcond]
    case vc6 =>
      rename_i s₁ h₁ hpre known _ _ _ s₂ h₂ hknown _ h₃
      intro hh₃ hfail
      obtain ⟨hs₁, hh₁⟩ := hpre
      obtain ⟨hk, -, hh₂⟩ := hknown
      subst s₁ h₁ h₂ h₃ known
      exact ⟨rfl, hfail⟩

/-- Each stage of what resolving a patch that exports each package once gives is the declared
options with the placeholders expanded over modules that the stage keeps of its test dependencies
(`Keeps`), all of them without simplification. -/
theorem exists_kept_stage_walkExpansion (p : ModulePatch) (shared : SharedModules)
    (resolution : Option Resolution) (pm : List String) (simplify : Bool) (s₀ : Resolution)
    (hkeys : (Assoc.keys p.addExports).Nodup) :
    ∃ kept : Bool → List String,
      (∀ b, Keeps s₀ (resolution.getD {}).dependencies (resolution.getD {}).dependencies b
        (kept b)) ∧
      (simplify = false →
        ∀ b, kept b = (s₀.testModules (resolution.getD {}).dependencies b).eraseDups) ∧
      ∀ b, (walkExpansion p shared resolution pm simplify s₀).stage b =
        expanded p shared pm (kept b) (s₀.testUnnamed (resolution.getD {}).dependencies b) := by
  have hexp := fun tests unnamed b => addTests_expandSubprojects p shared pm tests unnamed b hkeys
  have hpkeys := keys_stage_expandSubprojects p shared pm hkeys
  cases resolution with
  | none =>
    -- without dependencies the test module path stands for nothing
    refine ⟨fun _ => [], fun b => keeps_eraseDups [] b, fun _ b => by simp [Resolution.testModules],
      fun b => ?_⟩
    have hb := hexp [] false b
    simp only [Directives.addTests_nil, Bool.false_eq_true, ↓reduceIte] at hb
    exact hb.trans (by simp [Resolution.testUnnamed])
  | some r =>
    simp only [Option.getD_some]
    by_cases hcond : (shared.addModules.contains testModulePath ||
      p.addReads.contains testModulePath ||
      p.addExports.any fun x => x.2.contains testModulePath) = true
    · have hnd := fun b => (hpkeys b).symm ▸ hkeys
      have hX : ∀ b, ∀ pkg ∈ (p.addExports.filter fun x => x.2.contains testModulePath).map (·.1),
          pkg ∈ Assoc.keys ((expandSubprojects p pm
            ⟨p.declared shared, p.declared shared⟩).stage b).addExports := by
        intro b pkg hpkg
        obtain ⟨x, hx, rfl⟩ := List.mem_map.mp hpkg
        rw [hpkeys b]
        exact List.mem_map_of_mem (List.mem_filter.mp hx).1
      obtain ⟨kept, hinv⟩ := walkInv_foldl s₀ r.dependencies simplify
        (shared.addModules.contains testModulePath) (p.addReads.contains testModulePath) _ hnd hX
        r.dependencies
      refine ⟨kept, hinv.keeps, fun hs => hinv.kept_eq_eraseDups hs, fun b => ?_⟩
      rw [walkExpansion]
      rw [if_pos hcond]
      exact (hinv.stage_finish hnd hX b).trans (hexp _ _ b)
    · -- no list names the test module path: any modules kept give the same options
      refine ⟨fun b => (s₀.testModules r.dependencies b).eraseDups,
        fun b => keeps_eraseDups r.dependencies b, fun _ _ => rfl, fun b => ?_⟩
      rw [walkExpansion]
      rw [if_neg hcond]
      simp only [Bool.or_eq_true, not_or, Bool.not_eq_true] at hcond
      obtain ⟨⟨hA, hR⟩, hX⟩ := hcond
      have hnil : (p.addExports.filter fun x => x.2.contains testModulePath).map (·.1) = [] := by
        simpa [List.any_eq_false] using hX
      have hb := hexp ((s₀.testModules r.dependencies b).eraseDups) (s₀.testUnnamed r.dependencies b) b
      simp only [hA, hR, hnil, Directives.addTests_none] at hb
      exact hb

/-! ## The lists of a stage -/

theorem eraseDups_eq_self_of_nodup : ∀ {l : List String}, l.Nodup → l.eraseDups = l
  | [], _ => rfl
  | a :: l, h => by
    rw [List.nodup_cons] at h
    have hne : ∀ b ∈ l, (!b == a) = true := by
      intro b hb
      have hba : b ≠ a := fun hba => h.1 (hba ▸ hb)
      simpa using hba
    rw [List.eraseDups_cons, List.filter_eq_self.mpr hne, eraseDups_eq_self_of_nodup h.2]

/-- Dropping duplicates and filtering commute. -/
theorem eraseDups_filter (q : String → Bool) : ∀ l : List String,
    (l.filter q).eraseDups = l.eraseDups.filter q
  | [] => rfl
  | a :: l => by
    have ih := eraseDups_filter q (l.filter fun b => !b == a)
    rw [List.eraseDups_cons, List.filter_cons]
    by_cases hq : q a = true
    · rw [if_pos hq, List.eraseDups_cons, List.filter_cons_of_pos hq, ← ih, List.filter_filter,
        List.filter_filter]
      congr 2
      exact List.filter_congr fun b _ => Bool.and_comm _ _
    · rw [if_neg hq, List.filter_cons_of_neg hq, ← ih, List.filter_filter]
      -- what `q` filters out includes `a`
      congr 1
      apply List.filter_congr
      intro b _
      by_cases hb : b = a
      · subst hb
        simp [hq]
      · simp [hb]
termination_by l => l.length
decreasing_by exact Nat.lt_succ_of_le (List.length_filter_le _ _)

namespace Declaration

theorem mem_appendNew {xs ys : List String} {x : String} :
    x ∈ appendNew xs ys ↔ x ∈ xs ∨ x ∈ ys := by
  by_cases hx : x ∈ xs <;> simp [appendNew, hx]

/-- Appending to a sublist what both lists hold or both lack keeps a sublist. -/
theorem appendNew_sublist_of_sublist {xs xs' us : List String} (h : List.Sublist xs xs')
    (hsame : ∀ u ∈ us, u ∈ xs ↔ u ∈ xs') : List.Sublist (appendNew xs us) (appendNew xs' us) := by
  have hfilter : us.filter (fun x => !xs.contains x) = us.filter (fun x => !xs'.contains x) :=
    List.filter_congr fun u hu => by simp [hsame u hu]
  rw [appendNew, appendNew, hfilter]
  exact h.append_right _

/-- Appending a duplicate-free sublist of the first occurrences of `ts`, then `us` that `ts` does
not hold, gives a sublist of appending `ts` then `us`. -/
theorem appendNew_sublist_appendNew {xs ks ts us : List String}
    (hks : List.Sublist ks ts.eraseDups) (hus : ∀ u ∈ us, u ∉ ts) :
    List.Sublist (appendNew xs (ks ++ us)) (appendNew xs (ts ++ us)) := by
  have hnd : ks.Nodup := hks.nodup (eraseDups_nodup ts)
  -- the kept items are among the first occurrences, in order
  have hfirst : List.Sublist (appendNew xs ks) (appendNew xs ts) := by
    rw [appendNew, appendNew, eraseDups_eq_self_of_nodup (hnd.filter _), eraseDups_filter]
    exact (hks.filter _).append_left xs
  -- the items of `us` are listed by both or by neither
  have hsame : ∀ u ∈ us, (u ∈ appendNew xs ks ↔ u ∈ appendNew xs ts) := by
    intro u hu
    have hut := hus u hu
    have huk : u ∉ ks := fun h => hut (List.mem_eraseDups.mp (hks.subset h))
    simp [mem_appendNew, hut, huk]
  rw [← appendNew_appendNew, ← appendNew_appendNew]
  exact appendNew_sublist_of_sublist hfirst hsame

end Declaration

/-- The lists of a stage that name modules one by one: the added modules, the read modules, and
the targets of an exported package. -/
inductive ModuleList
  | added
  | read
  | exportedTo (pkg : String)

/-- The modules a list of a stage names. -/
def Directives.modules (d : Directives) : ModuleList → List String
  | .added => d.addModules
  | .read => d.addReads
  | .exportedTo pkg => (d.addExports.lookup pkg).getD []

/-- The options of one stage: at run time, or at compile time. -/
def Options.stage (o : Options) (atRuntime : Bool) : Directives :=
  if atRuntime then o.runtime else o.compile

theorem lookup_map_fst (l : List (String × List String)) (f : String × List String → List String)
    (k : String) :
    (l.map fun x => (x.1, f x)).lookup k = (l.find? fun x => k == x.1).map f := by
  induction l with
  | nil => rfl
  | cons x l ih =>
    by_cases hk : k = x.1
    · simp [hk]
    · have hkx : (k == x.1) = false := by simpa using hk
      simp [List.lookup, hkx, ih]

/-- Each list of the expansion is a base, the same for all test modules, with the test modules
appended, and the unnamed module after them where the list may name it. -/
theorem modules_expanded (p : ModulePatch) (shared : SharedModules) (pm : List String) (l : ModuleList) :
    ∃ (base : List String) (gains named : Bool), ∀ tests unnamed,
      (expanded p shared pm tests unnamed).modules l =
      Declaration.appendNew base
        (if gains then tests ++ (if named && unnamed then [allUnnamed] else []) else []) := by
  cases l with
  | added =>
    refine ⟨shared.addModules.filter (· ≠ testModulePath), shared.addModules.contains testModulePath,
      false, fun tests unnamed => ?_⟩
    simp only [expanded, Directives.modules]
    split <;> simp
  | read =>
    refine ⟨p.addReads.filter (· ≠ testModulePath), p.addReads.contains testModulePath, true,
      fun tests unnamed => ?_⟩
    simp only [expanded, Directives.modules]
    split <;> simp
  | exportedTo pkg =>
    simp only [expanded, Directives.modules, lookup_map_fst]
    cases hfind : p.addExports.find? (fun x => pkg == x.1) with
    | none => exact ⟨[], false, false, fun _ _ => by simp [Declaration.appendNew]⟩
    | some x =>
      refine ⟨Declaration.appendNew (x.2.filter fun t => !([testModulePath, subprojectModules].contains t))
          (if x.2.contains subprojectModules then pm.filter (some · != p.moduleName) else []),
        x.2.contains testModulePath, true, fun tests unnamed => ?_⟩
      simp only [Option.map_some, Option.getD_some, Declaration.appendNew_appendNew]
      split <;> simp

theorem Options.stage_mk (n : Option String) (c r : Directives) (b : Bool) :
    (Options.mk n c r).stage b = if b then r else c := rfl

/-- A list built from a base with the modules a stage keeps, and the same list with all the
modules it sees: the first is a sublist of the second when the unnamed module it may end with
is not one of them. -/
theorem appendNew_kept_sublist {base ks ts us : List String} (gains : Bool)
    (hks : List.Sublist ks ts.eraseDups) (hus : ∀ u ∈ us, u ∉ ts) :
    List.Sublist (Declaration.appendNew base (if gains then ks ++ us else []))
      (Declaration.appendNew base (if gains then ts.eraseDups ++ us else [])) := by
  cases gains with
  | false => exact List.Sublist.refl _
  | true =>
    have hks' : List.Sublist ks ts.eraseDups.eraseDups := by
      rwa [eraseDups_eq_self_of_nodup (eraseDups_nodup ts)]
    exact Declaration.appendNew_sublist_appendNew hks' fun u hu hmem =>
      hus u hu (List.mem_eraseDups.mp hmem)

/-- Resolving a patch whose named modules may all be named, when the modules of its dependencies
are known, returns the options of `walkExpansion` and leaves the host as it was. -/
theorem resolve_run_eq_walkExpansion (p : ModulePatch) (shared : SharedModules)
    (resolution : Option Resolution) (pm : List String) (simplify : Bool) (s : Resolution)
    (h : Host) (hknows : ∀ d ∈ (resolution.getD {}).dependencies, s.Knows d)
    (hall : ∀ m ∈ declaredModules shared p, Nameable p (resolution.getD {}) s pm m) :
    ∃ s', ((p.resolve shared resolution pm simplify).run s).run.run h =
      (.ok (⟨p.moduleName, (walkExpansion p shared resolution pm simplify s).compile,
        (walkExpansion p shared resolution pm simplify s).runtime⟩, s'), h) := by
  have hspec := resolve_walk_spec p shared resolution pm simplify s h hknows
  rcases hrun : ((p.resolve shared resolution pm simplify).run s).run.run h with
    ⟨_ | ⟨o, s'⟩, h'⟩
  · -- a failure would name a module that may not be named
    obtain ⟨-, pre, m, post, hdecl, -, hbad, -⟩ := ResolveM.error_of_triple hspec ⟨rfl, rfl⟩ hrun
    have hgood := (mayName_knownList_iff p _ s pm m).mpr (hall m (by simp [hdecl]))
    simp [hgood] at hbad
  · obtain ⟨rfl, -, rfl⟩ := ResolveM.ok_of_triple hspec ⟨rfl, rfl⟩ hrun
    exact ⟨s', rfl⟩

/-- Resolving a patch whose named modules may all be named, when the modules of its dependencies
are known and the patch exports each package once, returns at each stage the expansion over the
modules the stage keeps, all it sees without simplification, and leaves the host as it was. -/
theorem resolve_eq_expanded_kept (p : ModulePatch) (shared : SharedModules)
    (resolution : Option Resolution) (pm : List String) (simplify : Bool) (s : Resolution)
    (h : Host) (hknows : ∀ d ∈ (resolution.getD {}).dependencies, s.Knows d)
    (hkeys : (Assoc.keys p.addExports).Nodup)
    (hall : ∀ m ∈ declaredModules shared p, Nameable p (resolution.getD {}) s pm m) :
    ∃ (kept : Bool → List String) (s' : Resolution),
      (∀ b, Keeps s (resolution.getD {}).dependencies (resolution.getD {}).dependencies b (kept b)) ∧
      (simplify = false →
        ∀ b, kept b = (s.testModules (resolution.getD {}).dependencies b).eraseDups) ∧
      ((p.resolve shared resolution pm simplify).run s).run.run h =
        (.ok (⟨p.moduleName,
          expanded p shared pm (kept false) (s.testUnnamed (resolution.getD {}).dependencies false),
          expanded p shared pm (kept true) (s.testUnnamed (resolution.getD {}).dependencies true)⟩,
          s'), h) := by
  obtain ⟨kept, hkeeps, hfalse, hstage⟩ :=
    exists_kept_stage_walkExpansion p shared resolution pm simplify s hkeys
  obtain ⟨s', hrun⟩ := resolve_run_eq_walkExpansion p shared resolution pm simplify s h hknows hall
  refine ⟨kept, s', hkeeps, hfalse, ?_⟩
  rw [hrun, ← hstage false, ← hstage true]
  rfl

/-- Simplification only drops implied modules. Resolve a patch whose named modules may all be
named, its dependencies' modules known and each package exported once, with and without
simplification: both return, and leave the host as it was. At each stage, each list of modules
with simplification keeps what it holds without test dependencies and every entry that is not
the module of a test dependency the stage sees, and is a sublist of the list without
simplification unless such a module is named `ALL-UNNAMED`. A module it leaves out is the module
of a test dependency the stage sees, and for each such dependency, one before it that the stage
sees has its module in the list and a descriptor that requires the module left out, directly or
through `requires transitive` among the observable modules. -/
theorem resolve_simplified_drops_only_implied (p : ModulePatch) (shared : SharedModules)
    (resolution : Option Resolution) (pm : List String) (s : Resolution) (h : Host)
    (hknows : ∀ d ∈ (resolution.getD {}).dependencies, s.Knows d)
    (hkeys : (Assoc.keys p.addExports).Nodup)
    (hall : ∀ m ∈ declaredModules shared p, Nameable p (resolution.getD {}) s pm m) :
    let deps := (resolution.getD {}).dependencies
    ∃ o₁ s₁ o₂ s₂, ((p.resolve shared resolution pm false).run s).run.run h = (.ok (o₁, s₁), h) ∧
      ((p.resolve shared resolution pm true).run s).run.run h = (.ok (o₂, s₂), h) ∧
      o₂.moduleName = o₁.moduleName ∧
      ∀ b l,
        (allUnnamed ∉ s.testModules deps b →
          List.Sublist ((o₂.stage b).modules l) ((o₁.stage b).modules l)) ∧
        (∀ x ∈ (expanded p shared pm [] false).modules l, x ∈ (o₂.stage b).modules l) ∧
        (∀ x ∈ (o₁.stage b).modules l, x ∉ s.testModules deps b → x ∈ (o₂.stage b).modules l) ∧
        (∀ x ∈ (o₁.stage b).modules l, x ∉ (o₂.stage b).modules l → x ∈ s.testModules deps b ∧
          ∀ pre d post, deps = pre ++ d :: post → d.scope ∈ testScopes b →
            s.knownName d = some x → ∃ d₀ ∈ pre, d₀.scope ∈ testScopes b ∧ ∃ m₀ D₀,
              s.knownName d₀ = some m₀ ∧ m₀ ∈ (o₂.stage b).modules l ∧
              s.knownDescriptor d₀ = some D₀ ∧ x ∈ requiredNames (s.observable deps) D₀ ∧
              RequiredBy (s.observable deps) D₀ x) := by
  intro deps
  obtain ⟨all, s₁, -, hall₁, hrun₁⟩ :=
    resolve_eq_expanded_kept p shared resolution pm false s h hknows hkeys hall
  obtain ⟨kept, s₂, hkeeps, -, hrun₂⟩ :=
    resolve_eq_expanded_kept p shared resolution pm true s h hknows hkeys hall
  refine ⟨_, s₁, _, s₂, hrun₁, hrun₂, rfl, fun b l => ?_⟩
  obtain ⟨base, gains, named, hshape⟩ := modules_expanded p shared pm l
  have hstage : ∀ (k : Bool → List String), ((Options.mk p.moduleName
      (expanded p shared pm (k false) (s.testUnnamed deps false))
      (expanded p shared pm (k true) (s.testUnnamed deps true))).stage b).modules l =
      Declaration.appendNew base (if gains then k b ++
        (if named && s.testUnnamed deps b then [allUnnamed] else []) else []) := by
    intro k
    cases b <;> simp [Options.stage_mk, hshape]
  rw [hstage, hstage, hall₁ rfl b]
  obtain ⟨hsub, hcover⟩ := hkeeps b
  -- the unnamed module ends both lists or neither
  have hus : ∀ u ∈ (if named && s.testUnnamed deps b then [allUnnamed] else []), u = allUnnamed := by
    intro u hu
    split at hu <;> simp_all
  refine ⟨fun hau => appendNew_kept_sublist gains hsub fun u hu hut => hau (hus u hu ▸ hut),
    fun x hx => ?_, fun x hx hxT => ?_, fun x hx hxs => ?_⟩
  · rw [hshape] at hx
    simp only [Bool.and_false, Bool.false_eq_true, if_false, List.append_nil, ite_self,
      Declaration.appendNew_nil_right] at hx
    exact Declaration.mem_appendNew.mpr (.inl hx)
  · rcases Declaration.mem_appendNew.mp hx with hx | hx
    · exact Declaration.mem_appendNew.mpr (.inl hx)
    · split at hx
      · rcases List.mem_append.mp hx with hx | hx
        · exact absurd (List.mem_eraseDups.mp hx) hxT
        · exact Declaration.mem_appendNew.mpr (.inr (by simp_all))
      · simp at hx
  · -- a module left out is a module of a test dependency that the stage does not keep
    have hgains : gains = true := by
      cases gains
      · simp_all
      · rfl
    have hxT : x ∈ s.testModules deps b ∧ x ∉ kept b := by
      simp only [hgains, if_true, Declaration.mem_appendNew, List.mem_append, List.mem_eraseDups,
        not_or] at hx hxs
      rcases hx with hx | hx | hx
      · exact absurd hx hxs.1
      · exact ⟨hx, hxs.2.1⟩
      · exact absurd hx hxs.2.2
    refine ⟨hxT.1, fun pre d post hsplit hsc hn => ?_⟩
    obtain ⟨d₀, hd₀, hsc₀, m₀, D₀, hn₀, hm₀, hD₀, hreq⟩ := hcover pre d post hsplit hsc x hn hxT.2
    refine ⟨d₀, hd₀, hsc₀, m₀, D₀, hn₀, ?_, hD₀, hreq, requiredBy_of_mem_requiredNames hreq⟩
    simp [hgains, Declaration.mem_appendNew, hm₀]

/-! ## Two runs on fixed inputs -/

/-- A patch of `org.foo` that reads the test module path. -/
def testPathReader : ModulePatch := { moduleName := some "org.foo", addReads := [testModulePath] }

/-- The descriptor of `org.a`, which requires the module `org.b`. -/
def projectRequirer : Descriptor := { name := "org.a", requires := [("org.b", [])] }

/-- A test dependency described by `projectRequirer`. -/
def projectRequirerDependency : Dependency :=
  { group := "g", artifact := "a", version := "1", scope := .test, path := "a.jar",
    descriptor := some projectRequirer }

/-- Test dependencies: `org.a`, then `org.b`. -/
def projectRequirerResolution : Resolution :=
  { dependencies :=
      [projectRequirerDependency,
       { group := "g", artifact := "b", version := "1", scope := .test, path := "b.jar",
         moduleName := some "org.b" }] }

/-- The only module `testPathReader` names is the test module path, which may always be named. -/
theorem nameable_testPathReader (r s : Resolution) (pm : List String) :
    ∀ m ∈ declaredModules {} testPathReader, Nameable testPathReader r s pm m := by
  have hdecl : declaredModules {} testPathReader = [testModulePath] := rfl
  intro m hm
  rw [hdecl, List.mem_singleton] at hm
  subst hm
  exact .inl (by decide)

/-- Resolving `testPathReader` over `projectRequirerResolution` meets the assumptions of
`resolve_simplified_drops_only_implied`, which then describes the two runs. -/
theorem resolve_simplified_drops_only_implied_of_project_requirer :
    (∀ d ∈ projectRequirerResolution.dependencies, projectRequirerResolution.Knows d) ∧
    (Assoc.keys testPathReader.addExports).Nodup ∧
    (∀ m ∈ declaredModules {} testPathReader,
      Nameable testPathReader projectRequirerResolution projectRequirerResolution ["org.b"] m) ∧
    let deps := projectRequirerResolution.dependencies
    ∃ o₁ s₁ o₂ s₂,
      ((testPathReader.resolve {} (some projectRequirerResolution) ["org.b"] false).run
          projectRequirerResolution).run.run default = (.ok (o₁, s₁), default) ∧
      ((testPathReader.resolve {} (some projectRequirerResolution) ["org.b"] true).run
          projectRequirerResolution).run.run default = (.ok (o₂, s₂), default) ∧
      o₂.moduleName = o₁.moduleName ∧
      ∀ b l,
        (allUnnamed ∉ projectRequirerResolution.testModules deps b →
          List.Sublist ((o₂.stage b).modules l) ((o₁.stage b).modules l)) ∧
        (∀ x ∈ (expanded testPathReader {} ["org.b"] [] false).modules l,
          x ∈ (o₂.stage b).modules l) ∧
        (∀ x ∈ (o₁.stage b).modules l, x ∉ projectRequirerResolution.testModules deps b →
          x ∈ (o₂.stage b).modules l) ∧
        (∀ x ∈ (o₁.stage b).modules l, x ∉ (o₂.stage b).modules l →
          x ∈ projectRequirerResolution.testModules deps b ∧
          ∀ pre d post, deps = pre ++ d :: post → d.scope ∈ testScopes b →
            projectRequirerResolution.knownName d = some x → ∃ d₀ ∈ pre, d₀.scope ∈ testScopes b ∧
              ∃ m₀ D₀, projectRequirerResolution.knownName d₀ = some m₀ ∧
                m₀ ∈ (o₂.stage b).modules l ∧
                projectRequirerResolution.knownDescriptor d₀ = some D₀ ∧
                x ∈ requiredNames (projectRequirerResolution.observable deps) D₀ ∧
                RequiredBy (projectRequirerResolution.observable deps) D₀ x) := by
  have hknows : ∀ d ∈ projectRequirerResolution.dependencies, projectRequirerResolution.Knows d := by
    decide
  have hkeys : (Assoc.keys testPathReader.addExports).Nodup := by decide
  have hall := nameable_testPathReader projectRequirerResolution projectRequirerResolution ["org.b"]
  exact ⟨hknows, hkeys, hall, resolve_simplified_drops_only_implied testPathReader {}
    (some projectRequirerResolution) ["org.b"] projectRequirerResolution default hknows hkeys hall⟩

/-- The descriptor of `org.a`, which requires a module named `ALL-UNNAMED`. -/
def unnamedRequirer : Descriptor := { name := "org.a", requires := [(allUnnamed, [])] }

/-- A test dependency described by `unnamedRequirer`. -/
def unnamedRequirerDependency : Dependency :=
  { group := "g", artifact := "a", version := "1", scope := .test, path := "a.jar",
    descriptor := some unnamedRequirer }

/-- Test dependencies: `org.a`, a module named `ALL-UNNAMED`, `org.c`, and an artifact read
before that is in the unnamed module. -/
def unnamedRequirerResolution : Resolution :=
  { dependencies :=
      [unnamedRequirerDependency,
       { group := "g", artifact := "b", version := "1", scope := .test, path := "b.jar",
         moduleName := some allUnnamed },
       { group := "g", artifact := "c", version := "1", scope := .test, path := "c.jar",
         moduleName := some "org.c" },
       { group := "g", artifact := "u", version := "1", scope := .test, path := "u.jar" }],
    read := [("u.jar", none)] }

/-- Simplification is not a matter of dropping entries only. A module of the project that a test
dependency provides is left out when an earlier test dependency requires it; and a test
dependency's module named `ALL-UNNAMED`, left out the same way, comes back at the end of the read
modules for the artifacts in the unnamed module, behind modules that followed it. -/
theorem resolve_simplified_drops_project_module_and_moves_unnamed :
    (∃ o₁ s₁ o₂ s₂,
      ((testPathReader.resolve {} (some projectRequirerResolution) ["org.b"] false).run
          projectRequirerResolution).run.run default = (.ok (o₁, s₁), default) ∧
      ((testPathReader.resolve {} (some projectRequirerResolution) ["org.b"] true).run
          projectRequirerResolution).run.run default = (.ok (o₂, s₂), default) ∧
      o₁.compile.addReads = ["org.a", "org.b"] ∧ o₂.compile.addReads = ["org.a"]) ∧
    (∃ o₁ s₁ o₂ s₂,
      ((testPathReader.resolve {} (some unnamedRequirerResolution) [] false).run
          unnamedRequirerResolution).run.run default = (.ok (o₁, s₁), default) ∧
      ((testPathReader.resolve {} (some unnamedRequirerResolution) [] true).run
          unnamedRequirerResolution).run.run default = (.ok (o₂, s₂), default) ∧
      o₁.compile.addReads = ["org.a", allUnnamed, "org.c"] ∧
      o₂.compile.addReads = ["org.a", "org.c", allUnnamed] ∧
      ¬ List.Sublist o₂.compile.addReads o₁.compile.addReads) := by
  constructor
  · have hknows : ∀ d ∈ projectRequirerResolution.dependencies, projectRequirerResolution.Knows d := by
      decide
    obtain ⟨s₁, hrun₁⟩ := resolve_run_eq_walkExpansion testPathReader {} (some projectRequirerResolution)
      ["org.b"] false projectRequirerResolution default hknows (nameable_testPathReader _ _ _)
    obtain ⟨s₂, hrun₂⟩ := resolve_run_eq_walkExpansion testPathReader {} (some projectRequirerResolution)
      ["org.b"] true projectRequirerResolution default hknows (nameable_testPathReader _ _ _)
    refine ⟨_, s₁, _, s₂, hrun₁, hrun₂, by decide +kernel, ?_⟩
    -- the requirements of org.a are of no observable module, and the kernel does not unfold the walk
    have hobs : projectRequirerResolution.observable projectRequirerResolution.dependencies =
        [projectRequirer] := rfl
    have hreq : requiredNames [projectRequirer] projectRequirer = ["org.b"] :=
      requiredNames_of_lookup_eq_none (by decide)
    show (walkExpansion testPathReader {} _ _ _ _).compile.addReads = _
    rw [walkExpansion, if_pos (by decide), hobs]
    rw [show projectRequirerResolution.dependencies = projectRequirerDependency :: _ from rfl,
      List.foldl_cons, TestWalk.step_of_not_within rfl rfl rfl]
    simp only [show projectRequirerResolution.knownDescriptor projectRequirerDependency =
      some projectRequirer from rfl, hreq]
    decide +kernel
  · have hknows : ∀ d ∈ unnamedRequirerResolution.dependencies, unnamedRequirerResolution.Knows d := by
      decide
    obtain ⟨s₁, hrun₁⟩ := resolve_run_eq_walkExpansion testPathReader {} (some unnamedRequirerResolution)
      [] false unnamedRequirerResolution default hknows (nameable_testPathReader _ _ _)
    obtain ⟨s₂, hrun₂⟩ := resolve_run_eq_walkExpansion testPathReader {} (some unnamedRequirerResolution)
      [] true unnamedRequirerResolution default hknows (nameable_testPathReader _ _ _)
    have hfalse : (walkExpansion testPathReader {} (some unnamedRequirerResolution) [] false
        unnamedRequirerResolution).compile.addReads = ["org.a", allUnnamed, "org.c"] := by
      decide +kernel
    have htrue : (walkExpansion testPathReader {} (some unnamedRequirerResolution) [] true
        unnamedRequirerResolution).compile.addReads = ["org.a", "org.c", allUnnamed] := by
      have hobs : unnamedRequirerResolution.observable unnamedRequirerResolution.dependencies =
          [unnamedRequirer] := rfl
      have hreq : requiredNames [unnamedRequirer] unnamedRequirer = [allUnnamed] :=
        requiredNames_of_lookup_eq_none (by decide)
      rw [walkExpansion, if_pos (by decide), hobs]
      rw [show unnamedRequirerResolution.dependencies = unnamedRequirerDependency :: _ from rfl,
        List.foldl_cons, TestWalk.step_of_not_within rfl rfl rfl]
      simp only [show unnamedRequirerResolution.knownDescriptor unnamedRequirerDependency =
        some unnamedRequirer from rfl, hreq]
      decide +kernel
    refine ⟨_, s₁, _, s₂, hrun₁, hrun₂, hfalse, htrue, ?_⟩
    rw [hfalse, htrue]
    decide

end Patch

end JavaBuild
