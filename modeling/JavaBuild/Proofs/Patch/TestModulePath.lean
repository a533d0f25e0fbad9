import JavaBuild.Proofs.Patch.Stages
import JavaBuild.Proofs.Dependency.Known

/-!
# Module-info patches: the modules of the test dependencies

`TEST-MODULE-PATH` stands for the modules of the test dependencies that a stage sees: at compile
time those of the `test` and `test-only` scopes, at run time those of `test` and `test-runtime`
(`testScopes`). Without simplification, the walk over the dependencies appends each module at the
stages that see it and that it does not cover yet, and marks it as covering them; a dependency in
the unnamed module marks the stages that see it, and the unnamed module is appended there at the
end.

The walk keeps one invariant (`TestPathInv`): each stage holds the options it started from with
the modules it has seen appended in order, each once, and a module marks a stage as covered only
if it was appended there. One lemma per kind of dependency says that each step keeps it
(`TestPathInv.skip`, `TestPathInv.unnamed`, `TestPathInv.covered`, `TestPathInv.add`), so that
the stages covered before only spare appending what is listed already. Hence the whole walk
appends, at each stage, the modules of the test dependencies it sees and then the unnamed module
if one of them is in it (`expandTestPath_spec`).
-/

set_option mvcgen.warning false

namespace JavaBuild

open Std.Do

namespace Patch

/-- The scopes of the test dependencies that a stage sees: at compile time `test` and
`test-only`, at run time `test` and `test-runtime`. -/
def testScopes (atRuntime : Bool) : List Scope :=
  if atRuntime then [.test, .testRuntime] else [.test, .testOnly]

/-- The stages at which the test dependencies of a scope are seen are those whose scopes list it. -/
theorem testStages_has (sc : Scope) (b : Bool) :
    ((testStages sc).map (·.has b)).getD false = (testScopes b).contains sc := by
  cases sc <;> cases b <;> rfl

end Patch

namespace Resolution

open Patch

/-- The modules of the test dependencies among `deps` that a stage sees, in order, as far as they
are known without reading artifacts; a module seen twice is listed twice. -/
def testModules (s : Resolution) (deps : List Dependency) (atRuntime : Bool) : List String :=
  (deps.filter fun d => d.scope ∈ testScopes atRuntime).filterMap s.knownName

/-- Whether a stage sees a test dependency among `deps` in the unnamed module. -/
def testUnnamed (s : Resolution) (deps : List Dependency) (atRuntime : Bool) : Bool :=
  (deps.filter fun d => d.scope ∈ testScopes atRuntime).any fun d => (s.knownName d).isNone

theorem testModules_append_singleton (s : Resolution) (deps : List Dependency) (d : Dependency)
    (b : Bool) :
    s.testModules (deps ++ [d]) b = s.testModules deps b ++
      if d.scope ∈ testScopes b then (s.knownName d).toList else [] := by
  unfold testModules
  rw [List.filter_append, List.filterMap_append]
  by_cases hd : d.scope ∈ testScopes b <;> cases hn : s.knownName d <;> simp [hd, hn]

/-- A named test dependency that a stage sees appends its module there. -/
theorem testModules_append_of_mem {s : Resolution} {deps : List Dependency} {d : Dependency}
    {b : Bool} {m : String} (hb : d.scope ∈ testScopes b) (hn : s.knownName d = some m) :
    s.testModules (deps ++ [d]) b = s.testModules deps b ++ [m] := by
  simp [testModules_append_singleton, hb, hn]

/-- A dependency that a stage does not see appends nothing there. -/
theorem testModules_append_of_not_mem {s : Resolution} {deps : List Dependency} {d : Dependency}
    {b : Bool} (hb : d.scope ∉ testScopes b) : s.testModules (deps ++ [d]) b = s.testModules deps b := by
  simp [testModules_append_singleton, hb]

theorem testUnnamed_append_singleton (s : Resolution) (deps : List Dependency) (d : Dependency)
    (b : Bool) :
    s.testUnnamed (deps ++ [d]) b =
      (s.testUnnamed deps b || decide (d.scope ∈ testScopes b) && (s.knownName d).isNone) := by
  unfold testUnnamed
  rw [List.filter_append, List.any_append]
  by_cases hd : d.scope ∈ testScopes b <;> simp [hd]

namespace Extends

variable {s r : Resolution}

theorem testModules_eq (hs : s.Extends r) (deps : List Dependency) (b : Bool) :
    s.testModules deps b = r.testModules deps b := by
  simp only [testModules, hs.knownName_eq]

theorem testUnnamed_eq (hs : s.Extends r) (deps : List Dependency) (b : Bool) :
    s.testUnnamed deps b = r.testUnnamed deps b := by
  simp only [testUnnamed, hs.knownName_eq]

end Extends

end Resolution

namespace Patch

theorem has_of_testStages {sc : Scope} {st : Stages} (h : testStages sc = some st) (b : Bool) :
    st.has b = decide (sc ∈ testScopes b) := by
  have := testStages_has sc b
  rw [h] at this
  simpa using this

theorem not_mem_testScopes {sc : Scope} (h : testStages sc = none) (b : Bool) :
    sc ∉ testScopes b := by
  have := testStages_has sc b
  rw [h] at this
  simpa using this.symm

section TestPath

variable (p : ModulePatch) (shared : SharedModules) (s₀ : Resolution) (e₀ : Expansion)

/-- What the walk over the test dependencies keeps after the dependencies `ds`: each stage holds
the options it started from with the modules it sees appended, a module is marked as covered at a
stage only if it is among those, and the stages that see a module without name are marked. -/
def TestPathInv (ds : List Dependency) (e : Expansion) (done : List (String × Stages))
    (unnamed : Stages) : Prop :=
  ∀ b, e.stage b = (e₀.stage b).addTests (shared.addModules.contains testModulePath)
      (p.addReads.contains testModulePath)
      ((p.addExports.filter fun x => x.2.contains testModulePath).map (·.1))
      (s₀.testModules ds b) ∧
    (∀ m, ((done.lookup m).getD .none).has b = true → m ∈ s₀.testModules ds b) ∧
    unnamed.has b = s₀.testUnnamed ds b

theorem testPathInv_nil : TestPathInv p shared s₀ e₀ [] e₀ [] .none := by
  intro b
  simp [Resolution.testModules, Resolution.testUnnamed]

variable {p shared s₀ e₀}

/-- The walk keeps the packages each stage exports. -/
theorem TestPathInv.keys_stage {ds : List Dependency} {e : Expansion}
    {done : List (String × Stages)} {unnamed : Stages}
    (hinv : TestPathInv p shared s₀ e₀ ds e done unnamed) (b : Bool) :
    Assoc.keys (e.stage b).addExports = Assoc.keys (e₀.stage b).addExports := by
  rw [(hinv b).1, Directives.keys_addTests]

/-- The packages exported to the test module path stay listed at each stage during the walk. -/
theorem TestPathInv.exported_mem_keys
    (hX : ∀ b, ∀ x ∈ p.addExports, x.2.contains testModulePath →
      x.1 ∈ Assoc.keys (e₀.stage b).addExports)
    {ds : List Dependency} {e : Expansion} {done : List (String × Stages)} {unnamed : Stages}
    (hinv : TestPathInv p shared s₀ e₀ ds e done unnamed) (b : Bool) :
    ∀ pkg ∈ (p.addExports.filter fun x => x.2.contains testModulePath).map (·.1),
      pkg ∈ Assoc.keys (e.stage b).addExports := by
  intro pkg hpkg
  obtain ⟨x, hx, rfl⟩ := List.mem_map.mp hpkg
  rw [hinv.keys_stage b]
  exact hX b x (List.mem_filter.mp hx).1 (List.mem_filter.mp hx).2

/-- A dependency outside the test scopes changes nothing. -/
theorem TestPathInv.skip {ds : List Dependency} {d : Dependency} {e : Expansion}
    {done : List (String × Stages)} {unnamed : Stages} (hinv : TestPathInv p shared s₀ e₀ ds e done unnamed)
    (hsc : testStages d.scope = none) : TestPathInv p shared s₀ e₀ (ds ++ [d]) e done unnamed := by
  intro b
  have hout := not_mem_testScopes hsc b
  simpa [Resolution.testModules_append_singleton, Resolution.testUnnamed_append_singleton, hout]
    using hinv b

/-- A test dependency in the unnamed module marks the stages that see it. -/
theorem TestPathInv.unnamed {ds : List Dependency} {d : Dependency} {e : Expansion}
    {done : List (String × Stages)} {unnamed st : Stages}
    (hinv : TestPathInv p shared s₀ e₀ ds e done unnamed) (hsc : testStages d.scope = some st)
    (hn : s₀.knownName d = none) :
    TestPathInv p shared s₀ e₀ (ds ++ [d]) e done (unnamed.union st) := by
  intro b
  obtain ⟨he, hdone, hu⟩ := hinv b
  refine ⟨?_, ?_, ?_⟩
  · simpa [Resolution.testModules_append_singleton, hn] using he
  · simpa [Resolution.testModules_append_singleton, hn] using hdone
  · simp [Resolution.testUnnamed_append_singleton, hn, hu, has_of_testStages hsc]

/-- A module already covered at every stage that sees it is appended nowhere: it is listed at
each of those stages already. -/
theorem TestPathInv.covered {ds : List Dependency} {d : Dependency} {e : Expansion}
    {done : List (String × Stages)} {unnamed st : Stages} {m : String}
    (hinv : TestPathInv p shared s₀ e₀ ds e done unnamed) (hsc : testStages d.scope = some st)
    (hn : s₀.knownName d = some m) (hwithin : st.within ((done.lookup m).getD .none) = true) :
    TestPathInv p shared s₀ e₀ (ds ++ [d]) e done unnamed := by
  intro b
  obtain ⟨he, hdone, hu⟩ := hinv b
  by_cases hb : d.scope ∈ testScopes b
  · have hm : m ∈ s₀.testModules ds b :=
      hdone m (Stages.within_iff.mp hwithin b (by simp [has_of_testStages hsc, hb]))
    have hms : s₀.testModules (ds ++ [d]) b = s₀.testModules ds b ++ [m] :=
      Resolution.testModules_append_of_mem hb hn
    refine ⟨?_, ?_, ?_⟩
    · rw [he, hms, Directives.addTests_append_of_forall_mem _ _ _ _ (by simpa using hm)]
    · exact fun m' hm' => hms ▸ List.mem_append_left _ (hdone m' hm')
    · simp [Resolution.testUnnamed_append_singleton, hn, hu]
  · simpa [Resolution.testModules_append_singleton, Resolution.testUnnamed_append_singleton, hb]
      using hinv b

/-- A module not yet covered at every stage that sees it is appended at the stages not covered,
and covered there. The packages that the test module path is exported to must be listed once
each in the options it started from. -/
theorem TestPathInv.add (hnd : ∀ b, (Assoc.keys (e₀.stage b).addExports).Nodup)
    (hX : ∀ b, ∀ x ∈ p.addExports, x.2.contains testModulePath →
      x.1 ∈ Assoc.keys (e₀.stage b).addExports)
    {ds : List Dependency} {d : Dependency} {e : Expansion}
    {done : List (String × Stages)} {unnamed st : Stages} {m : String}
    (hinv : TestPathInv p shared s₀ e₀ ds e done unnamed) (hsc : testStages d.scope = some st)
    (hn : s₀.knownName d = some m) :
    let previous := (done.lookup m).getD .none
    TestPathInv p shared s₀ e₀ (ds ++ [d])
      (e.addTestModule (shared.addModules.contains testModulePath)
        (p.addReads.contains testModulePath)
        ((p.addExports.filter fun x => x.2.contains testModulePath).map (·.1))
        (st.diff previous) m).1
      (Assoc.put done m (previous.union (st.diff previous))) unnamed := by
  intro previous b
  rw [Expansion.stage_addTestModule _ _ _ _ _ _ _ (by rw [hinv.keys_stage b]; exact hnd b)
    (hinv.exported_mem_keys hX b)]
  obtain ⟨he, hdone, hu⟩ := hinv b
  have hst := has_of_testStages hsc b
  by_cases hb : d.scope ∈ testScopes b
  · -- the stage sees the module: it is appended, or listed already where it was covered
    have hms : s₀.testModules (ds ++ [d]) b = s₀.testModules ds b ++ [m] :=
      Resolution.testModules_append_of_mem hb hn
    refine ⟨?_, ?_, ?_⟩
    · rw [hms]
      by_cases hprev : previous.has b
      · rw [Directives.addTests_append_of_forall_mem _ _ _ _ (by simpa using hdone m hprev)]
        simp [hst, hb, hprev, he]
      · simp [hst, hb, hprev, he, Directives.addTests_addTests]
    · intro m' _
      rw [hms]
      by_cases hmm : m' = m
      · exact hmm ▸ List.mem_append_right _ (List.mem_singleton_self _)
      · simp_all [Assoc.lookup_put]
    · simp [Resolution.testUnnamed_append_singleton, hn, hu]
  · -- the stage does not see the module: nothing changes there
    have hms : s₀.testModules (ds ++ [d]) b = s₀.testModules ds b :=
      Resolution.testModules_append_of_not_mem hb
    refine ⟨?_, ?_, ?_⟩
    · simp [hst, hb, he, hms]
    · intro m' hm'
      rw [hms]
      by_cases hmm : m' = m
      · subst hmm
        exact hdone m' (by simpa [Assoc.lookup_put, hst, hb] using hm')
      · exact hdone m' (by simpa [Assoc.lookup_put, hmm] using hm')
    · simp [Resolution.testUnnamed_append_singleton, hb, hu]

/-- After the last dependency, adding the unnamed module at the stages that saw one appends it
after the modules of the test dependencies. -/
theorem TestPathInv.stage_addUnnamed (hnd : ∀ b, (Assoc.keys (e₀.stage b).addExports).Nodup)
    (hX : ∀ b, ∀ x ∈ p.addExports, x.2.contains testModulePath →
      x.1 ∈ Assoc.keys (e₀.stage b).addExports)
    {ds : List Dependency} {e : Expansion} {done : List (String × Stages)} {unnamed : Stages}
    (hinv : TestPathInv p shared s₀ e₀ ds e done unnamed) (b : Bool) :
    (e.addUnnamed (p.addReads.contains testModulePath)
        ((p.addExports.filter fun x => x.2.contains testModulePath).map (·.1)) unnamed).stage b =
      ((e₀.stage b).addTests (shared.addModules.contains testModulePath)
          (p.addReads.contains testModulePath)
          ((p.addExports.filter fun x => x.2.contains testModulePath).map (·.1))
          (s₀.testModules ds b)).addTests false (p.addReads.contains testModulePath)
        ((p.addExports.filter fun x => x.2.contains testModulePath).map (·.1))
        (if s₀.testUnnamed ds b then [allUnnamed] else []) := by
  obtain ⟨he, -, hu⟩ := hinv b
  rw [Expansion.stage_addUnnamed _ _ _ _ _ (by rw [hinv.keys_stage b]; exact hnd b)
    (hinv.exported_mem_keys hX b), hu, he]
  cases s₀.testUnnamed ds b <;> simp

/-- After the last dependency, with no stage that saw an unnamed module, each stage holds the
modules of the test dependencies appended. -/
theorem TestPathInv.stage_of_isNone {ds : List Dependency} {e : Expansion}
    {done : List (String × Stages)} {unnamed : Stages}
    (hinv : TestPathInv p shared s₀ e₀ ds e done unnamed) (hnone : unnamed.isNone = true)
    (b : Bool) :
    e.stage b =
      ((e₀.stage b).addTests (shared.addModules.contains testModulePath)
          (p.addReads.contains testModulePath)
          ((p.addExports.filter fun x => x.2.contains testModulePath).map (·.1))
          (s₀.testModules ds b)).addTests false (p.addReads.contains testModulePath)
        ((p.addExports.filter fun x => x.2.contains testModulePath).map (·.1))
        (if s₀.testUnnamed ds b then [allUnnamed] else []) := by
  obtain ⟨he, -, hu⟩ := hinv b
  rw [← hu, Stages.isNone_iff.mp hnone b, he]
  simp

end TestPath

theorem expandTestPath_spec (p : ModulePatch) (shared : SharedModules) (r : Resolution) (e₀ : Expansion)
    (s₀ : Resolution) (h₀ : Host) (hknows : ∀ d ∈ r.dependencies, s₀.Knows d)
    (hnd : ∀ b, (Assoc.keys (e₀.stage b).addExports).Nodup)
    (hX : ∀ b, ∀ x ∈ p.addExports, x.2.contains testModulePath →
      x.1 ∈ Assoc.keys (e₀.stage b).addExports) :
    let addAll := shared.addModules.contains testModulePath
    let readAll := p.addReads.contains testModulePath
    let exported := (p.addExports.filter fun x => x.2.contains testModulePath).map (·.1)
    ⦃fun s h => ⌜s = s₀ ∧ h = h₀⌝⦄ expandTestPath p shared r false e₀
    ⦃⇓ e s h => ⌜(∀ b, e.stage b =
        ((e₀.stage b).addTests addAll readAll exported (s₀.testModules r.dependencies b)).addTests
          false readAll exported (if s₀.testUnnamed r.dependencies b then [allUnnamed] else [])) ∧
      s.Extends s₀ ∧ h = h₀⌝⦄ := by
  intro addAll readAll exported
  mvcgen [expandTestPath, Resolution.moduleName_spec] invariants
  · ⇓⟨xs, e, done, unnamed⟩ s h =>
      ⌜s.Extends s₀ ∧ h = h₀ ∧ TestPathInv p shared s₀ e₀ xs.prefix e done unnamed⌝
  -- the dependency is known, also to the resolution as it has grown
  case vc1 =>
    rename_i pref cur suff hdeps _ _ _ _ _ _ _ _ _ hinv
    exact hinv.1.knows (hknows cur (by simp [hdeps]))
  -- a module covered at every stage that sees it
  case vc2 =>
    rename_i pref cur suff hdeps _ _ _ _ _ st hsc _ _ hinv _ m _ _ hwithin _ _ hname
    obtain ⟨hext, rfl, hinv⟩ := hinv
    obtain ⟨hn, hext', rfl⟩ := hname
    rw [hext.knownName_eq] at hn
    exact ⟨hext'.trans hext, rfl, hinv.covered hsc hn.symm hwithin⟩
  -- a module appended where it is not covered
  case vc4 =>
    rename_i pref cur suff hdeps _ _ _ _ _ st hsc _ _ hinv _ m _ _ _ _ _ _ _ _ _ hname
    obtain ⟨hext, rfl, hinv⟩ := hinv
    obtain ⟨hn, hext', rfl⟩ := hname
    rw [hext.knownName_eq] at hn
    exact ⟨hext'.trans hext, rfl, hinv.add hnd hX hsc hn.symm⟩
  -- a dependency in the unnamed module
  case vc5 =>
    rename_i pref cur suff hdeps _ _ _ _ _ st hsc _ _ hinv _ nn hnot _ _ _ _ hname
    obtain ⟨hext, rfl, hinv⟩ := hinv
    obtain ⟨hn, hext', rfl⟩ := hname
    rw [hext.knownName_eq] at hn
    have hnone : s₀.knownName cur = none := hn ▸ Option.eq_none_iff_forall_ne_some.mpr hnot
    exact ⟨hext'.trans hext, rfl, hinv.unnamed hsc hnone⟩
  -- a dependency outside the test scopes
  case vc6 =>
    rename_i pref cur suff hdeps _ _ _ _ _ sc hnot hsc _ _ hinv
    exact ⟨hinv.1, hinv.2.1, hinv.2.2.skip (hsc.trans (Option.eq_none_iff_forall_ne_some.mpr hnot))⟩
  case vc7 =>
    rename_i _ _ hpre
    exact ⟨hpre.1 ▸ .refl _, hpre.2, testPathInv_nil p shared s₀ e₀⟩
  -- the unnamed module is added at the stages that saw one
  case vc8 =>
    rename_i hinv
    obtain ⟨hext, rfl, hinv⟩ := hinv
    exact ⟨fun b => hinv.stage_addUnnamed hnd hX b, hext, rfl⟩
  case vc9 =>
    rename_i hsome _ _ hinv
    obtain ⟨hext, rfl, hinv⟩ := hinv
    exact ⟨fun b => hinv.stage_of_isNone (by simpa using hsome) b, hext, rfl⟩

end Patch

end JavaBuild
