import JavaBuild.Proofs.Patch.Load
import JavaBuild.Patch.Resolution

/-!
# Module-info patches: the options of one stage

Resolving a patch writes into the options of two stages at once, compile time and run time, and
each step writes into some of the two. Seen in one stage (`Expansion.stage`), every step is a plain
change of that stage's lists: adding a module of the test dependencies appends it to the lists
that stand for them where the step is at that stage (`Expansion.stage_addTestModule`), and
expanding `SUBPROJECT-MODULES` appends the modules of the project to the targets of the packages
exported to it (`stage_expandSubprojects`).

Appending modules in order, each once, is `Directives.addTests`; appending two lists in turn is
appending the two (`Directives.addTests_addTests`), and a module appended before is not appended
again (`Directives.addTests_append_of_forall_mem`), which is why the stages already covered for a
module can be skipped without changing the result. The expansion of all the placeholders, list by
list, is `expanded` (`addTests_expandSubprojects`).

The exports are tables from packages to targets. A patch lists each package once, and in a table
of distinct packages, changing the targets of one package changes its entry alone
(`Assoc.modify_eq_map`).
-/

namespace JavaBuild

namespace Assoc

variable {α β : Type} [BEq α] [LawfulBEq α]

/-- In a table of distinct keys, an entry is what its key looks up. -/
theorem lookup_of_mem {t : List (α × β)} (hnd : (keys t).Nodup) {x : α × β} (hx : x ∈ t) :
    t.lookup x.1 = some x.2 := by
  induction t with
  | nil => cases hx
  | cons y t ih =>
    obtain ⟨a, b⟩ := y
    have hnd' : a ∉ keys t ∧ (keys t).Nodup := List.nodup_cons.mp hnd
    rcases List.mem_cons.mp hx with rfl | hx
    · simp
    · have hne : x.1 ≠ a := fun h => hnd'.1 (h ▸ List.mem_map_of_mem hx)
      rw [lookup_cons_ite, if_neg (by simpa using hne)]
      exact ih hnd'.2 hx

/-- In a table of distinct keys, changing the value of a present key changes its entry alone. -/
theorem modify_eq_map {t : List (α × β)} (hnd : (keys t).Nodup) {k : α} (hk : k ∈ keys t)
    (d : β) (f : β → β) :
    modify t k d f = t.map fun x => (x.1, if x.1 == k then f x.2 else x.2) := by
  obtain ⟨b, hb⟩ : ∃ b, t.lookup k = some b := by
    obtain ⟨x, hx, rfl⟩ := List.mem_map.mp hk
    exact ⟨_, lookup_of_mem hnd hx⟩
  rw [modify_eq_put, hb, Option.getD_some]
  unfold put
  rw [if_pos (any_fst_beq_iff.mpr hk)]
  apply List.map_congr_left
  rintro ⟨a, c⟩ hx
  by_cases hak : a = k
  · subst hak
    have hc : c = b := Option.some.inj ((lookup_of_mem hnd hx).symm.trans hb)
    simp [hc]
  · simp [hak]

/-- In a table of distinct keys, the entries of a key are the one that it looks up. -/
theorem exists_mem_key_iff {t : List (α × β)} (hnd : (keys t).Nodup) {y : α × β} (hy : y ∈ t)
    (P : β → Prop) : (∃ z ∈ t, z.1 = y.1 ∧ P z.2) ↔ P y.2 := by
  constructor
  · rintro ⟨z, hz, hzy, hP⟩
    have hsame : some z.2 = some y.2 := by
      rw [← lookup_of_mem hnd hz, ← lookup_of_mem hnd hy, hzy]
    rwa [← Option.some.inj hsame]
  · exact fun hP => ⟨y, hy, rfl, hP⟩

omit [BEq α] [LawfulBEq α] in
@[simp] theorem keys_map_snd {γ : Type} (t : List (α × β)) (g : α × β → γ) :
    keys (t.map fun x => (x.1, g x)) = keys t := by
  simp [keys]

end Assoc

namespace Patch

namespace Stages

/-- Whether a stage is set: the run-time one, or the compile-time one. -/
def has (st : Stages) (atRuntime : Bool) : Bool := if atRuntime then st.atRuntime else st.atCompile

@[simp] theorem has_none (b : Bool) : Stages.none.has b = false := by cases b <;> rfl
@[simp] theorem has_union (x y : Stages) (b : Bool) : (x.union y).has b = (x.has b || y.has b) := by
  cases b <;> rfl
@[simp] theorem has_diff (x y : Stages) (b : Bool) : (x.diff y).has b = (x.has b && !y.has b) := by
  cases b <;> rfl

theorem within_iff {x y : Stages} : x.within y = true ↔ ∀ b, x.has b = true → y.has b = true := by
  rcases x with ⟨_ | _, _ | _⟩ <;> rcases y with ⟨_ | _, _ | _⟩ <;> simp [within, has, Bool.forall_bool]

theorem isNone_iff {x : Stages} : x.isNone = true ↔ ∀ b, x.has b = false := by
  rcases x with ⟨_ | _, _ | _⟩ <;> simp [isNone, has, Bool.forall_bool]

end Stages

/-- Adding an item twice adds it once. -/
@[simp] theorem addItem_addItem (xs : List String) (v : String) :
    addItem (addItem xs v) v = addItem xs v := by
  unfold addItem
  by_cases hv : v ∈ xs <;> simp [hv]

/-! ## Appending new items -/

namespace Declaration

theorem appendNew_singleton (xs : List String) (v : String) : appendNew xs [v] = addItem xs v := by
  rw [← foldl_addItem]
  rfl

@[simp] theorem appendNew_nil_right (xs : List String) : appendNew xs [] = xs := by
  simp [appendNew]

theorem appendNew_appendNew (xs ys zs : List String) :
    appendNew (appendNew xs ys) zs = appendNew xs (ys ++ zs) := by
  rw [← foldl_addItem, ← foldl_addItem, ← foldl_addItem, List.foldl_append]

/-- Items already appended are not appended again. -/
theorem appendNew_append_of_forall_mem {xs ys zs : List String} (h : ∀ z ∈ zs, z ∈ ys) :
    appendNew xs (ys ++ zs) = appendNew xs ys := by
  rw [← appendNew_appendNew, ← foldl_addItem (appendNew xs ys) zs]
  exact foldl_addItem_of_forall_mem fun z hz => by
    rw [← foldl_addItem]
    exact mem_foldl_addItem (h z hz)

end Declaration

/-! ## One stage of an expansion -/

namespace Directives

/-- Appends modules, in order and each once, to the lists of a stage that stand for the modules
of the test dependencies: the added modules if `addAll`, the read modules if `readAll`, and the
targets of the `exported` packages. -/
def addTests (d : Directives) (addAll readAll : Bool) (exported ms : List String) : Directives :=
  { d with
    addModules := if addAll then Declaration.appendNew d.addModules ms else d.addModules
    addReads := if readAll then Declaration.appendNew d.addReads ms else d.addReads
    addExports := d.addExports.map fun x =>
      (x.1, if exported.contains x.1 then Declaration.appendNew x.2 ms else x.2) }

variable (addAll readAll : Bool) (exported : List String)

theorem addTests_addTests (d : Directives) (ms ns : List String) :
    (d.addTests addAll readAll exported ms).addTests addAll readAll exported ns =
      d.addTests addAll readAll exported (ms ++ ns) := by
  simp only [addTests, List.map_map]
  congr 1
  · cases addAll <;> simp [Declaration.appendNew_appendNew]
  · cases readAll <;> simp [Declaration.appendNew_appendNew]
  · apply List.map_congr_left
    rintro ⟨pkg, ts⟩ _
    by_cases hx : pkg ∈ exported <;> simp [hx, Declaration.appendNew_appendNew]

/-- Modules appended before are not appended again. -/
theorem addTests_append_of_forall_mem (d : Directives) {ms ns : List String}
    (h : ∀ n ∈ ns, n ∈ ms) :
    d.addTests addAll readAll exported (ms ++ ns) = d.addTests addAll readAll exported ms := by
  simp [addTests, Declaration.appendNew_append_of_forall_mem h]

/-- With no list standing for them, no module is appended. -/
@[simp] theorem addTests_none (d : Directives) (ms : List String) :
    d.addTests false false [] ms = d := by
  simp [addTests]

@[simp] theorem keys_addTests (d : Directives) (addAll readAll : Bool)
    (exported ms : List String) :
    Assoc.keys (d.addTests addAll readAll exported ms).addExports = Assoc.keys d.addExports := by
  simp [Directives.addTests]

@[simp] theorem addTests_nil (d : Directives) : d.addTests addAll readAll exported [] = d := by
  cases addAll <;> cases readAll <;> simp [addTests, Declaration.appendNew]

end Directives

namespace Expansion

/-- The options of one stage: at run time, or at compile time. -/
def stage (e : Expansion) (atRuntime : Bool) : Directives :=
  if atRuntime then e.runtime else e.compile

@[simp] theorem stage_addModule (e : Expansion) (st : Stages) (v : String) (b : Bool) :
    (e.addModule st v).1.stage b =
      { e.stage b with
        addModules := if st.has b then addItem (e.stage b).addModules v else (e.stage b).addModules } := by
  rcases st with ⟨_ | _, _ | _⟩ <;> cases b <;> rfl

@[simp] theorem stage_addRead (e : Expansion) (st : Stages) (v : String) (b : Bool) :
    (e.addRead st v).1.stage b =
      { e.stage b with
        addReads := if st.has b then addItem (e.stage b).addReads v else (e.stage b).addReads } := by
  rcases st with ⟨_ | _, _ | _⟩ <;> cases b <;> rfl

/-- Exporting a package at some stages: at the others its entry is put back as it was, which
lists it with no target when it was not listed. -/
@[simp] theorem stage_addExport (e : Expansion) (pkg : String) (st : Stages) (v : String)
    (b : Bool) :
    (e.addExport pkg st v).1.stage b =
      { e.stage b with
        addExports := Assoc.modify (e.stage b).addExports pkg [] fun ts =>
          if st.has b then addItem ts v else ts } := by
  rcases st with ⟨_ | _, _ | _⟩ <;> cases b <;>
    simp [addExport, stage, Stages.has, addAt, Assoc.modify_eq_put]

/-- Exporting packages that are listed, in a table of distinct packages, at some stages: each
gains the target at those stages. -/
theorem stage_foldl_addExport (X : List String) (st : Stages) (m : String) (e : Expansion)
    (b : Bool) (hnd : (Assoc.keys (e.stage b).addExports).Nodup)
    (hX : ∀ pkg ∈ X, pkg ∈ Assoc.keys (e.stage b).addExports) :
    (X.foldl (fun e pkg => (e.addExport pkg st m).1) e).stage b =
      { e.stage b with
        addExports := (e.stage b).addExports.map fun x =>
          (x.1, if st.has b && X.contains x.1 then addItem x.2 m else x.2) } := by
  induction X generalizing e with
  | nil => simp
  | cons pkg X ih =>
    have hpkg : pkg ∈ Assoc.keys (e.stage b).addExports := hX pkg (List.mem_cons_self ..)
    have hmap := Assoc.modify_eq_map hnd hpkg [] fun ts => if st.has b then addItem ts m else ts
    rw [List.foldl_cons, ih]
    · simp only [stage_addExport, hmap, List.map_map]
      congr 1
      apply List.map_congr_left
      rintro ⟨a, ts⟩ _
      by_cases hb : st.has b <;> by_cases ha : a = pkg <;> simp [hb, ha]
    · simp [hmap, hnd]
    · intro k hk
      simpa [hmap] using hX k (List.mem_cons_of_mem _ hk)

/-- Adding a module of the test dependencies, seen in one stage where the exported packages are
listed once each: it is appended at the stages it is added at. -/
theorem stage_addTestModule (e : Expansion) (addAll readAll : Bool) (exported : List String)
    (st : Stages) (m : String) (b : Bool) (hnd : (Assoc.keys (e.stage b).addExports).Nodup)
    (hX : ∀ pkg ∈ exported, pkg ∈ Assoc.keys (e.stage b).addExports) :
    (e.addTestModule addAll readAll exported st m).1.stage b =
      if st.has b then (e.stage b).addTests addAll readAll exported [m] else e.stage b := by
  unfold addTestModule
  -- the flag of a change is carried along the exports, and the expansion does not depend on it
  rw [← @List.foldl_hom _ _ _ Prod.fst _ (fun e pkg => (e.addExport pkg st m).1) _ _ fun _ _ => rfl]
  rw [stage_foldl_addExport]
  all_goals cases addAll <;> cases readAll <;> cases hb : st.has b <;>
    simp_all [Directives.addTests, Declaration.appendNew_singleton]

/-- Adding the unnamed module, seen in one stage where the exported packages are listed once
each: it is appended at the stages it is added at. -/
theorem stage_addUnnamed (e : Expansion) (readAll : Bool) (exported : List String) (st : Stages)
    (b : Bool) (hnd : (Assoc.keys (e.stage b).addExports).Nodup)
    (hX : ∀ pkg ∈ exported, pkg ∈ Assoc.keys (e.stage b).addExports) :
    (e.addUnnamed readAll exported st).stage b =
      if st.has b then (e.stage b).addTests false readAll exported [allUnnamed] else e.stage b := by
  unfold addUnnamed
  rw [stage_foldl_addExport]
  all_goals cases readAll <;> cases hb : st.has b <;>
    simp_all [Directives.addTests, Declaration.appendNew_singleton]

/-- Exporting a listed package to modules one by one, at both stages, in a table of distinct
packages: its targets gain the modules they do not list. -/
theorem stage_foldl_addExport_both (pkg : String) (ms : List String) (e : Expansion) (b : Bool)
    (hnd : (Assoc.keys (e.stage b).addExports).Nodup)
    (hpkg : pkg ∈ Assoc.keys (e.stage b).addExports) :
    (ms.foldl (fun e m => (e.addExport pkg .both m).1) e).stage b =
      { e.stage b with
        addExports := (e.stage b).addExports.map fun x =>
          (x.1, if x.1 == pkg then Declaration.appendNew x.2 ms else x.2) } := by
  induction ms generalizing e with
  | nil => simp [Declaration.appendNew]
  | cons m ms ih =>
    have hmap := Assoc.modify_eq_map hnd hpkg [] fun ts => if Stages.both.has b then addItem ts m else ts
    rw [List.foldl_cons, ih]
    · simp only [stage_addExport, hmap, List.map_map]
      congr 1
      apply List.map_congr_left
      rintro ⟨a, ts⟩ _
      by_cases ha : a = pkg
      · cases b <;> simp [ha, Stages.both, Stages.has, ← Declaration.appendNew_singleton,
          Declaration.appendNew_appendNew]
      · simp [ha]
    · simp [hmap, hnd]
    · simpa [hmap] using hpkg

end Expansion

/-- Expanding `SUBPROJECT-MODULES`, seen in one stage where the exported packages are listed once
each: the targets of a package that the patch exports to it gain the modules of the project but
the patched one that they do not list. -/
theorem stage_expandSubprojects (p : ModulePatch) (pm : List String) (e : Expansion) (b : Bool)
    (hnd : (Assoc.keys (e.stage b).addExports).Nodup)
    (hkeys : ∀ pkg ∈ Assoc.keys p.addExports, pkg ∈ Assoc.keys (e.stage b).addExports) :
    (expandSubprojects p pm e).stage b =
      { e.stage b with
        addExports := (e.stage b).addExports.map fun x =>
          (x.1, if ∃ y ∈ p.addExports, y.1 = x.1 ∧ subprojectModules ∈ y.2
            then Declaration.appendNew x.2 (pm.filter (some · != p.moduleName)) else x.2) } := by
  unfold expandSubprojects
  generalize p.addExports = L at hkeys ⊢
  induction L generalizing e with
  | nil => simp
  | cons y L ih =>
    obtain ⟨pkg, ts⟩ := y
    have hpkg : pkg ∈ Assoc.keys (e.stage b).addExports := hkeys pkg (by simp [Assoc.keys])
    -- the package of the first entry gains the modules of the project if it is exported to them
    have hstep : (if ts.contains subprojectModules then
          pm.foldl (fun e m => if some m != p.moduleName then (e.addExport pkg .both m).1 else e) e
        else e).stage b =
        { e.stage b with
          addExports := (e.stage b).addExports.map fun x =>
            (x.1, if x.1 == pkg && ts.contains subprojectModules
              then Declaration.appendNew x.2 (pm.filter (some · != p.moduleName)) else x.2) } := by
      split
      · rw [← List.foldl_filter, Expansion.stage_foldl_addExport_both _ _ _ _ hnd hpkg]
        simp_all
      · simp_all
    rw [List.foldl_cons]
    dsimp only
    rw [ih, hstep]
    · simp only [List.map_map]
      congr 1
      apply List.map_congr_left
      rintro ⟨a, us⟩ _
      let others := pm.filter (some · != p.moduleName)
      have hidem : Declaration.appendNew (Declaration.appendNew us others) others =
          Declaration.appendNew us others := by
        rw [Declaration.appendNew_appendNew, Declaration.appendNew_append_of_forall_mem fun _ h => h]
      simp only [Function.comp_apply, List.mem_cons, exists_eq_or_imp, @eq_comm _ pkg a]
      split_ifs <;> grind
    · rw [hstep]
      simpa using hnd
    · intro k hk
      rw [hstep]
      simpa using hkeys k (by simp_all [Assoc.keys])

/-- Expanding `SUBPROJECT-MODULES` over the declared options of a patch that exports each package
once, at either stage. -/
theorem stage_expandSubprojects_declared (p : ModulePatch) (shared : SharedModules) (pm : List String)
    (hkeys : (Assoc.keys p.addExports).Nodup) (b : Bool) :
    (expandSubprojects p pm ⟨p.declared shared, p.declared shared⟩).stage b =
      { p.declared shared with
        addExports := (p.declared shared).addExports.map fun x =>
          (x.1, if ∃ y ∈ p.addExports, y.1 = x.1 ∧ subprojectModules ∈ y.2
            then Declaration.appendNew x.2 (pm.filter (some · != p.moduleName)) else x.2) } := by
  have hd : ((⟨p.declared shared, p.declared shared⟩ : Expansion).stage b) = p.declared shared := by
    cases b <;> rfl
  have hdkeys : Assoc.keys (p.declared shared).addExports = Assoc.keys p.addExports := by
    simp [ModulePatch.declared]
  rw [stage_expandSubprojects _ _ _ _ (by rw [hd, hdkeys]; exact hkeys) (by rw [hd, hdkeys]; simp),
    hd]

/-- Expanding `SUBPROJECT-MODULES` over the declared options keeps the packages the patch exports,
at both stages. -/
theorem keys_stage_expandSubprojects (p : ModulePatch) (shared : SharedModules) (pm : List String)
    (hkeys : (Assoc.keys p.addExports).Nodup) (b : Bool) :
    Assoc.keys ((expandSubprojects p pm ⟨p.declared shared, p.declared shared⟩).stage b).addExports =
      Assoc.keys p.addExports := by
  rw [stage_expandSubprojects_declared p shared pm hkeys b, Assoc.keys_map_snd]
  simp [ModulePatch.declared]

/-! ## The expansion, list by list -/

/-- What resolving a patch gives at one stage when every module it names is provided. Each list
loses its placeholders and gains at its end, each once, what they stand for and it does not list:
for `SUBPROJECT-MODULES` the modules of the project but the patched one, in their order; for
`TEST-MODULE-PATH` the modules `tests` of the test dependencies, then the unnamed module if
`unnamed`, which the added modules never gain. -/
def expanded (p : ModulePatch) (shared : SharedModules) (projectModules tests : List String)
    (unnamed : Bool) : Directives :=
  let others := projectModules.filter (some · != p.moduleName)
  let forTests (ts : List String) : List String :=
    if ts.contains testModulePath then tests ++ (if unnamed then [allUnnamed] else []) else []
  { addModules := Declaration.appendNew (shared.addModules.filter (· ≠ testModulePath))
      (if shared.addModules.contains testModulePath then tests else [])
    limitModules := shared.limitModules
    addReads := Declaration.appendNew (p.addReads.filter (· ≠ testModulePath)) (forTests p.addReads)
    addExports := p.addExports.map fun x =>
      (x.1, Declaration.appendNew (x.2.filter fun t => !([testModulePath, subprojectModules].contains t))
        ((if x.2.contains subprojectModules then others else []) ++ forTests x.2))
    addOpens := p.addOpens }

/-- The declared options with the modules of the project, then those of the test dependencies,
then the unnamed module appended, in a patch that exports each package once, are the expansion
list by list. -/
theorem addTests_expandSubprojects (p : ModulePatch) (shared : SharedModules)
    (pm tests : List String) (unnamed b : Bool) (hkeys : (Assoc.keys p.addExports).Nodup) :
    let exported := (p.addExports.filter fun x => x.2.contains testModulePath).map (·.1)
    (((expandSubprojects p pm ⟨p.declared shared, p.declared shared⟩).stage b).addTests
        (shared.addModules.contains testModulePath) (p.addReads.contains testModulePath) exported
        tests).addTests false (p.addReads.contains testModulePath) exported
        (if unnamed then [allUnnamed] else []) =
      expanded p shared pm tests unnamed := by
  intro exported
  rw [stage_expandSubprojects_declared p shared pm hkeys b]
  simp only [Directives.addTests, expanded, ModulePatch.declared, List.map_map]
  congr 1
  · cases shared.addModules.contains testModulePath <;> simp
  · cases p.addReads.contains testModulePath <;> simp [Declaration.appendNew_appendNew]
  · -- each package is listed once, so the conditions on its entry are conditions on its targets
    apply List.map_congr_left
    intro y hy
    have hsub := Assoc.exists_mem_key_iff hkeys hy (subprojectModules ∈ ·)
    have htest : exported.contains y.1 = y.2.contains testModulePath := by
      rw [Bool.eq_iff_iff, List.contains_iff_mem, List.contains_iff_mem,
        ← Assoc.exists_mem_key_iff hkeys hy (testModulePath ∈ ·)]
      simp only [exported, List.mem_map, List.mem_filter, List.contains_iff_mem]
      constructor
      · rintro ⟨z, ⟨hz, hT⟩, hzy⟩
        exact ⟨z, hz, hzy, hT⟩
      · rintro ⟨z, hz, hzy, hT⟩
        exact ⟨z, ⟨hz, hT⟩, hzy⟩
    simp only [Function.comp_apply, hsub, htest]
    cases y.2.contains testModulePath <;> cases unnamed <;> by_cases hs : subprojectModules ∈ y.2 <;>
      simp [hs, Declaration.appendNew_appendNew]

end Patch

end JavaBuild
