import JavaBuild.Proofs.Patch.Reading
import JavaBuild.Proofs.Data.List

/-!
# Module-info patches: what loading accepts and gives

`load` accepts a text exactly when it lexes to the tokens of a well-formed declaration, and then
gives what the declaration means (`load_eq_ok_iff`); on any other text it fails with a syntax
error of the patch file (`load_error`).

Reading does what the declaration's statements do, one after the other (`readPatch_sound`,
`readPatch_complete`). That this is what the declaration means is read off views of what is
built: the list of items of each target, and the packages listed for exports and for opens. Each
view of a statement's effect is a fold of `addItem` over the statement's items, so the view of the
whole run is the fold over all the items of that target, which appends each new item once, in
order (`foldl_addItem`).
-/

namespace JavaBuild

/-! ## Ordered tables -/

namespace Assoc

variable {α β : Type} [BEq α]

theorem lookup_cons_ite (t : List (α × β)) (a j : α) (b : β) :
    ((a, b) :: t).lookup j = if j == a then some b else t.lookup j := by
  rw [List.lookup_cons]
  cases j == a <;> rfl

/-- Changing every value by `g` changes the value found by `g`. -/
theorem lookup_map_snd {γ : Type} (t : List (α × β)) (g : β → γ) (k : α) :
    (t.map fun x => (x.1, g x.2)).lookup k = (t.lookup k).map g := by
  induction t with
  | nil => rfl
  | cons e t ih =>
    obtain ⟨a, b⟩ := e
    simp only [List.map_cons, lookup_cons_ite, ih]
    split <;> rfl

variable [LawfulBEq α]

theorem any_fst_beq_iff {t : List (α × β)} {k : α} : t.any (·.1 == k) = true ↔ k ∈ keys t := by
  simp [keys]

/-- Putting the value of a key leaves the values of the other keys. -/
theorem lookup_map_put_of_ne (t : List (α × β)) {k j : α} (v : β) (hjk : j ≠ k) :
    (t.map fun (a, b) => if a == k then (a, v) else (a, b)).lookup j = t.lookup j := by
  induction t with
  | nil => rfl
  | cons e t ih =>
    obtain ⟨a, b⟩ := e
    by_cases hak : a = k
    · subst hak
      simp only [List.map_cons, beq_self_eq_true, ↓reduceIte, lookup_cons_ite,
        beq_false_of_ne hjk, Bool.false_eq_true, ih]
    · simp only [List.map_cons, beq_false_of_ne hak, Bool.false_eq_true, ↓reduceIte,
        lookup_cons_ite, ih]

/-- Putting the value of a present key: its first entry answers with the new value. -/
theorem lookup_map_put {t : List (α × β)} {k : α} (j : α) (v : β) (hk : k ∈ keys t) :
    (t.map fun (a, b) => if a == k then (a, v) else (a, b)).lookup j =
      if j == k then some v else t.lookup j := by
  induction t with
  | nil => simp [keys] at hk
  | cons e t ih =>
    obtain ⟨a, b⟩ := e
    by_cases hak : a = k
    · subst hak
      simp only [List.map_cons, beq_self_eq_true, ↓reduceIte, lookup_cons_ite]
      by_cases hja : j = a
      · simp [hja]
      · simp [beq_false_of_ne hja, lookup_map_put_of_ne t v hja]
    · have hk' : k ∈ keys t := by
        simp only [keys, List.map_cons, List.mem_cons] at hk
        exact hk.resolve_left (Ne.symm hak)
      simp only [List.map_cons, beq_false_of_ne hak, Bool.false_eq_true, ↓reduceIte,
        lookup_cons_ite, ih hk']
      by_cases hja : j = a
      · subst hja
        simp [beq_false_of_ne hak]
      · simp [beq_false_of_ne hja]

/-- Putting a key lists it at the end unless present. -/
theorem keys_put (t : List (α × β)) (k : α) (v : β) :
    keys (put t k v) = if k ∈ keys t then keys t else keys t ++ [k] := by
  unfold put
  by_cases hk : k ∈ keys t
  · rw [if_pos (any_fst_beq_iff.mpr hk), if_pos hk]
    simp only [keys, List.map_map]
    apply List.map_congr_left
    intro ⟨a, b⟩ _
    show (if (a == k) = true then (a, v) else (a, b)).1 = a
    split <;> rfl
  · rw [if_neg (mt any_fst_beq_iff.mp hk), if_neg hk, keys, keys, List.map_append]
    rfl

/-- After putting a key, it has the value put; other keys keep theirs. -/
theorem lookup_put (t : List (α × β)) (k j : α) (v : β) :
    (put t k v).lookup j = if j == k then some v else t.lookup j := by
  unfold put
  by_cases hk : k ∈ keys t
  · rw [if_pos (any_fst_beq_iff.mpr hk), lookup_map_put j v hk]
  · rw [if_neg (mt any_fst_beq_iff.mp hk), List.lookup_append]
    by_cases hjk : j = k
    · subst hjk
      have hnone : t.lookup j = none := by
        rw [List.lookup_eq_none_iff]
        intro e he
        simp only [bne_iff_ne, ne_eq]
        rintro rfl
        exact hk (List.mem_map_of_mem he)
      simp [hnone]
    · rw [lookup_cons_ite]
      simp [beq_false_of_ne hjk]

/-- Changing a value is putting the changed value. -/
theorem modify_eq_put (t : List (α × β)) (k : α) (d : β) (f : β → β) :
    modify t k d f = put t k (f ((t.lookup k).getD d)) := by
  unfold modify
  cases hk : t.lookup k with
  | some b => rfl
  | none =>
    have hany : ¬ t.any (·.1 == k) = true := by
      rw [any_fst_beq_iff]
      intro hmem
      obtain ⟨e, he, rfl⟩ := List.mem_map.mp hmem
      rw [List.lookup_eq_none_iff] at hk
      simp at hk
      exact hk e.1 e.2 he rfl
    simp [put, hany]

/-- The keys after changing a value: the key is listed at the end unless present. -/
theorem keys_modify (t : List (α × β)) (k : α) (d : β) (f : β → β) :
    keys (modify t k d f) = if k ∈ keys t then keys t else keys t ++ [k] := by
  rw [modify_eq_put, keys_put]

/-- Only the value of the key changed is changed, and it is changed from its old value, or
from the default when absent. -/
theorem lookup_modify (t : List (α × β)) (k j : α) (d : β) (f : β → β) :
    (modify t k d f).lookup j = if j == k then some (f ((t.lookup k).getD d)) else t.lookup j := by
  rw [modify_eq_put, lookup_put]

/-- A table with distinct keys is the table of its keys and their values. -/
theorem eq_map_keys_lookup {t : List (α × β)} (hnd : (keys t).Nodup) (d : β) :
    t = (keys t).map fun k => (k, (t.lookup k).getD d) := by
  induction t with
  | nil => rfl
  | cons e t ih =>
    obtain ⟨a, b⟩ := e
    have hnd' : a ∉ keys t ∧ (keys t).Nodup := List.nodup_cons.mp hnd
    -- the keys after the first are not its key, so the rest of the table answers for them
    have hrest : ∀ k ∈ keys t,
        (k, (((a, b) :: t).lookup k).getD d) = (k, (t.lookup k).getD d) := by
      intro k hk
      have hka : k ≠ a := by
        rintro rfl
        exact hnd'.1 hk
      rw [lookup_cons_ite, if_neg (by simpa using hka)]
    rw [show keys ((a, b) :: t) = a :: keys t from rfl, List.map_cons, List.map_congr_left hrest,
      ← ih hnd'.2]
    simp

end Assoc

namespace Patch

/-! ## Adding items -/

/-- Adding items one at a time appends those not listed, each once, in order. -/
theorem foldl_addItem (xs ys : List String) : ys.foldl addItem xs = Declaration.appendNew xs ys := by
  induction ys generalizing xs with
  | nil => simp [Declaration.appendNew]
  | cons y ys ih =>
    rw [List.foldl_cons, ih]
    by_cases hy : y ∈ xs
    · simp [addItem, Declaration.appendNew, hy]
    · simp [addItem, Declaration.appendNew, hy, List.eraseDups_cons, List.filter_filter]
      congr 1
      apply List.filter_congr
      intro a _
      rw [Bool.and_comm]
      by_cases h : a = y <;> simp [h]

theorem nodup_foldl_addItem {xs : List String} (h : xs.Nodup) (ys : List String) :
    (ys.foldl addItem xs).Nodup := by
  induction ys generalizing xs with
  | nil => exact h
  | cons y ys ih =>
    apply ih
    unfold addItem
    split
    · exact h
    · rename_i hy
      refine List.nodup_append.mpr ⟨h, by simp, fun a ha b hb => ?_⟩
      rw [List.mem_singleton] at hb
      subst hb
      rintro rfl
      exact hy (List.contains_iff_mem.mpr ha)

/-- Items already listed are not added again. -/
theorem foldl_addItem_of_forall_mem {xs ys : List String} (h : ∀ y ∈ ys, y ∈ xs) :
    ys.foldl addItem xs = xs := by
  induction ys with
  | nil => rfl
  | cons y ys ih =>
    rw [List.foldl_cons, addItem, if_pos (List.contains_iff_mem.mpr (h y (by simp)))]
    exact ih fun z hz => h z (by simp [hz])

/-- Every item added is listed afterwards. -/
theorem mem_foldl_addItem {xs ys : List String} {y : String} (hy : y ∈ ys) :
    y ∈ ys.foldl addItem xs := by
  rw [foldl_addItem, Declaration.appendNew]
  by_cases hx : y ∈ xs
  · exact List.mem_append_left _ hx
  · exact List.mem_append_right _ (List.mem_eraseDups.mpr (by simp [hy, hx]))

theorem appendNew_nil (ys : List String) : Declaration.appendNew [] ys = ys.eraseDups := by
  simp [Declaration.appendNew]

/-! ## Views of what is built -/

/-- The items that what is built lists for a target; a package not listed lists none. -/
def Target.listed (t : Target) (b : SharedModules × ModulePatch) : List String :=
  match t with
  | .addModules => b.1.addModules
  | .limitModules => b.1.limitModules
  | .addReads => b.2.addReads
  | .addExports p => (b.2.addExports.lookup p).getD []
  | .addOpens p => (b.2.addOpens.lookup p).getD []

/-- The packages listed for exports (`exports`) or for opens. -/
def packagesListed (exports : Bool) (b : SharedModules × ModulePatch) : List String :=
  Assoc.keys (if exports then b.2.addExports else b.2.addOpens)

/-- Changing the items of a target changes the items it lists, and no other target's. -/
theorem Target.listed_update (t t' : Target) (f : List String → List String)
    (b : SharedModules × ModulePatch) :
    t.listed (t'.update f b) = if t' = t then f (t.listed b) else t.listed b := by
  cases t' <;> cases t <;> simp [Target.update, Target.listed, Assoc.lookup_modify]
  -- two packages of the same kind: the same package or another
  all_goals
    rename_i p q
    by_cases h : q = p
    · subst h
      simp
    · simp [h, Ne.symm h]

/-- Changing the items of a target lists its package, if it has one of the kind. -/
theorem packagesListed_update (exports : Bool) (t : Target) (f : List String → List String)
    (b : SharedModules × ModulePatch) :
    packagesListed exports (t.update f b) =
      (t.packageIn exports).toList.foldl addItem (packagesListed exports b) := by
  cases t <;> cases exports <;>
    simp [Target.update, packagesListed, Target.packageIn, Assoc.keys_modify, addItem]

/-- Adding a package that is listed again changes nothing. -/
theorem foldl_addItem_toList_idem (o : Option String) (xs : List String) :
    o.toList.foldl addItem (o.toList.foldl addItem xs) = o.toList.foldl addItem xs := by
  cases o with
  | none => rfl
  | some p => by_cases hp : p ∈ xs <;> simp [addItem, hp]

/-! ## Views of a run -/

theorem Target.listed_addAll (t t' : Target) (vs : List String) (b : SharedModules × ModulePatch) :
    t.listed (t'.addAll vs b) = if t' = t then vs.foldl addItem (t.listed b) else t.listed b := by
  induction vs generalizing b with
  | nil => simp
  | cons v vs ih =>
    rw [Target.addAll_cons, ih, Target.effect, Target.listed_update]
    by_cases h : t' = t <;> simp [h]

theorem packagesListed_addAll (exports : Bool) (t : Target) (vs : List String)
    (b : SharedModules × ModulePatch) :
    packagesListed exports (t.addAll vs b) =
      if vs = [] then packagesListed exports b
      else (t.packageIn exports).toList.foldl addItem (packagesListed exports b) := by
  induction vs generalizing b with
  | nil => simp
  | cons v vs ih =>
    rw [Target.addAll_cons, ih, Target.effect, packagesListed_update]
    by_cases h : vs = [] <;>
      simp only [h, ↓reduceIte, List.cons_ne_nil, foldl_addItem_toList_idem]

/-- A statement adds its items to what its target lists, and changes no other target. -/
theorem Statement.listed_effect (t : Target) (s : Statement) (b : SharedModules × ModulePatch) :
    t.listed (s.effect b) =
      if s.target = t then s.items.toList.foldl addItem (t.listed b) else t.listed b := by
  rw [Statement.effect, Target.listed_addAll, Target.listed_update]
  by_cases h : s.target = t <;> simp [h]

/-- A statement lists its package, if it has one of the kind. -/
theorem Statement.packagesListed_effect (exports : Bool) (s : Statement)
    (b : SharedModules × ModulePatch) :
    packagesListed exports (s.effect b) =
      (s.target.packageIn exports).toList.foldl addItem (packagesListed exports b) := by
  -- a statement has an item, so its package is listed twice, which is listing it once
  have hne : s.items.toList ≠ [] := by simp [Items.toList]
  rw [Statement.effect, packagesListed_addAll, if_neg hne, packagesListed_update,
    foldl_addItem_toList_idem]

/-- What a run lists for a target: the items of the statements of that target, added one after
the other. -/
theorem listed_foldl_effect (t : Target) (ss : List Statement) (b : SharedModules × ModulePatch) :
    t.listed (ss.foldl (fun b s => s.effect b) b) =
      ((ss.filter (·.target == t)).flatMap (·.items.toList)).foldl addItem (t.listed b) := by
  induction ss generalizing b with
  | nil => rfl
  | cons s ss ih =>
    rw [List.foldl_cons, ih, Statement.listed_effect]
    by_cases h : s.target = t <;> simp [h, List.foldl_append]

/-- The packages a run lists: those of its statements of the kind, added one after the other. -/
theorem packagesListed_foldl_effect (exports : Bool) (ss : List Statement)
    (b : SharedModules × ModulePatch) :
    packagesListed exports (ss.foldl (fun b s => s.effect b) b) =
      (ss.filterMap (·.target.packageIn exports)).foldl addItem (packagesListed exports b) := by
  induction ss generalizing b with
  | nil => rfl
  | cons s ss ih =>
    rw [List.foldl_cons, ih, Statement.packagesListed_effect, List.filterMap_cons]
    cases s.target.packageIn exports <;> rfl

/-- A view of what is built that no change of the items of a target alters is the same after
a run. -/
theorem foldl_effect_of_update {γ : Type} (view : SharedModules × ModulePatch → γ)
    (h : ∀ t f b, view (Target.update t f b) = view b) (ss : List Statement)
    (b : SharedModules × ModulePatch) : view (ss.foldl (fun b s => s.effect b) b) = view b := by
  have hall : ∀ (t : Target) vs b, view (t.addAll vs b) = view b := by
    intro t vs
    induction vs with
    | nil => intro _; rfl
    | cons v vs ih => intro b; rw [Target.addAll_cons, ih, Target.effect, h]
  induction ss generalizing b with
  | nil => rfl
  | cons s ss ih => rw [List.foldl_cons, ih, Statement.effect, hall, h]

/-- No statement renames the patched module or changes the file it was read from. -/
theorem name_file_foldl_effect (ss : List Statement) (b : SharedModules × ModulePatch) :
    ((ss.foldl (fun b s => s.effect b) b).2.moduleName,
      (ss.foldl (fun b s => s.effect b) b).2.file) = (b.2.moduleName, b.2.file) :=
  foldl_effect_of_update (fun b => (b.2.moduleName, b.2.file)) (by intro t f b; cases t <;> rfl)
    ss b

/-! ## What a declaration means -/

/-- A table whose keys are packages added one after the other, each listing its items added one
after the other, holds each package once with its items once, in order. -/
theorem table_eq_map_eraseDups {tbl : List (String × List String)} {pkgs : List String}
    {items : String → List String} (hkeys : Assoc.keys tbl = pkgs.foldl addItem [])
    (hvals : ∀ p, (tbl.lookup p).getD [] = (items p).foldl addItem []) :
    tbl = pkgs.eraseDups.map fun p => (p, (items p).eraseDups) := by
  have hnd : (Assoc.keys tbl).Nodup := hkeys ▸ nodup_foldl_addItem List.nodup_nil pkgs
  rw [Assoc.eq_map_keys_lookup hnd [], hkeys, foldl_addItem, appendNew_nil]
  apply List.map_congr_left
  intro p _
  rw [hvals, foldl_addItem, appendNew_nil]

/-- Reading the statements of a declaration, from the shared modules and a patch that names the
module and the file, gives what the declaration means. -/
theorem Declaration.foldl_effect_eq_meaning (d : Declaration) (shared : SharedModules)
    (file : Option String) :
    d.statements.foldl (fun b s => s.effect b) (shared, { moduleName := some d.name, file }) =
      d.meaning shared file := by
  have hmods := listed_foldl_effect .addModules d.statements (shared, { moduleName := some d.name, file })
  have hlims := listed_foldl_effect .limitModules d.statements (shared, { moduleName := some d.name, file })
  have hreads := listed_foldl_effect .addReads d.statements (shared, { moduleName := some d.name, file })
  have hexports := fun p =>
    listed_foldl_effect (.addExports p) d.statements (shared, { moduleName := some d.name, file })
  have hopens := fun p =>
    listed_foldl_effect (.addOpens p) d.statements (shared, { moduleName := some d.name, file })
  have hpe := packagesListed_foldl_effect true d.statements (shared, { moduleName := some d.name, file })
  have hpo := packagesListed_foldl_effect false d.statements (shared, { moduleName := some d.name, file })
  have hnf := name_file_foldl_effect d.statements (shared, { moduleName := some d.name, file })
  generalize d.statements.foldl (fun b s => s.effect b) (shared, { moduleName := some d.name, file })
    = F at *
  obtain ⟨⟨am, lm⟩, ⟨mn, ar, ae, ao, fl⟩⟩ := F
  simp only [Target.listed, packagesListed, List.lookup_nil, Option.getD_none, ↓reduceIte,
    Bool.false_eq_true, Prod.mk.injEq] at hmods hlims hreads hexports hopens hpe hpo hnf
  obtain ⟨rfl, rfl⟩ := hnf
  simp only [Declaration.meaning, Declaration.itemsOf, Declaration.packages]
  rw [hmods, hlims, hreads, foldl_addItem, foldl_addItem, foldl_addItem, appendNew_nil,
    table_eq_map_eraseDups hpe hexports, table_eq_map_eraseDups hpo hopens]

/-- A patch that lists each package of its exports, and each package of its opens, once: what
resolving a patch expects. -/
def ModulePatch.Distinct (p : ModulePatch) : Prop :=
  (Assoc.keys p.addExports).Nodup ∧ (Assoc.keys p.addOpens).Nodup

/-- What a declaration means groups its exports and its opens by package, each package once. -/
theorem Declaration.meaning_distinct (d : Declaration) (shared : SharedModules)
    (file : Option String) : (d.meaning shared file).2.Distinct := by
  simp only [ModulePatch.Distinct, Declaration.meaning, Assoc.keys, List.map_map,
    Function.comp_def, List.map_id']
  exact ⟨eraseDups_nodup _, eraseDups_nodup _⟩

/-- The defaults of a module without patch file export and open nothing. -/
theorem defaults_distinct (shared : SharedModules) (moduleName : Option String) :
    (defaults shared moduleName).2.Distinct := by
  simp [ModulePatch.Distinct, defaults, Assoc.keys]

/-! ## Loading -/

section Load

variable (shared : SharedModules) (moduleName : Option String) (text : String)
  (file : Option String)

/-- `load` accepts a text exactly when it lexes to the tokens of a well-formed declaration, and
then gives the shared modules and the patch that the declaration means. -/
theorem load_eq_ok_iff (shared' : SharedModules) (p : ModulePatch) :
    load shared moduleName text file = (shared', .ok p) ↔
      ∃ d : Declaration, d.WellFormed ∧ Lexes text.toList d.tokens ∧
        d.meaning shared file = (shared', p) := by
  constructor
  · intro h
    cases htok : tokenize text.toList 1 with
    | error e => simp [load, htok] at h
    | ok ts =>
      rcases hrun : (readPatch.run).run { tokens := ts, patch := { moduleName, file }, shared } with
        ⟨_ | ⟨⟩, st⟩
      · simp [load, htok, hrun] at h
      · simp only [load, htok, hrun, Prod.mk.injEq, Except.ok.injEq] at h
        obtain ⟨rfl, rfl⟩ := h
        obtain ⟨d, hwf, hts, hbuilt⟩ := readPatch_sound hrun
        refine ⟨d, hwf, hts ▸ lexes_of_tokenize htok, ?_⟩
        rw [← Declaration.foldl_effect_eq_meaning]
        exact hbuilt.symm
  · rintro ⟨d, hwf, hlex, hmean⟩
    obtain ⟨ts, htok, hts⟩ := tokenize_of_lexes hlex 1
    obtain ⟨r', hrun, hbuilt⟩ :=
      readPatch_complete (r := { tokens := ts, patch := { moduleName, file }, shared }) hwf hts
    have hr' : (r'.shared, r'.patch) = (shared', p) := by
      rw [← hmean, ← Declaration.foldl_effect_eq_meaning]
      exact hbuilt
    obtain ⟨rfl, rfl⟩ := Prod.mk.inj hr'
    simp only [load, htok, hrun]

/-- On a text that lexes to the tokens of no well-formed declaration, `load` fails with a syntax
error of the patch file, at a line. -/
theorem load_error_of_not_declaration
    (h : ¬ ∃ d : Declaration, d.WellFormed ∧ Lexes text.toList d.tokens) :
    ∃ reason line,
      (load shared moduleName text file).2 = .error (.patchSyntax reason file (some line)) := by
  cases htok : tokenize text.toList 1 with
  | error e => exact ⟨e.reason, e.line, by simp [load, htok]⟩
  | ok ts =>
    rcases hrun : (readPatch.run).run { tokens := ts, patch := { moduleName, file }, shared } with
      ⟨_ | ⟨⟩, st⟩
    · rename_i e
      exact ⟨e.reason, e.line, by simp [load, htok, hrun]⟩
    · -- reading succeeded, so the text spells a declaration
      have hok : load shared moduleName text file = (st.shared, .ok st.patch) := by
        simp [load, htok, hrun]
      obtain ⟨d, hwf, hlex, -⟩ := (load_eq_ok_iff shared moduleName text file _ _).mp hok
      exact absurd ⟨d, hwf, hlex⟩ h

/-- `load` accepts exactly the texts that lex to the tokens of a well-formed declaration, giving
what the declaration means, and fails on every other text with a syntax error of the patch
file. The items of a statement may follow one another with or without a comma between them. -/
theorem load_accepts_exactly_declarations :
    (∀ shared' p, load shared moduleName text file = (shared', .ok p) ↔
      ∃ d : Declaration, d.WellFormed ∧ Lexes text.toList d.tokens ∧
        d.meaning shared file = (shared', p)) ∧
    ((¬ ∃ d : Declaration, d.WellFormed ∧ Lexes text.toList d.tokens) →
      ∃ reason line,
        (load shared moduleName text file).2 = .error (.patchSyntax reason file (some line))) :=
  ⟨load_eq_ok_iff shared moduleName text file,
    load_error_of_not_declaration shared moduleName text file⟩

/-- A patch that `load` gives lists each package of its exports, and of its opens, once. -/
theorem load_distinct {shared' : SharedModules} {p : ModulePatch}
    (h : load shared moduleName text file = (shared', .ok p)) : p.Distinct := by
  obtain ⟨d, -, -, hmean⟩ := (load_eq_ok_iff shared moduleName text file shared' p).mp h
  have hp : p = (d.meaning shared file).2 := by rw [hmean]
  rw [hp]
  exact d.meaning_distinct shared file

end Load

/-- The tokens of `patch-module m { add-modules a b; }`. -/
theorem lexes_items_without_comma :
    Lexes "patch-module m \x7b add-modules a b; \x7d".toList
      ["patch-module", "m", "\x7b", "add-modules", "a", "b", ";", "\x7d"] := by
  have h : (tokenize "patch-module m \x7b add-modules a b; \x7d".toList 1).toOption =
      some [("patch-module", 1), ("m", 1), ("\x7b", 1), ("add-modules", 1), ("a", 1), ("b", 1),
        (";", 1), ("\x7d", 1)] := by
    decide +kernel
  cases htok : tokenize "patch-module m \x7b add-modules a b; \x7d".toList 1 with
  | error e =>
    rw [htok] at h
    cases h
  | ok ts =>
    rw [htok] at h
    cases h
    exact lexes_of_tokenize htok

/-- Two items with no comma between them are read: `load` accepts
`patch-module m { add-modules a b; }`, which no declaration whose items are separated by commas
spells. -/
theorem load_accepts_items_without_comma :
    load {} none "patch-module m \x7b add-modules a b; \x7d" none =
        ({ addModules := ["a", "b"] }, .ok { moduleName := some "m" }) ∧
      ¬ ∃ d : Declaration, d.CommaSeparated ∧
        Lexes "patch-module m \x7b add-modules a b; \x7d".toList d.tokens := by
  constructor
  · have hvalid : ∀ v ∈ ["m", "a", "b"], Module.isValidName v = true := by
      intro v hv
      simp only [List.mem_cons, List.not_mem_nil, or_false] at hv
      rcases hv with rfl | rfl | rfl <;> decide
    refine (load_eq_ok_iff _ _ _ _ _ _).mpr
      ⟨⟨"m", [⟨.addModules, ⟨"a", [(false, "b")]⟩⟩]⟩, ?_, lexes_items_without_comma, rfl⟩
    refine ⟨hvalid "m" (by simp), ?_⟩
    intro s hs
    rw [List.mem_singleton] at hs
    subst hs
    refine ⟨by simp [Target.package?], fun v hv => .inl (hvalid v ?_)⟩
    simp only [Items.toList, List.map_cons, List.map_nil, List.mem_cons, List.not_mem_nil,
      or_false] at hv ⊢
    rcases hv with rfl | rfl <;> simp
  · rintro ⟨⟨name, ss⟩, hcomma, hlex⟩
    have htoks := Lexes.unique hlex lexes_items_without_comma
    simp only [Declaration.tokens, List.cons.injEq, true_and] at htoks
    obtain ⟨-, hss⟩ := htoks
    -- one statement, which must be `add-modules a b ;`
    rcases ss with _ | ⟨⟨t, ⟨first, rest⟩⟩, ss⟩
    · simp at hss
    have hrest : ∀ x ∈ rest, x.1 = true := hcomma _ List.mem_cons_self
    cases t <;> simp [Statement.tokens, Target.opening, Items.tokens] at hss
    -- after `a` comes either the `;` or a comma, never `b`
    obtain ⟨-, hss⟩ := hss
    rcases rest with _ | ⟨⟨c, x⟩, rest⟩
    · simp at hss
    · obtain rfl : c = true := hrest _ List.mem_cons_self
      simp [Items.sepTokens] at hss

end Patch

end JavaBuild
