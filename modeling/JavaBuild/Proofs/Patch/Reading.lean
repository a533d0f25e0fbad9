import JavaBuild.Proofs.Patch.Lexing

/-!
# Module-info patches: reading the tokens

The reader takes a token sequence exactly when it spells a well-formed declaration
(`readPatch_sound`, `readPatch_complete`), and what it builds is then what the declaration's
statements do one after the other (`Statement.effect`).

Each reading function is described by what one call can do: the tokens it consumes, spelled by
the grammar of `Patch.Language`, and what it adds. Soundness goes by induction on the fuel that
bounds the loops (a call that returns never runs out of it, since every round consumes a token);
completeness goes by induction on what the tokens spell. Items are read in segments: a segment is
one item, with a comma before it when the reader met one.
-/

namespace JavaBuild.Patch

variable {α β : Type}

/-! ## Running the reader -/

theorem run_bind_ok {x : ReadM α} {f : α → ReadM β} {r r' : Reading} {a : α}
    (h : x.run.run r = (.ok a, r')) : (x >>= f).run.run r = (f a).run.run r' := by
  simp only [ExceptT.run_bind, StateT.run_bind, h]
  rfl

theorem run_bind_error {x : ReadM α} {f : α → ReadM β} {r r' : Reading} {e : SyntaxError}
    (h : x.run.run r = (.error e, r')) : (x >>= f).run.run r = (.error e, r') := by
  simp only [ExceptT.run_bind, StateT.run_bind, h]
  rfl

/-- A sequence that returns ran both of its parts to the end. -/
theorem run_bind_eq_ok {x : ReadM α} {f : α → ReadM β} {r r'' : Reading} {b : β}
    (h : (x >>= f).run.run r = (.ok b, r'')) :
    ∃ a r', x.run.run r = (.ok a, r') ∧ (f a).run.run r' = (.ok b, r'') := by
  rcases hx : x.run.run r with ⟨_ | a, r'⟩
  · rw [run_bind_error hx] at h; cases h
  · exact ⟨a, r', rfl, by rwa [run_bind_ok hx] at h⟩

@[simp] theorem run_pure (a : α) (r : Reading) : (pure a : ReadM α).run.run r = (.ok a, r) := rfl

@[simp] theorem run_failWith (m : String) (r : Reading) :
    (failWith m : ReadM α).run.run r = (.error ⟨m, r.line⟩, r) := rfl

theorem run_next_cons {r : Reading} {t : String} {l : Nat} {rest : List (String × Nat)}
    (h : r.tokens = (t, l) :: rest) :
    next.run.run r = (.ok (some t), { r with tokens := rest, line := l }) := by
  obtain ⟨tokens, line, patch, shared⟩ := r
  subst h
  rfl

@[simp] theorem run_get (r : Reading) : (get : ReadM Reading).run.run r = (.ok r, r) := rfl

@[simp] theorem run_modify (f : Reading → Reading) (r : Reading) :
    (modify f : ReadM Unit).run.run r = (.ok (), f r) := rfl

theorem run_next_nil {r : Reading} (h : r.tokens = []) : next.run.run r = (.ok none, r) := by
  obtain ⟨tokens, line, patch, shared⟩ := r
  subst h
  rfl

/-- A name passes its check exactly when it is valid. -/
theorem run_validName (name : String) (module : Bool) (r : Reading) :
    (validName name module).run.run r =
      if Module.isValidName name then (.ok name, r)
      else (.error ⟨s!"Invalid {kindName module} name \"{name}\"", r.line⟩, r) := by
  unfold validName
  cases Module.isValidName name <;> rfl

/-- Checking a name and dropping it. -/
theorem run_discard_validName (name : String) (module : Bool) (r : Reading) :
    (discard (validName name module)).run.run r =
      if Module.isValidName name then (.ok (), r)
      else (.error ⟨s!"Invalid {kindName module} name \"{name}\"", r.line⟩, r) := by
  unfold validName
  cases Module.isValidName name <;> rfl

/-! ## What reading builds -/

/-- What reading has built so far: the shared modules and the patch. -/
def Reading.built (r : Reading) : SharedModules × ModulePatch := (r.shared, r.patch)

/-- Reading with what has been built changed, the tokens and line kept. -/
def Reading.rebuilt (r : Reading) (b : SharedModules × ModulePatch) : Reading :=
  { r with shared := b.1, patch := b.2 }

@[simp] theorem Reading.built_rebuilt (r : Reading) (b : SharedModules × ModulePatch) :
    (r.rebuilt b).built = b := rfl

@[simp] theorem Reading.tokens_rebuilt (r : Reading) (b : SharedModules × ModulePatch) :
    (r.rebuilt b).tokens = r.tokens := rfl

/-- Changes the list of items that a target designates; the list of a package that is not
listed yet starts empty, and the package is listed at the end. -/
def Target.update (t : Target) (f : List String → List String) (b : SharedModules × ModulePatch) :
    SharedModules × ModulePatch :=
  match t with
  | .addModules => ({ b.1 with addModules := f b.1.addModules }, b.2)
  | .limitModules => ({ b.1 with limitModules := f b.1.limitModules }, b.2)
  | .addReads => (b.1, { b.2 with addReads := f b.2.addReads })
  | .addExports p => (b.1, { b.2 with addExports := Assoc.modify b.2.addExports p [] f })
  | .addOpens p => (b.1, { b.2 with addOpens := Assoc.modify b.2.addOpens p [] f })

/-- What adding an item to a target does. -/
def Target.effect (t : Target) (v : String) (b : SharedModules × ModulePatch) : SharedModules × ModulePatch :=
  t.update (addItem · v) b

/-- Adds items to a target, one after the other. -/
def Target.addAll (t : Target) (vs : List String) (b : SharedModules × ModulePatch) :
    SharedModules × ModulePatch :=
  vs.foldl (fun b v => t.effect v b) b

@[simp] theorem Target.addAll_nil (t : Target) (b : SharedModules × ModulePatch) : t.addAll [] b = b :=
  rfl

@[simp] theorem Target.addAll_cons (t : Target) (v : String) (vs : List String)
    (b : SharedModules × ModulePatch) : t.addAll (v :: vs) b = t.addAll vs (t.effect v b) := rfl

/-- What reading a statement does: its package is listed, then its items are added. -/
def Statement.effect (s : Statement) (b : SharedModules × ModulePatch) : SharedModules × ModulePatch :=
  s.target.addAll s.items.toList (s.target.update id b)

/-- A target without package lists nothing before its items. -/
theorem Target.update_id_of_package {t : Target} (h : t.package? = none)
    (b : SharedModules × ModulePatch) : t.update id b = b := by
  cases t <;> first | rfl | cases h

theorem run_add (t : Target) (v : String) (r : Reading) :
    (t.add v).run.run r = (.ok (), r.rebuilt (t.effect v r.built)) := by
  cases t <;> rfl

/-! ## Consuming tokens -/

/-- The reader went from `r` to `r'` by taking tokens that spell `ws`. -/
def Reading.Consumes (r : Reading) (ws : List String) (r' : Reading) : Prop :=
  ∃ pre, r.tokens = pre ++ r'.tokens ∧ pre.map Prod.fst = ws

theorem Reading.consumes_cons {r r' : Reading} {v : String} {l : Nat}
    (h : r.tokens = (v, l) :: r'.tokens) : r.Consumes [v] r' :=
  ⟨[(v, l)], h, rfl⟩

theorem Reading.Consumes.trans {r r' r'' : Reading} {ws ws' : List String}
    (h : r.Consumes ws r') (h' : r'.Consumes ws' r'') : r.Consumes (ws ++ ws') r'' := by
  obtain ⟨pre, hr, hw⟩ := h
  obtain ⟨pre', hr', hw'⟩ := h'
  exact ⟨pre ++ pre', by rw [hr, hr', List.append_assoc], by simp [hw, hw']⟩

/-- Taking one more token before. -/
theorem Reading.Consumes.cons {r r' r'' : Reading} {v : String} {l : Nat} {ws : List String}
    (h : r'.Consumes ws r'') (htok : r.tokens = (v, l) :: r'.tokens) : r.Consumes (v :: ws) r'' :=
  (Reading.consumes_cons htok).trans h

theorem Reading.Consumes.length_le {r r' : Reading} {ws : List String} (h : r.Consumes ws r') :
    r'.tokens.length ≤ r.tokens.length := by
  obtain ⟨pre, hr, -⟩ := h
  simp [hr]

/-- Tokens that begin with a given word. -/
theorem eq_cons_of_map_fst {pre : List (String × Nat)} {v : String} {ws : List String}
    (h : pre.map Prod.fst = v :: ws) : ∃ l pre', pre = (v, l) :: pre' ∧ pre'.map Prod.fst = ws := by
  obtain ⟨⟨v', l⟩, pre', rfl, hv, hws⟩ := List.map_eq_cons_iff.mp h
  subst hv
  exact ⟨l, pre', rfl, hws⟩

/-! ## Items -/

/-- The marks that end or separate items. -/
def IsMark (v : String) : Prop := v = ";" ∨ v = "," ∨ v = "\x7b" ∨ v = "\x7d"

/-- A mark is no valid name: it is one character, which starts no identifier. -/
theorem isValidName_of_isMark {v : String} (h : IsMark v) : Module.isValidName v = false := by
  rcases h with rfl | rfl | rfl | rfl <;> decide

/-- No placeholder is a mark. -/
theorem Target.not_isMark_of_allowed (t : Target) {v : String} (h : v ∈ t.allowed) : ¬ IsMark v := by
  rintro (rfl | rfl | rfl | rfl) <;> cases t <;>
    simp [Target.allowed, allModulePath, testModulePath, allUnnamed, subprojectModules] at h

theorem Target.not_isMark_of_itemOk (t : Target) {v : String} (h : ItemOk t.allowed v) :
    ¬ IsMark v := by
  rcases h with h | h
  · intro hm
    simp [isValidName_of_isMark hm] at h
  · exact t.not_isMark_of_allowed h

section Items

variable {t : Target} {allowed : List String} {fuel l : Nat} {r : Reading}
  {rest : List (String × Nat)}

theorem run_readItems_end (h : r.tokens = (";", l) :: rest) :
    (readItems t allowed (fuel + 1) false).run.run r =
      (.ok (), { r with tokens := rest, line := l }) := by
  rw [readItems, run_bind_ok (run_next_cons h)]
  rfl

theorem run_readItems_comma (h : r.tokens = (",", l) :: rest) :
    (readItems t allowed (fuel + 1) false).run.run r =
      (readItems t allowed fuel true).run.run { r with tokens := rest, line := l } := by
  rw [readItems, run_bind_ok (run_next_cons h)]
  rfl

/-- An item is checked unless the statement allows it as a placeholder, then added. -/
theorem run_readItems_item {v : String} {expectName : Bool} (h : r.tokens = (v, l) :: rest)
    (hm : ¬ IsMark v) :
    (readItems t allowed (fuel + 1) expectName).run.run r =
      if ItemOk allowed v then
        (readItems t allowed fuel false).run.run
          ({ r with tokens := rest, line := l }.rebuilt (t.effect v r.built))
      else (.error ⟨s!"Invalid module name \"{v}\"", l⟩, { r with tokens := rest, line := l }) := by
  rw [readItems, run_bind_ok (run_next_cons h)]
  split
  -- the marks have branches of their own
  case h_6 v' _ _ _ _ heq =>
    cases Option.some.inj heq
    simp only
    by_cases hc : allowed.contains v
    · -- a placeholder of the statement needs no check
      have hok : ItemOk allowed v := .inr (by simpa using hc)
      simp only [hc, Bool.not_true, Bool.false_eq_true, ↓reduceIte, hok]
      exact run_bind_ok (run_add t v _)
    · simp only [hc, Bool.not_false, ↓reduceIte]
      cases hn : Module.isValidName v
      · have hok : ¬ ItemOk allowed v := by
          simp only [List.contains_iff_mem] at hc
          simp [ItemOk, hn, hc]
        rw [if_neg hok, run_bind_error (by rw [run_discard_validName, hn]; rfl)]
        rfl
      · have hok : ItemOk allowed v := .inl hn
        rw [if_pos hok, run_bind_ok (by rw [run_discard_validName, hn]; rfl)]
        exact run_bind_ok (run_add t v _)
  all_goals simp_all [IsMark]

/-- What one round of reading items can do: meet the `;` that ends them (after an item), meet a
comma (after an item) and go on expecting an item, or take an item that passes its check. -/
theorem readItems_succ_eq_ok {expectName : Bool} {r' : Reading}
    (h : (readItems t allowed (fuel + 1) expectName).run.run r = (.ok (), r')) :
    (∃ l, r.tokens = (";", l) :: r'.tokens ∧ expectName = false ∧ r'.built = r.built) ∨
      (∃ l rest, r.tokens = (",", l) :: rest ∧ expectName = false ∧
        (readItems t allowed fuel true).run.run { r with tokens := rest, line := l } =
          (.ok (), r')) ∨
      (∃ v l rest, r.tokens = (v, l) :: rest ∧ ItemOk allowed v ∧
        (readItems t allowed fuel false).run.run
          ({ r with tokens := rest, line := l }.rebuilt (t.effect v r.built)) = (.ok (), r')) := by
  rcases htok : r.tokens with _ | ⟨⟨v, l⟩, rest⟩
  · rw [readItems, run_bind_ok (run_next_nil htok)] at h
    cases h
  by_cases hm : IsMark v
  · rcases hm with rfl | rfl | rfl | rfl
    · cases expectName
      · rw [run_readItems_end htok] at h
        cases h
        exact .inl ⟨l, rfl, rfl, rfl⟩
      · rw [readItems, run_bind_ok (run_next_cons htok)] at h
        cases h
    · cases expectName
      · rw [run_readItems_comma htok] at h
        exact .inr (.inl ⟨l, rest, rfl, rfl, h⟩)
      · rw [readItems, run_bind_ok (run_next_cons htok)] at h
        cases h
    -- braces never stand among items
    all_goals
      rw [readItems, run_bind_ok (run_next_cons htok)] at h
      cases h
  · rw [run_readItems_item htok hm] at h
    split at h
    · exact .inr (.inr ⟨v, l, rest, rfl, ‹_›, h⟩)
    · cases h

/-- Reading items that returns took, up to the `;`, segments of items that pass their checks
and added them; after a statement's keyword or a comma, the first segment has no comma. -/
theorem readItems_sound {fuel : Nat} : ∀ {expectName : Bool} {r r' : Reading},
    r.tokens.length < fuel → (readItems t allowed fuel expectName).run.run r = (.ok (), r') →
    ∃ segs : List (Bool × String), r.Consumes (segs.flatMap Items.sepTokens ++ [";"]) r' ∧
      (expectName = true → ∃ v more, segs = (false, v) :: more) ∧
      (∀ s ∈ segs, ItemOk allowed s.2) ∧ r'.built = t.addAll (segs.map (·.2)) r.built := by
  induction fuel with
  | zero => intro _ _ _ hlen; exact absurd hlen (Nat.not_lt_zero _)
  | succ fuel ih =>
    intro expectName r r' hlen h
    rcases readItems_succ_eq_ok h with ⟨l, htok, hexp, hb⟩ | ⟨l, rest, htok, hexp, h'⟩ |
      ⟨v, l, rest, htok, hok, h'⟩
    · -- the `;`
      exact ⟨[], Reading.consumes_cons htok, by simp [hexp], by simp, by simp [hb]⟩
    · -- a comma, then items as after a keyword
      have hlen' : rest.length < fuel := by simp [htok] at hlen; omega
      obtain ⟨segs, hc, hfirst, hoks, hb⟩ := ih hlen' h'
      obtain ⟨v, more, rfl⟩ := hfirst rfl
      refine ⟨(true, v) :: more, ?_, by simp [hexp], by simpa using hoks, hb⟩
      simpa [Items.sepTokens] using hc.cons htok
    · -- an item
      have hlen' : rest.length < fuel := by simp [htok] at hlen; omega
      obtain ⟨segs, hc, -, hoks, hb⟩ := ih hlen' h'
      refine ⟨(false, v) :: segs, ?_, fun _ => ⟨v, segs, rfl⟩,
        List.forall_mem_cons.mpr ⟨hok, hoks⟩, hb⟩
      simpa [Items.sepTokens] using hc.cons htok

/-- Items that pass their checks, up to a `;`, are read in full when the fuel exceeds the tokens
left; after a statement's keyword or a comma, the first segment has no comma. -/
theorem readItems_complete {segs : List (Bool × String)} {fuel : Nat} {expectName : Bool}
    {pre : List (String × Nat)} (htok : r.tokens = pre ++ rest)
    (hpre : pre.map Prod.fst = segs.flatMap Items.sepTokens ++ [";"]) (hlen : r.tokens.length < fuel)
    (hfirst : expectName = true → ∃ v more, segs = (false, v) :: more)
    (hoks : ∀ s ∈ segs, ItemOk t.allowed s.2) :
    ∃ r', (readItems t t.allowed fuel expectName).run.run r = (.ok (), r') ∧ r'.tokens = rest ∧
      r'.built = t.addAll (segs.map (·.2)) r.built := by
  induction segs generalizing fuel expectName r pre with
  | nil =>
    obtain ⟨l, pre', rfl, hpre'⟩ := eq_cons_of_map_fst hpre
    rw [List.map_eq_nil_iff] at hpre'
    subst hpre'
    obtain ⟨fuel, rfl⟩ := Nat.exists_eq_add_one_of_ne_zero (by omega : fuel ≠ 0)
    cases expectName
    · exact ⟨_, run_readItems_end htok, rfl, rfl⟩
    · obtain ⟨_, _, h⟩ := hfirst rfl
      cases h
  | cons s segs ih =>
    obtain ⟨c, v⟩ := s
    have hok : ItemOk t.allowed v := hoks _ List.mem_cons_self
    have hoks' : ∀ s ∈ segs, ItemOk t.allowed s.2 := fun s hs => hoks s (List.mem_cons_of_mem _ hs)
    cases c
    · -- an item
      obtain ⟨l, pre', rfl, hpre'⟩ := eq_cons_of_map_fst hpre
      obtain ⟨fuel, rfl⟩ := Nat.exists_eq_add_one_of_ne_zero (by omega : fuel ≠ 0)
      rw [run_readItems_item htok (t.not_isMark_of_itemOk hok), if_pos hok]
      exact ih rfl hpre' (by simp [htok] at hlen ⊢; omega) (by simp) hoks'
    · -- a comma, then the item
      cases expectName
      · obtain ⟨l, pre', rfl, hpre'⟩ := eq_cons_of_map_fst hpre
        obtain ⟨l', pre'', rfl, hpre''⟩ := eq_cons_of_map_fst hpre'
        obtain ⟨fuel, rfl⟩ := Nat.exists_eq_add_one_of_ne_zero (by omega : fuel ≠ 0)
        obtain ⟨fuel, rfl⟩ :=
          Nat.exists_eq_add_one_of_ne_zero (by simp [htok] at hlen; omega : fuel ≠ 0)
        rw [run_readItems_comma htok, run_readItems_item rfl (t.not_isMark_of_itemOk hok),
          if_pos hok]
        exact ih rfl hpre'' (by simp [htok] at hlen ⊢; omega) (by simp) hoks'
      · obtain ⟨_, _, h⟩ := hfirst rfl
        cases h

/-- Items read after a keyword are the items of a statement. -/
theorem readItems_sound_items {allowed : List String} {r' : Reading}
    (h : (readItems t allowed fuel true).run.run r = (.ok (), r')) (hlen : r.tokens.length < fuel) :
    ∃ i : Items, (∀ v ∈ i.toList, ItemOk allowed v) ∧ r.Consumes (i.tokens ++ [";"]) r' ∧
      r'.built = t.addAll i.toList r.built := by
  obtain ⟨segs, hc, hfirst, hoks, hb⟩ := readItems_sound hlen h
  obtain ⟨v, more, rfl⟩ := hfirst rfl
  refine ⟨⟨v, more⟩, ?_, hc, hb⟩
  simp only [Items.toList, List.forall_mem_cons, List.forall_mem_map] at hoks ⊢
  exact hoks

/-- The items of a statement, up to its `;`, are read in full. -/
theorem readItems_complete_items {i : Items} {pre : List (String × Nat)}
    (htok : r.tokens = pre ++ rest) (hpre : pre.map Prod.fst = i.tokens ++ [";"])
    (hlen : r.tokens.length < fuel) (hoks : ∀ v ∈ i.toList, ItemOk t.allowed v) :
    ∃ r', (readItems t t.allowed fuel true).run.run r = (.ok (), r') ∧ r'.tokens = rest ∧
      r'.built = t.addAll i.toList r.built := by
  -- the first item is a segment without comma
  have hsegs : pre.map Prod.fst = ((false, i.first) :: i.rest).flatMap Items.sepTokens ++ [";"] :=
    hpre
  simp only [Items.toList, List.forall_mem_cons, List.forall_mem_map] at hoks
  exact readItems_complete htok hsegs hlen (fun _ => ⟨_, _, rfl⟩) (List.forall_mem_cons.mpr hoks)

end Items

/-! ## Keywords and names -/

section Names

variable {r r' : Reading} {v : String} {l : Nat} {rest : List (String × Nat)}

theorem run_expect_cons (h : r.tokens = (v, l) :: rest) :
    (expect v).run.run r = (.ok (), { r with tokens := rest, line := l }) := by
  rw [expect, run_bind_ok (run_next_cons h)]
  simp
  rfl

/-- An expected token that is read was the next token; nothing is built. -/
theorem expect_eq_ok (h : (expect v).run.run r = (.ok (), r')) :
    r.Consumes [v] r' ∧ r'.built = r.built := by
  rcases htok : r.tokens with _ | ⟨⟨w, l⟩, rest⟩
  · rw [expect, run_bind_ok (run_next_nil htok)] at h
    simp at h
    cases h
  · by_cases hw : w = v
    · subst hw
      rw [run_expect_cons htok] at h
      cases h
      exact ⟨Reading.consumes_cons htok, rfl⟩
    · rw [expect, run_bind_ok (run_next_cons htok)] at h
      simp [hw] at h
      cases h

/-- A valid name is none of the punctuation marks. -/
theorem punct_any_eq_false (hv : Module.isValidName v = true) :
    "{},;".toList.any (String.singleton · == v) = false := by
  rw [Bool.eq_false_iff]
  intro h
  obtain ⟨c, hc, hcv⟩ := List.any_eq_true.mp h
  have hmark : IsMark v := by
    rw [← beq_iff_eq.mp hcv]
    rw [punct_chars] at hc
    simp only [List.mem_cons, List.not_mem_nil, or_false] at hc
    rcases hc with rfl | rfl | rfl | rfl <;> simp +decide [IsMark]
  simp [isValidName_of_isMark hmark] at hv

theorem run_readName_valid (h : r.tokens = (v, l) :: rest) (hv : Module.isValidName v = true)
    (module : Bool) : (readName module).run.run r = (.ok v, { r with tokens := rest, line := l }) := by
  rw [readName, run_bind_ok (run_next_cons h)]
  dsimp only
  simp only [punct_any_eq_false hv, Bool.false_eq_true, ↓reduceIte]
  rw [run_validName, if_pos hv]

/-- A name that is read was the next token, and is valid; nothing is built. -/
theorem readName_eq_ok {module : Bool} (h : (readName module).run.run r = (.ok v, r')) :
    r.Consumes [v] r' ∧ r'.built = r.built ∧ Module.isValidName v = true := by
  rcases htok : r.tokens with _ | ⟨⟨w, l⟩, rest⟩
  · rw [readName, run_bind_ok (run_next_nil htok)] at h
    cases h
  by_cases hw : Module.isValidName w = true
  · rw [run_readName_valid htok hw] at h
    cases h
    exact ⟨Reading.consumes_cons htok, rfl, hw⟩
  · -- an invalid name fails, a mark before its check
    rw [readName, run_bind_ok (run_next_cons htok)] at h
    dsimp only at h
    split at h
    · rw [run_bind_error (run_failWith _ _)] at h
      cases h
    · rw [run_validName, if_neg hw] at h
      cases h

end Names

/-! ## Statements -/

/-- The target of the items of an export (`exports`) or an open of a package. -/
def qualifiedTarget (exports : Bool) (p : String) : Target :=
  if exports then .addExports p else .addOpens p

section Statements

variable {r r' : Reading} {fuel l : Nat} {rest : List (String × Nat)}

/-- Reading a qualified statement that returns took a valid package, `to` and the items of a
statement; the package is listed before its items. -/
theorem readQualified_sound {exports : Bool} {allowed : List String}
    (hlen : r.tokens.length < fuel) (h : (readQualified exports allowed fuel).run.run r = (.ok (), r')) :
    ∃ (p : String) (i : Items), Module.isValidName p = true ∧ (∀ v ∈ i.toList, ItemOk allowed v) ∧
      r.Consumes (p :: "to" :: (i.tokens ++ [";"])) r' ∧
      r'.built = (qualifiedTarget exports p).addAll i.toList
        ((qualifiedTarget exports p).update id r.built) := by
  unfold readQualified at h
  obtain ⟨p, r1, h1, h⟩ := run_bind_eq_ok h
  obtain ⟨hc1, hb1, hp⟩ := readName_eq_ok h1
  obtain ⟨_, r2, h2, h⟩ := run_bind_eq_ok h
  obtain ⟨hc2, hb2⟩ := expect_eq_ok h2
  obtain ⟨_, r3, h3, h⟩ := run_bind_eq_ok h
  rw [run_modify] at h3
  cases h3
  have hlen' : r2.tokens.length < fuel := by
    have := hc1.length_le
    have := hc2.length_le
    omega
  obtain ⟨i, hoks, hc, hb⟩ := readItems_sound_items h hlen'
  refine ⟨p, i, hp, hoks, hc1.trans (hc2.trans hc), ?_⟩
  rw [hb, ← hb1, ← hb2]
  cases exports <;> rfl

/-- A valid package, `to` and items that pass their checks are read in full. -/
theorem readQualified_complete {exports : Bool} {p : String} {i : Items}
    {pre : List (String × Nat)} (hp : Module.isValidName p = true) (htok : r.tokens = pre ++ rest)
    (hpre : pre.map Prod.fst = p :: "to" :: (i.tokens ++ [";"])) (hlen : r.tokens.length < fuel)
    (hoks : ∀ v ∈ i.toList, ItemOk (qualifiedTarget exports p).allowed v) :
    ∃ r', (readQualified exports (qualifiedTarget exports p).allowed fuel).run.run r = (.ok (), r') ∧
      r'.tokens = rest ∧
      r'.built = (qualifiedTarget exports p).addAll i.toList
        ((qualifiedTarget exports p).update id r.built) := by
  obtain ⟨l1, pre1, rfl, hpre1⟩ := eq_cons_of_map_fst hpre
  obtain ⟨l2, pre2, rfl, hpre2⟩ := eq_cons_of_map_fst hpre1
  have hlen' : (pre2 ++ rest).length < fuel := by simp [htok] at hlen ⊢; omega
  unfold readQualified
  rw [run_bind_ok (run_readName_valid htok hp false), run_bind_ok (run_expect_cons rfl),
    run_bind_ok (run_modify _ _)]
  -- the package listed, the items are read as those of any statement
  cases exports <;> exact readItems_complete_items rfl hpre2 hlen' hoks

/-- What reading does after the keyword of a statement, given the fuel of its items; no other
keyword opens a statement. -/
def statementBody (k : String) (fuel : Nat) : Option (ReadM Unit) :=
  match k with
  | "add-modules" => some (readItems .addModules [allModulePath, testModulePath] fuel true)
  | "limit-modules" => some (readItems .limitModules [] fuel true)
  | "add-reads" => some (readItems .addReads [testModulePath] fuel true)
  | "add-exports" => some (readQualified true [allUnnamed, testModulePath, subprojectModules] fuel)
  | "add-opens" => some (readQualified false [] fuel)
  | _ => none

/-- A statement without package whose items are read after its keyword. -/
theorem statement_of_readItems {t : Target} {k : String} (ht : t.package? = none)
    (hk : t.opening = [k]) (h : (readItems t t.allowed fuel true).run.run r = (.ok (), r'))
    (hlen : r.tokens.length < fuel) :
    ∃ s : Statement, s.WellFormed ∧ ∃ ws, s.tokens = k :: ws ∧ r.Consumes ws r' ∧
      r'.built = s.effect r.built := by
  obtain ⟨i, hoks, hc, hb⟩ := readItems_sound_items h hlen
  refine ⟨⟨t, i⟩, ⟨by simp [ht], hoks⟩, _, by simp [Statement.tokens, hk], hc, ?_⟩
  rw [hb, Statement.effect, Target.update_id_of_package ht]

/-- What is read after a keyword, when reading returns, completes a well-formed statement, and
reading did what the statement does. -/
theorem statementBody_sound {k : String} {body : ReadM Unit}
    (hb : statementBody k fuel = some body) (h : body.run.run r = (.ok (), r'))
    (hlen : r.tokens.length < fuel) :
    ∃ s : Statement, s.WellFormed ∧ ∃ ws, s.tokens = k :: ws ∧ r.Consumes ws r' ∧
      r'.built = s.effect r.built := by
  unfold statementBody at hb
  split at hb <;> cases hb
  · exact statement_of_readItems rfl rfl h hlen
  · exact statement_of_readItems rfl rfl h hlen
  · exact statement_of_readItems rfl rfl h hlen
  · obtain ⟨p, i, hp, hoks, hc, hbuilt⟩ := readQualified_sound hlen h
    exact ⟨⟨.addExports p, i⟩, ⟨by simp [Target.package?, hp], hoks⟩, _, rfl, hc, hbuilt⟩
  · obtain ⟨p, i, hp, hoks, hc, hbuilt⟩ := readQualified_sound hlen h
    exact ⟨⟨.addOpens p, i⟩, ⟨by simp [Target.package?, hp], hoks⟩, _, rfl, hc, hbuilt⟩

/-- The rest of a well-formed statement after its keyword is read in full. -/
theorem statementBody_complete {s : Statement} {k : String} {ws : List String}
    {pre : List (String × Nat)} (hs : s.WellFormed) (hk : s.tokens = k :: ws)
    (htok : r.tokens = pre ++ rest) (hpre : pre.map Prod.fst = ws) (hlen : r.tokens.length < fuel) :
    ∃ body, statementBody k fuel = some body ∧ ∃ r', body.run.run r = (.ok (), r') ∧
      r'.tokens = rest ∧ r'.built = s.effect r.built := by
  obtain ⟨t, i⟩ := s
  obtain ⟨hpkg, hoks⟩ := hs
  -- the keyword is the statement's first token
  cases t <;> obtain ⟨rfl, rfl⟩ := List.cons.inj hk
  case addModules => exact ⟨_, rfl, readItems_complete_items htok hpre hlen hoks⟩
  case limitModules => exact ⟨_, rfl, readItems_complete_items htok hpre hlen hoks⟩
  case addReads => exact ⟨_, rfl, readItems_complete_items htok hpre hlen hoks⟩
  case addExports p => exact ⟨_, rfl, readQualified_complete (hpkg p rfl) htok hpre hlen hoks⟩
  case addOpens p => exact ⟨_, rfl, readQualified_complete (hpkg p rfl) htok hpre hlen hoks⟩

theorem run_readStatements_nil (h : r.tokens = []) :
    (readStatements (fuel + 1)).run.run r = (.error ⟨"Expected \"\x7d\"", r.line⟩, r) := by
  rw [readStatements, run_bind_ok (run_get r), run_bind_ok (run_next_nil h)]
  rfl

theorem run_readStatements_close (h : r.tokens = ("\x7d", l) :: rest) :
    (readStatements (fuel + 1)).run.run r = (.ok (), { r with tokens := rest, line := l }) := by
  rw [readStatements, run_bind_ok (run_get r), run_bind_ok (run_next_cons h)]
  rfl

/-- After its keyword, a statement is read by the reading of its kind; any word other than a
keyword or the closing brace is an error. -/
theorem run_readStatements_keyword {k : String} (h : r.tokens = (k, l) :: rest) (hk : k ≠ "\x7d") :
    (readStatements (fuel + 1)).run.run r =
      match statementBody k (rest.length + 2) with
      | some body =>
        (body >>= fun _ => readStatements fuel).run.run { r with tokens := rest, line := l }
      | none => (.error ⟨s!"Unknown keyword \"{k}\"", l⟩, { r with tokens := rest, line := l }) := by
  rw [readStatements, run_bind_ok (run_get r), run_bind_ok (run_next_cons h)]
  split
  next heq => exact absurd (Option.some.inj heq) hk
  next heq => cases heq
  -- a keyword: its fuel counts the tokens left before it
  iterate 5
    next heq =>
      cases Option.some.inj heq
      rw [h]
      rfl
  -- any other word opens no statement
  next k' _ h1 h2 h3 h4 h5 heq =>
    cases Option.some.inj heq
    have hnone : statementBody k (rest.length + 2) = none := by
      unfold statementBody
      split <;> simp_all
    rw [hnone]
    rfl

/-- A statement begins with its keyword, which is no closing brace. -/
theorem Statement.tokens_eq_cons (s : Statement) :
    ∃ k ws, s.tokens = k :: ws ∧ k ≠ "\x7d" := by
  obtain ⟨t, i⟩ := s
  cases t <;> exact ⟨_, _, rfl, by decide⟩

/-- Reading statements that returns, with fuel beyond the tokens left, took well-formed
statements and the closing brace, and did what the statements do, one after the other. -/
theorem readStatements_sound {fuel : Nat} : ∀ {r r' : Reading}, r.tokens.length < fuel →
    (readStatements fuel).run.run r = (.ok (), r') →
    ∃ ss : List Statement, (∀ s ∈ ss, s.WellFormed) ∧
      r.Consumes (ss.flatMap Statement.tokens ++ ["\x7d"]) r' ∧
      r'.built = ss.foldl (fun b s => s.effect b) r.built := by
  induction fuel with
  | zero => intro _ _ hlen; exact absurd hlen (Nat.not_lt_zero _)
  | succ fuel ih =>
    intro r r' hlen h
    rcases htok : r.tokens with _ | ⟨⟨k, l⟩, rest⟩
    · rw [run_readStatements_nil htok] at h
      cases h
    by_cases hk : k = "\x7d"
    · subst hk
      rw [run_readStatements_close htok] at h
      cases h
      exact ⟨[], by simp, Reading.consumes_cons htok, rfl⟩
    rw [run_readStatements_keyword htok hk] at h
    split at h
    · next body hbody =>
      obtain ⟨_, r2, h2, h⟩ := run_bind_eq_ok h
      obtain ⟨s, hs, ws, hsw, hc, hb⟩ := statementBody_sound hbody h2 (by simp)
      have hlen' : r2.tokens.length < fuel := by
        have := hc.length_le
        simp [htok] at hlen this
        omega
      obtain ⟨ss, hss, hc', hb'⟩ := ih hlen' h
      refine ⟨s :: ss, List.forall_mem_cons.mpr ⟨hs, hss⟩, ?_, ?_⟩
      · rw [List.flatMap_cons, hsw, List.cons_append, List.cons_append, List.append_assoc]
        exact (hc.trans hc').cons htok
      · rw [hb', hb]
        rfl
    · cases h

/-- Well-formed statements and the closing brace are read in full when the fuel exceeds the
tokens left. -/
theorem readStatements_complete {ss : List Statement} (hss : ∀ s ∈ ss, s.WellFormed) :
    ∀ {fuel : Nat} {r : Reading} {pre : List (String × Nat)}, r.tokens = pre ++ rest →
    pre.map Prod.fst = ss.flatMap Statement.tokens ++ ["\x7d"] → r.tokens.length < fuel →
    ∃ r', (readStatements fuel).run.run r = (.ok (), r') ∧ r'.tokens = rest ∧
      r'.built = ss.foldl (fun b s => s.effect b) r.built := by
  induction ss with
  | nil =>
    intro fuel r pre htok hpre hlen
    obtain ⟨l, pre', rfl, hpre'⟩ := eq_cons_of_map_fst hpre
    rw [List.map_eq_nil_iff] at hpre'
    subst hpre'
    obtain ⟨fuel, rfl⟩ := Nat.exists_eq_add_one_of_ne_zero (by omega : fuel ≠ 0)
    exact ⟨_, run_readStatements_close htok, rfl, rfl⟩
  | cons s ss ih =>
    intro fuel r pre htok hpre hlen
    obtain ⟨k, ws, hk, hkc⟩ := s.tokens_eq_cons
    rw [List.flatMap_cons, hk, List.cons_append, List.cons_append, List.append_assoc] at hpre
    obtain ⟨l, pre', rfl, hpre'⟩ := eq_cons_of_map_fst hpre
    obtain ⟨pre1, pre2, rfl, hpre1, hpre2⟩ := List.map_eq_append_iff.mp hpre'
    obtain ⟨fuel, rfl⟩ := Nat.exists_eq_add_one_of_ne_zero (by omega : fuel ≠ 0)
    have htok1 : ({ r with tokens := pre1 ++ pre2 ++ rest, line := l } : Reading).tokens =
        pre1 ++ (pre2 ++ rest) := List.append_assoc _ _ _
    have hlen1 : (pre1 ++ pre2 ++ rest).length < (pre1 ++ pre2 ++ rest).length + 2 := by omega
    obtain ⟨body, hbody, r2, hrun, htok2, hb⟩ :=
      statementBody_complete (hss s List.mem_cons_self) hk htok1 hpre1 hlen1
    have hkey : r.tokens = (k, l) :: (pre1 ++ pre2 ++ rest) := by simp [htok]
    have hlen2 : r2.tokens.length < fuel := by simp [htok, htok2] at hlen ⊢; omega
    obtain ⟨r', hrun', htok', hb'⟩ :=
      ih (fun s hs => hss s (List.mem_cons_of_mem _ hs)) htok2 hpre2 hlen2
    rw [run_readStatements_keyword hkey hkc, hbody]
    dsimp only
    rw [run_bind_ok hrun]
    exact ⟨r', hrun', htok', by rw [hb', hb]; rfl⟩

end Statements

/-! ## Declarations -/

section Declarations

variable {r r' : Reading}

/-- The reader takes only token sequences that spell a well-formed declaration, and then does
what its statements do, one after the other, to what it found built, with the patched module
named. -/
theorem readPatch_sound (h : readPatch.run.run r = (.ok (), r')) :
    ∃ d : Declaration, d.WellFormed ∧ r.tokens.map Prod.fst = d.tokens ∧
      r'.built = d.statements.foldl (fun b s => s.effect b)
        (r.shared, { r.patch with moduleName := some d.name }) := by
  unfold readPatch at h
  obtain ⟨_, r1, h1, h⟩ := run_bind_eq_ok h
  obtain ⟨hc1, hb1⟩ := expect_eq_ok h1
  obtain ⟨name, r2, h2, h⟩ := run_bind_eq_ok h
  obtain ⟨hc2, hb2, hname⟩ := readName_eq_ok h2
  obtain ⟨_, r3, h3, h⟩ := run_bind_eq_ok h
  rw [run_modify] at h3
  cases h3
  obtain ⟨_, r4, h4, h⟩ := run_bind_eq_ok h
  obtain ⟨hc4, hb4⟩ := expect_eq_ok h4
  obtain ⟨_, r5, h5, h⟩ := run_bind_eq_ok h
  rw [run_get] at h5
  cases h5
  obtain ⟨_, r6, h6, h⟩ := run_bind_eq_ok h
  obtain ⟨ss, hss, hc6, hb6⟩ := readStatements_sound (Nat.lt_succ_self _) h6
  -- nothing may follow the closing brace
  obtain ⟨_, r7, h7, h⟩ := run_bind_eq_ok h
  rcases hend : r6.tokens with _ | ⟨⟨w, l⟩, rest⟩
  · rw [run_next_nil hend] at h7
    cases h7
    cases h
    obtain ⟨pre, hr, hpre⟩ := hc1.trans (hc2.trans (hc4.trans hc6))
    refine ⟨⟨name, ss⟩, ⟨hname, hss⟩, by simp [hr, hend, hpre, Declaration.tokens], ?_⟩
    obtain ⟨hshared, hpatch⟩ := Prod.mk.inj (hb2.trans hb1)
    rw [hb6, hb4]
    simp only [Reading.built] at hshared hpatch ⊢
    rw [hshared, hpatch]
  · rw [run_next_cons hend] at h7
    cases h7
    cases h

/-- The reader takes every token sequence that spells a well-formed declaration. -/
theorem readPatch_complete {d : Declaration} (hd : d.WellFormed)
    (htok : r.tokens.map Prod.fst = d.tokens) :
    ∃ r', readPatch.run.run r = (.ok (), r') ∧
      r'.built = d.statements.foldl (fun b s => s.effect b)
        (r.shared, { r.patch with moduleName := some d.name }) := by
  obtain ⟨l1, pre1, h1, hpre1⟩ := eq_cons_of_map_fst htok
  obtain ⟨l2, pre2, rfl, hpre2⟩ := eq_cons_of_map_fst hpre1
  obtain ⟨l3, pre3, rfl, hpre3⟩ := eq_cons_of_map_fst hpre2
  -- the state in which the statements are read
  let s : Reading :=
    { tokens := pre3, line := l3, patch := { r.patch with moduleName := some d.name },
      shared := r.shared }
  have hs : s.tokens = pre3 ++ [] := (List.append_nil _).symm
  obtain ⟨r', hrun, hend, hb⟩ :=
    readStatements_complete hd.2 hs hpre3 (Nat.lt_succ_self s.tokens.length)
  unfold readPatch
  rw [run_bind_ok (run_expect_cons h1), run_bind_ok (run_readName_valid rfl hd.1 true),
    run_bind_ok (run_modify _ _), run_bind_ok (run_expect_cons rfl), run_bind_ok (run_get _)]
  rw [run_bind_ok hrun, run_bind_ok (run_next_nil hend)]
  exact ⟨r', rfl, hb⟩

end Declarations

end JavaBuild.Patch
