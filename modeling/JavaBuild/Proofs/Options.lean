import JavaBuild.Options
import JavaBuild.Javac.Flags

/-!
# Option lists are the groups appended to them

Every call that adds an option to an `OptionList` adds one group: a flag alone, or a flag and its
value. `OptionGroups` keeps those groups as a list, with the place of the release group, and
says what each call does to them (`OptionGroups.step`): a call that the checker accepts appends
its group, `setRelease` replaces the value of the release group in place or removes the group.

The option list holds the arguments of those groups in order (`Represents`), and regrouping
reads them back (`pairsOf_flatMap_groupArgs`) as long as the checker reads each group as it
was accepted (`Checker.Reads`): a flag that takes a value must be one that `arityOf` gives one
value. A forked checker accepts a flag it does not know with any number of values, but
`arityOf` gives such a flag none, so its value is read back as a flag of its own
(`pairs_splits_unknown_valued_flag`). Where every flag given a value is known to a forked
checker, the list after any calls is exactly its groups: `pairs`, `hasFlag`, `valueOf` and
`withoutValues` see them, `release` is the value of the release group, and cutting the list
followed by source files gives back the options and the files (`ofCalls_pairs_eq_groups`).

A memory setting appends exactly one option when its trimmed value is digits with at most one
unit letter K, M or G after them, and nothing otherwise, with a warning unless the value is blank
(`addMemoryValue_appends_iff_memoryText`). The digits may be missing: a unit letter alone is a
value the check takes.
-/

namespace JavaBuild

namespace Checker

variable {c : Checker} {f : String}

theorem judge_eq_none {n : Nat} :
    c.judge f n = none ↔ c.arity f = n ∨ (c.arity f < 0 ∧ c.forked = true) := by
  unfold judge
  by_cases h1 : c.arity f = n
  · simp [h1]
  · by_cases h2 : c.arity f < 0
    · cases c.forked <;> simp [h1, h2]
    · simp only [h1, h2, if_false, false_or, false_and, iff_false]
      split <;> (try split) <;> simp

/-- The checker reads a group back as it was appended: its flag starts with `-` and takes as
many values as the group has. -/
def Reads (c : Checker) (g : String × Option String) : Prop :=
  g.1.startsWith "-" = true ∧ OptionList.arityOf c g.1 = g.2.toList.length

/-- A flag that the checker reads back with the value it accepted it with: any flag of a checker
that is not forked, and a flag that a forked checker knows. -/
def KnowsValued (c : Checker) (f : String) : Prop :=
  c.forked = false ∨ 0 ≤ c.arity f

theorem arityOf_of_judge_zero (h : c.judge f 0 = none) : OptionList.arityOf c f = 0 := by
  unfold OptionList.arityOf
  rcases judge_eq_none.1 h with h | ⟨h, -⟩ <;> omega

theorem arityOf_of_judge_one (h : c.judge f 1 = none) (hk : c.KnowsValued f) :
    OptionList.arityOf c f = 1 := by
  unfold OptionList.arityOf
  rcases judge_eq_none.1 h with h | ⟨h, hforked⟩
  · omega
  · rcases hk with hk | hk
    · simp [hk] at hforked
    · omega

end Checker

theorem startsWith_dash_append {s : String} (h : s.startsWith "-" = true) (u : String) :
    (s ++ u).startsWith "-" = true := by
  rw [String.startsWith_string_iff] at *
  rw [String.toList_append]
  exact h.trans (List.prefix_append _ _)

namespace OptionList

/-- The arguments of a group: its flag, then its value if it has one. -/
def groupArgs (g : String × Option String) : List String := g.1 :: g.2.toList

@[simp] theorem groupArgs_none (f : String) : groupArgs (f, none) = [f] := rfl

@[simp] theorem groupArgs_some (f v : String) : groupArgs (f, some v) = [f, v] := rfl

/-! ## Regrouping -/

variable {c : Checker}

theorem pairsOf_groupArgs_append {g : String × Option String} (hg : c.Reads g)
    (rest : List String) : pairsOf c (groupArgs g ++ rest) = g :: pairsOf c rest := by
  obtain ⟨f, v⟩ := g
  obtain ⟨hdash, harity⟩ := hg
  cases v with
  | none =>
    cases rest with
    | nil => simp [pairsOf]
    | cons b rest => simp_all [pairsOf]
  | some v => simp_all [pairsOf]

/-- Regrouping the arguments of groups that the checker reads back gives the groups. -/
theorem pairsOf_flatMap_groupArgs {gs : List (String × Option String)} (h : ∀ g ∈ gs, c.Reads g) :
    pairsOf c (gs.flatMap groupArgs) = gs := by
  induction gs with
  | nil => rfl
  | cons g gs ih =>
    rw [List.flatMap_cons, pairsOf_groupArgs_append (h g List.mem_cons_self),
      ih fun g' hg' => h g' (List.mem_cons_of_mem _ hg')]

/-! ## Cutting a command line -/

theorem splitWith_cons_of_not_flag (ar : String → Int) {arg : String} (rest : List String)
    (h : arg.startsWith "-" = false) :
    Javac.splitWith ar (arg :: rest) =
      ((Javac.splitWith ar rest).1, arg :: (Javac.splitWith ar rest).2) := by
  rw [Javac.splitWith]
  simp [h]

theorem splitWith_cons_of_flag (ar : String → Int) {arg : String} (rest : List String)
    (h : arg.startsWith "-" = true) :
    Javac.splitWith ar (arg :: rest) =
      (arg :: rest.take (max (ar arg) 0).toNat ++
          (Javac.splitWith ar (rest.drop (max (ar arg) 0).toNat)).1,
        (Javac.splitWith ar (rest.drop (max (ar arg) 0).toNat)).2) := by
  rw [Javac.splitWith]
  simp [h]

/-- Arguments that do not start with `-` are all source files. -/
theorem splitWith_files (ar : String → Int) {files : List String}
    (h : ∀ f ∈ files, f.startsWith "-" = false) : Javac.splitWith ar files = ([], files) := by
  induction files with
  | nil => simp [Javac.splitWith]
  | cons f files ih =>
    rw [splitWith_cons_of_not_flag ar files (h f List.mem_cons_self),
      ih fun f' hf' => h f' (List.mem_cons_of_mem _ hf')]

theorem splitWith_groupArgs_append {g : String × Option String} (hg : c.Reads g)
    (rest : List String) :
    Javac.splitWith c.arity (groupArgs g ++ rest) =
      (groupArgs g ++ (Javac.splitWith c.arity rest).1, (Javac.splitWith c.arity rest).2) := by
  obtain ⟨hdash, harity⟩ := hg
  -- the flag takes exactly the values of its group
  have hn : (max (c.arity g.1) 0).toNat = g.2.toList.length := harity
  rw [groupArgs, List.cons_append, splitWith_cons_of_flag c.arity _ hdash, hn,
    List.take_left, List.drop_left]

/-- The arguments of groups that the checker reads back, then source files, cut into exactly
those options and those files. -/
theorem splitWith_flatMap_groupArgs_append {gs : List (String × Option String)}
    (h : ∀ g ∈ gs, c.Reads g) {files : List String} (hf : ∀ f ∈ files, f.startsWith "-" = false) :
    Javac.splitWith c.arity (gs.flatMap groupArgs ++ files) = (gs.flatMap groupArgs, files) := by
  induction gs with
  | nil => exact splitWith_files c.arity hf
  | cons g gs ih =>
    rw [List.flatMap_cons, List.append_assoc, splitWith_groupArgs_append (h g List.mem_cons_self),
      ih fun g' hg' => h g' (List.mem_cons_of_mem _ hg')]

/-! ## Where the release value sits -/

/-- The place of the value of group `i` among the arguments of the groups. -/
def valueSpot (gs : List (String × Option String)) (i : Nat) : Nat :=
  ((gs.take i).flatMap groupArgs).length + 1

theorem valueSpot_append (pre post : List (String × Option String)) :
    valueSpot (pre ++ post) pre.length = (pre.flatMap groupArgs).length + 1 := by
  simp [valueSpot]

variable {pre post : List (String × Option String)} {f w : String}

theorem flatMap_groupArgs_set (v : String) :
    ((pre ++ (f, some w) :: post).flatMap groupArgs).set ((pre.flatMap groupArgs).length + 1) v =
      (pre ++ (f, some v) :: post).flatMap groupArgs := by
  simp only [List.flatMap_append, List.flatMap_cons, groupArgs_some]
  rw [List.set_append_right _ _ (by omega)]
  simp

theorem flatMap_groupArgs_erase :
    ((pre ++ (f, some w) :: post).flatMap groupArgs).take ((pre.flatMap groupArgs).length + 1 - 1) ++
        ((pre ++ (f, some w) :: post).flatMap groupArgs).drop ((pre.flatMap groupArgs).length + 1 + 1) =
      (pre ++ post).flatMap groupArgs := by
  -- the flag and the value are the two arguments after those of the groups before
  have hdrop : (pre.flatMap groupArgs).length + 1 + 1 = (pre.flatMap groupArgs).length + 2 := rfl
  rw [Nat.add_sub_cancel, hdrop, List.flatMap_append, List.flatMap_cons, groupArgs_some,
    List.take_left, List.drop_length_add_append, List.flatMap_append]
  rfl

theorem getElem?_flatMap_groupArgs :
    ((pre ++ (f, some w) :: post).flatMap groupArgs)[(pre.flatMap groupArgs).length + 1]? =
      some w := by
  simp only [List.flatMap_append, List.flatMap_cons, groupArgs_some]
  rw [List.getElem?_append_right (by omega)]
  simp

/-! ## What each call does to the list -/

/-- The list with a group appended, when the checker accepts its flag with as many values as the
group has. -/
def offered (c : Checker) (o : OptionList) (g : String × Option String) : OptionList :=
  if c.judge g.1 g.2.toList.length = none then o.append (groupArgs g) else o

variable (c) (o : OptionList) (option : String)

theorem addFlag_list (v : Bool) :
    (o.addFlag c option v).list = if v then o.offered c (option, none) else o := by
  cases v with
  | false => rfl
  | true => cases hj : c.judge option 0 <;> simp [addFlag, offered, hj]

theorem addValue_list (v : Option String) :
    (o.addValue c option v).list =
      match trimmedValue v with
      | some t => o.offered c (option, some t)
      | none => o := by
  unfold addValue
  cases trimmedValue v with
  | none => rfl
  | some t => cases hj : c.judge option 1 <;> simp [offered, hj]

theorem addMemoryValue_list (label : String) (v : Option String) (defaultUnit : Bool) :
    (o.addMemoryValue c option label v defaultUnit).list =
      match (trimmedValue v).bind (memoryArgument? · defaultUnit) with
      | some m => o.offered c (option ++ m.1, none)
      | none => o := by
  unfold addMemoryValue
  cases trimmedValue v with
  | none => rfl
  | some t =>
    cases hm : memoryArgument? t defaultUnit with
    | none => simp [hm]
    | some m => cases hj : c.judge (option ++ m.1) 0 <;> simp [offered, hm, hj]

/-- A comma-separated option changes the list as the offer of its argument does, whether the
refusal only warns or fails. -/
theorem addCommaSeparated_list (values : Option String) (valids : Option (List String))
    (rewrite : Rewrite) :
    (match o.addCommaSeparated c option values valids rewrite with
      | .ok r => r.list
      | .error _ => o) =
      match values.bind (commaValues · rewrite) with
      | some vs => o.offered c (commaArgument option vs, none)
      | none => o := by
  unfold addCommaSeparated
  cases values.bind (commaValues · rewrite) with
  | none => rfl
  | some vs =>
    dsimp only
    cases hj : c.judge (commaArgument option vs) 0 with
    | none => simp [offered, hj]
    | some w =>
      have hstays : o.offered c (commaArgument option vs, none) = o := by simp [offered, hj]
      rw [hstays]
      -- a refused option is warned about, or fails; either way the list stays as it was
      cases valids with
      | none => rfl
      | some vl =>
        dsimp only
        cases List.find? (fun v => !vl.contains v) vs with
        | none => rfl
        | some bad =>
          dsimp only
          cases legalText vl <;> rfl

end OptionList

/-! ## Calls and the groups they append -/

/-- A call on an option list, with its arguments. -/
inductive OptionCall where
  | setRelease (value : Option String)
  | addFlag (option : String) (value : Bool)
  | addValue (option : String) (value : Option String)
  | addCommaSeparated (option : String) (values : Option String) (valids : Option (List String))
      (rewrite : OptionList.Rewrite)
  | addMemoryValue (option label : String) (value : Option String) (defaultUnit : Bool)

namespace OptionCall

/-- The option a call names; `--release` for the release. -/
def option : OptionCall → String
  | .setRelease _ => "--release"
  | .addFlag o _ | .addValue o _ | .addCommaSeparated o _ _ _ | .addMemoryValue o _ _ _ => o

/-- Whether the call adds its option with a value. -/
def takesValue : OptionCall → Bool
  | .setRelease _ | .addValue _ _ => true
  | _ => false

/-- The list after a call. A call that fails (a comma-separated value refused with no legal
values to name) leaves the list as it was. -/
def apply (c : Checker) (o : OptionList) : OptionCall → OptionList
  | .setRelease v => (o.setRelease c v).list
  | .addFlag option v => (o.addFlag c option v).list
  | .addValue option v => (o.addValue c option v).list
  | .addCommaSeparated option values valids rewrite =>
    match o.addCommaSeparated c option values valids rewrite with
    | .ok r => r.list
    | .error _ => o
  | .addMemoryValue option label v defaultUnit => (o.addMemoryValue c option label v defaultUnit).list

end OptionCall

/-- The list after calls made in turn on an empty list. -/
def OptionList.ofCalls (c : Checker) (calls : List OptionCall) : OptionList :=
  calls.foldl (OptionCall.apply c) {}

/-- The groups appended by the calls so far, in order, and the place of the release group. -/
structure OptionGroups where
  groups : List (String × Option String) := []
  releaseAt : Option Nat := none

namespace OptionGroups

/-- Appends a group when the checker accepts its flag with as many values as the group has. -/
def offer (c : Checker) (s : OptionGroups) (g : String × Option String) : OptionGroups :=
  if c.judge g.1 g.2.toList.length = none then { s with groups := s.groups ++ [g] } else s

/-- What a call does to the groups: a call the checker accepts appends its group; `setRelease`
appends the release group, or replaces its value where it is, or removes it for a blank value. -/
def step (c : Checker) (s : OptionGroups) : OptionCall → OptionGroups
  | .setRelease v =>
    match s.releaseAt, trimmedValue v with
    | none, some t =>
      if c.judge "--release" 1 = none then ⟨s.groups ++ [("--release", some t)], some s.groups.length⟩
      else s
    | none, none => s
    | some i, some t => { s with groups := s.groups.set i ("--release", some t) }
    | some i, none => ⟨s.groups.eraseIdx i, none⟩
  | .addFlag option v => if v then s.offer c (option, none) else s
  | .addValue option v =>
    match trimmedValue v with
    | some t => s.offer c (option, some t)
    | none => s
  | .addCommaSeparated option values _ rewrite =>
    match values.bind (OptionList.commaValues · rewrite) with
    | some vs => s.offer c (OptionList.commaArgument option vs, none)
    | none => s
  | .addMemoryValue option _ v defaultUnit =>
    match (trimmedValue v).bind (OptionList.memoryArgument? · defaultUnit) with
    | some m => s.offer c (option ++ m.1, none)
    | none => s

/-- The groups appended by calls made in turn. -/
def ofCalls (c : Checker) (calls : List OptionCall) : OptionGroups :=
  calls.foldl (step c) {}

/-- The value of the release group, if there is one. -/
def release (s : OptionGroups) : Option String :=
  s.releaseAt.bind fun i => (s.groups[i]?).bind (·.2)

end OptionGroups

/-! ## The list holds its groups -/

open OptionList

/-- An option list holds the arguments of its groups in order, each group read back by the
checker as it was appended, and its release value at the value of the release group. -/
structure Represents (c : Checker) (o : OptionList) (s : OptionGroups) : Prop where
  items_eq : o.items = s.groups.flatMap groupArgs
  reads : ∀ g ∈ s.groups, c.Reads g
  releaseAt_eq : o.releaseAt = s.releaseAt.map (valueSpot s.groups)
  release_group : ∀ i, s.releaseAt = some i →
    ∃ pre post v, s.groups = pre ++ ("--release", some v) :: post ∧ pre.length = i

namespace Represents

variable {c : Checker} {o : OptionList} {s : OptionGroups}

theorem empty : Represents c {} {} :=
  ⟨rfl, by simp, rfl, by simp⟩

/-- Appending a group the checker reads back keeps the list its groups. -/
theorem append (h : Represents c o s) {g : String × Option String} (hg : c.Reads g) :
    Represents c (o.append (groupArgs g)) { s with groups := s.groups ++ [g] } := by
  refine ⟨by simp [OptionList.append, h.items_eq], fun g' hg' => ?_, ?_, fun i hi => ?_⟩
  · rcases List.mem_append.1 hg' with hg' | hg'
    · exact h.reads g' hg'
    · exact List.mem_singleton.1 hg' ▸ hg
  · -- the release group lies before the group appended
    rw [show (o.append (groupArgs g)).releaseAt = o.releaseAt from rfl, h.releaseAt_eq]
    cases hr : s.releaseAt with
    | none => rfl
    | some i =>
      obtain ⟨pre, post, v, hgs, rfl⟩ := h.release_group i hr
      simp [hgs, valueSpot]
  · obtain ⟨pre, post, v, hgs, hlen⟩ := h.release_group i hi
    exact ⟨pre, post ++ [g], v, by simp [hgs], hlen⟩

/-- Offering a group the checker would read back keeps the list its groups. -/
theorem offered (h : Represents c o s) {g : String × Option String}
    (hdash : g.1.startsWith "-" = true) (hk : g.2.isSome = true → c.KnowsValued g.1) :
    Represents c (o.offered c g) (s.offer c g) := by
  unfold OptionList.offered OptionGroups.offer
  split
  · rename_i hjudge
    refine h.append ⟨hdash, ?_⟩
    obtain ⟨f, v⟩ := g
    cases v with
    | none => exact Checker.arityOf_of_judge_zero hjudge
    | some v => exact Checker.arityOf_of_judge_one hjudge (hk rfl)
  · exact h

theorem setRelease (h : Represents c o s) (v : Option String)
    (hk : c.KnowsValued "--release") :
    Represents c (o.setRelease c v).list (s.step c (.setRelease v)) := by
  have hdash : "--release".startsWith "-" = true := by simp
  cases hr : s.releaseAt with
  | none =>
    have ho : o.releaseAt = none := by rw [h.releaseAt_eq, hr]; rfl
    simp only [OptionList.setRelease, ho, OptionGroups.step, hr]
    cases hv : trimmedValue v with
    | none => simpa [OptionList.addValue, hv] using h
    | some t =>
      cases hj : c.judge "--release" 1 with
      | some w => simpa [OptionList.addValue, hv, hj] using h
      | none =>
        have happ : Represents c (o.append (groupArgs ("--release", some t)))
            { s with groups := s.groups ++ [("--release", some t)] } :=
          h.append ⟨hdash, Checker.arityOf_of_judge_one hj hk⟩
        simp only [OptionList.addValue, hv, hj, if_true]
        -- the release value is the last argument, the value of the last group
        refine ⟨happ.items_eq, happ.reads, ?_, fun i hi => ?_⟩
        · simp [OptionList.append, h.items_eq, valueSpot]
        · cases hi
          exact ⟨s.groups, [], t, rfl, rfl⟩
  | some i =>
    obtain ⟨pre, post, w, hgs, rfl⟩ := h.release_group _ hr
    have ho : o.releaseAt = some ((pre.flatMap groupArgs).length + 1) := by
      rw [h.releaseAt_eq, hr, hgs]
      simp [valueSpot_append]
    have hread : c.Reads ("--release", some w) := h.reads _ (by simp [hgs])
    simp only [OptionList.setRelease, ho, OptionGroups.step, hr]
    cases hv : trimmedValue v with
    | some t =>
      dsimp only
      -- the value is replaced where it is, in the list and in its group
      have hset : s.groups.set pre.length ("--release", some t) = pre ++ ("--release", some t) :: post := by
        simp [hgs]
      refine ⟨?_, fun g hg => ?_, ?_, fun j hj => ?_⟩
      · rw [h.items_eq, hset, hgs, flatMap_groupArgs_set]
      · rw [hset] at hg
        rcases List.mem_append.1 hg with hg | hg
        · exact h.reads g (by simp [hgs, hg])
        · rcases List.mem_cons.1 hg with rfl | hg
          · exact ⟨hdash, hread.2⟩
          · exact h.reads g (by simp [hgs, hg])
      · rw [hset, Option.map_some, valueSpot_append]
      · cases hj
        exact ⟨pre, post, t, hset, rfl⟩
    | none =>
      dsimp only
      -- the flag and its value go, with the group
      have herase : s.groups.eraseIdx pre.length = pre ++ post := by
        simp [hgs, List.eraseIdx_append_of_length_le]
      refine ⟨?_, fun g hg => ?_, rfl, fun j hj => by cases hj⟩
      · rw [h.items_eq, herase, hgs]
        exact flatMap_groupArgs_erase
      · rw [herase] at hg
        apply h.reads g
        rw [hgs]
        rcases List.mem_append.1 hg with hg | hg
        · exact List.mem_append_left _ hg
        · exact List.mem_append_right _ (List.mem_cons_of_mem _ hg)

/-- One call keeps the list its groups. -/
theorem step (h : Represents c o s) (call : OptionCall)
    (hdash : call.option.startsWith "-" = true)
    (hk : call.takesValue = true → c.KnowsValued call.option) :
    Represents c (call.apply c o) (s.step c call) := by
  cases call with
  | setRelease v => exact h.setRelease v (hk rfl)
  | addFlag option v =>
    dsimp only [OptionCall.apply, OptionGroups.step]
    rw [addFlag_list]
    cases v with
    | false => exact h
    | true => exact h.offered hdash (by simp)
  | addValue option v =>
    dsimp only [OptionCall.apply, OptionGroups.step]
    rw [addValue_list]
    cases trimmedValue v with
    | none => exact h
    | some t => exact h.offered hdash fun _ => hk rfl
  | addCommaSeparated option values valids rewrite =>
    dsimp only [OptionCall.apply, OptionGroups.step]
    rw [addCommaSeparated_list]
    cases values.bind (commaValues · rewrite) with
    | none => exact h
    | some vs =>
      exact h.offered (startsWith_dash_append (startsWith_dash_append hdash _) _) (by simp)
  | addMemoryValue option label v defaultUnit =>
    dsimp only [OptionCall.apply, OptionGroups.step]
    rw [addMemoryValue_list]
    cases (trimmedValue v).bind (memoryArgument? · defaultUnit) with
    | none => exact h
    | some m => exact h.offered (startsWith_dash_append hdash _) (by simp)

/-- Calls made in turn keep the list its groups. -/
theorem foldl (h : Represents c o s) (calls : List OptionCall)
    (hdash : ∀ call ∈ calls, call.option.startsWith "-" = true)
    (hk : ∀ call ∈ calls, call.takesValue = true → c.KnowsValued call.option) :
    Represents c (calls.foldl (OptionCall.apply c) o) (calls.foldl (OptionGroups.step c) s) := by
  induction calls generalizing o s with
  | nil => exact h
  | cons call calls ih =>
    exact ih (h.step call (hdash call List.mem_cons_self) (hk call List.mem_cons_self))
      (fun call' h' => hdash call' (List.mem_cons_of_mem _ h'))
      (fun call' h' => hk call' (List.mem_cons_of_mem _ h'))

theorem pairs_eq (h : Represents c o s) : o.pairs c = s.groups := by
  rw [OptionList.pairs, h.items_eq, pairsOf_flatMap_groupArgs h.reads]

theorem release_eq (h : Represents c o s) : o.release = s.release := by
  unfold OptionList.release OptionGroups.release
  rw [h.releaseAt_eq]
  cases hr : s.releaseAt with
  | none => rfl
  | some i =>
    obtain ⟨pre, post, v, hgs, rfl⟩ := h.release_group _ hr
    simp only [Option.map_some, Option.bind_some, h.items_eq, hgs, valueSpot_append,
      getElem?_flatMap_groupArgs]
    simp

end Represents

/-- After any calls whose options start with `-`, where a forked checker knows every flag given a
value, the option list is exactly the groups the accepted calls appended: regrouping, the
questions asked of the groups and the release see them, and the options followed by source files
cut back into the options and the files. -/
theorem ofCalls_pairs_eq_groups (c : Checker) (calls : List OptionCall)
    (hdash : ∀ call ∈ calls, call.option.startsWith "-" = true)
    (hk : ∀ call ∈ calls, call.takesValue = true → c.KnowsValued call.option) :
    (OptionList.ofCalls c calls).pairs c = (OptionGroups.ofCalls c calls).groups ∧
      (OptionList.ofCalls c calls).release = (OptionGroups.ofCalls c calls).release ∧
      (∀ flags, (OptionList.ofCalls c calls).hasFlag c flags =
        (OptionGroups.ofCalls c calls).groups.any fun (f, _) => flags.contains f) ∧
      (∀ flag, (OptionList.ofCalls c calls).valueOf c flag =
        ((OptionGroups.ofCalls c calls).groups.find? fun (f, _) => f == flag).bind (·.2)) ∧
      (∀ flags, (OptionList.ofCalls c calls).withoutValues c flags =
        (OptionGroups.ofCalls c calls).groups.flatMap fun (f, v) =>
          if flags.contains f then [] else f :: v.toList) ∧
      (∀ files, (∀ f ∈ files, f.startsWith "-" = false) →
        Javac.splitWith c.arity ((OptionList.ofCalls c calls).items ++ files) =
          ((OptionList.ofCalls c calls).items, files)) := by
  have h : Represents c (OptionList.ofCalls c calls) (OptionGroups.ofCalls c calls) :=
    Represents.empty.foldl calls hdash hk
  refine ⟨h.pairs_eq, h.release_eq, fun flags => ?_, fun flag => ?_, fun flags => ?_,
    fun files hf => ?_⟩
  · rw [OptionList.hasFlag, h.pairs_eq]
  · rw [OptionList.valueOf, h.pairs_eq]
  · rw [OptionList.withoutValues, h.pairs_eq]
  · rw [h.items_eq]
    exact splitWith_flatMap_groupArgs_append h.reads hf

/-- The calls of a release set, a flag added, the release replaced, a flag with a value added and
the release removed, with the checker of javac's flags that gives unknown flags no value. -/
theorem ofCalls_pairs_eq_groups_of_replaced_release :
    let c : Checker := ⟨Javac.lenientArity, false⟩
    let calls : List OptionCall := [.setRelease (some "17"), .addFlag "-g" true,
      .setRelease (some "21"), .addValue "-d" (some "out"), .setRelease (some " ")]
    (∀ call ∈ calls, call.option.startsWith "-" = true) ∧
      (∀ call ∈ calls, call.takesValue = true → c.KnowsValued call.option) ∧
      ((OptionList.ofCalls c calls).pairs c = (OptionGroups.ofCalls c calls).groups ∧
        (OptionList.ofCalls c calls).release = (OptionGroups.ofCalls c calls).release ∧
        (∀ flags, (OptionList.ofCalls c calls).hasFlag c flags =
          (OptionGroups.ofCalls c calls).groups.any fun (f, _) => flags.contains f) ∧
        (∀ flag, (OptionList.ofCalls c calls).valueOf c flag =
          ((OptionGroups.ofCalls c calls).groups.find? fun (f, _) => f == flag).bind (·.2)) ∧
        (∀ flags, (OptionList.ofCalls c calls).withoutValues c flags =
          (OptionGroups.ofCalls c calls).groups.flatMap fun (f, v) =>
            if flags.contains f then [] else f :: v.toList) ∧
        (∀ files, (∀ f ∈ files, f.startsWith "-" = false) →
          Javac.splitWith c.arity ((OptionList.ofCalls c calls).items ++ files) =
            ((OptionList.ofCalls c calls).items, files))) := by
  intro c calls
  have hdash : ∀ call ∈ calls, call.option.startsWith "-" = true := by
    intro call hcall
    simp only [calls, List.mem_cons, List.not_mem_nil, or_false] at hcall
    rcases hcall with rfl | rfl | rfl | rfl | rfl <;> simp [OptionCall.option]
  -- the checker is not forked, so every flag with a value is read back with it
  have hk : ∀ call ∈ calls, call.takesValue = true → c.KnowsValued call.option :=
    fun _ _ _ => .inl rfl
  exact ⟨hdash, hk, ofCalls_pairs_eq_groups c calls hdash hk⟩

/-- javac's flags judged by the compiler itself: `-Xfoo bar`, a flag javac does not know given a
value, is accepted as one group, but the list reads back as two flags without value. -/
theorem pairs_splits_unknown_valued_flag :
    (OptionGroups.ofCalls ⟨Javac.arity, true⟩ [.addValue "-Xfoo" (some "bar")]).groups =
        [("-Xfoo", some "bar")] ∧
      (OptionList.ofCalls ⟨Javac.arity, true⟩ [.addValue "-Xfoo" (some "bar")]).pairs
        ⟨Javac.arity, true⟩ = [("-Xfoo", none), ("bar", none)] := by
  have hlookup : List.lookup "-Xfoo" Javac.flagTable = none := by decide
  have harity : Javac.arity "-Xfoo" = -1 := by simp [Javac.arity, hlookup, Javac.valuePrefixes]
  have htrim : trimmedValue (some "bar") = some "bar" := by decide
  have hjudge : Checker.judge ⟨Javac.arity, true⟩ "-Xfoo" 1 = none := by
    simp [Checker.judge, harity]
  constructor
  · simp [OptionGroups.ofCalls, OptionGroups.step, htrim, OptionGroups.offer, hjudge]
  · -- the flag counts as taking no value when read back
    have hnone : OptionList.arityOf ⟨Javac.arity, true⟩ "-Xfoo" = 0 := by
      simp only [OptionList.arityOf, harity]
      decide
    simp [OptionList.ofCalls, OptionCall.apply, OptionList.addValue, htrim, hjudge,
      OptionList.append, OptionList.pairs, OptionList.pairsOf, hnone]

/-! ## Memory values

A memory value is ASCII digits with at most one unit letter after them (`MemoryText`). The check
reads the value's last character apart and asks for digits before it only, so a unit letter alone
passes (`addMemoryValue_takes_bare_unit`). -/

namespace OptionList

/-- The unit letters of a memory value: K, M and G, in either case. -/
def memoryUnits : List Char := ['K', 'M', 'G', 'k', 'm', 'g']

/-- `t` is a memory value with unit `unit`: ASCII digits (none at all too) followed by the unit
letter, if there is one. -/
def MemoryText (t : List Char) (unit : Option Char) : Prop :=
  ∃ ds, t = ds ++ unit.toList ∧ (∀ d ∈ ds, '0' ≤ d ∧ d ≤ '9') ∧ ∀ u ∈ unit, u ∈ memoryUnits

/-- The option a memory value gives: the flag, the value, and `M` after a value without unit
when a default unit is asked for. -/
def memoryFlag (option t : String) (unit : Option Char) (defaultUnit : Bool) : String :=
  option ++ t ++ (if unit.isNone && defaultUnit then "M" else "")

theorem not_digit_of_mem_memoryUnits {u : Char} (hu : u ∈ memoryUnits) : ¬('0' ≤ u ∧ u ≤ '9') := by
  simp only [memoryUnits, List.mem_cons, List.not_mem_nil, or_false] at hu
  rcases hu with rfl | rfl | rfl | rfl | rfl | rfl <;> decide

theorem memoryText_append_singleton {ds : List Char} {x : Char} {unit : Option Char} :
    MemoryText (ds ++ [x]) unit ↔
      (∀ d ∈ ds, '0' ≤ d ∧ d ≤ '9') ∧
        (unit = none ∧ '0' ≤ x ∧ x ≤ '9' ∨ unit = some x ∧ x ∈ memoryUnits) := by
  cases unit with
  | none =>
    simp only [MemoryText, Option.toList_none, List.append_nil, exists_eq_left',
      List.forall_mem_append, List.forall_mem_singleton]
    simp
  | some u =>
    simp only [MemoryText, Option.toList_some, Option.mem_def, Option.some.injEq, forall_eq']
    constructor
    · rintro ⟨es, hes, hd, hu⟩
      obtain ⟨rfl, hx⟩ := List.append_inj' hes rfl
      simp only [List.cons.injEq, and_true] at hx
      subst hx
      simp_all
    · rintro ⟨hd, ⟨h, -⟩ | ⟨rfl, hu⟩⟩
      · cases h
      · exact ⟨ds, rfl, hd, hu⟩

/-- The check of a memory value accepts exactly the memory values, and finds their unit. -/
theorem memoryUnit?_eq_some_iff {cs : List Char} {unit : Option Char} :
    memoryUnit? cs = some unit ↔ MemoryText cs unit := by
  rcases List.eq_nil_or_concat cs with rfl | ⟨ds, x, rfl⟩
  · cases unit <;> simp [memoryUnit?, MemoryText]
  · rw [List.concat_eq_append, memoryText_append_singleton]
    simp only [memoryUnit?, List.getLast?_concat, List.dropLast_concat]
    have hunits : "KMGkmg".toList.contains x = true ↔ x ∈ memoryUnits := by
      rw [show "KMGkmg".toList = memoryUnits by decide, List.contains_iff_mem]
    have hall : (ds.all fun c => decide ('0' ≤ c ∧ c ≤ '9')) = true ↔
        ∀ d ∈ ds, '0' ≤ d ∧ d ≤ '9' := by
      simp
    by_cases hds : ∀ d ∈ ds, '0' ≤ d ∧ d ≤ '9'
    · rw [if_pos (hall.mpr hds)]
      by_cases hx : '0' ≤ x ∧ x ≤ '9'
      · -- a final digit: no unit
        have hxu : x ∉ memoryUnits := fun hu => not_digit_of_mem_memoryUnits hu hx
        rw [if_pos hx]
        constructor
        · intro h
          exact ⟨hds, .inl ⟨(Option.some.inj h).symm, hx⟩⟩
        · rintro ⟨-, ⟨rfl, -⟩ | ⟨-, hu⟩⟩
          · rfl
          · exact absurd hu hxu
      · rw [if_neg hx]
        by_cases hu : x ∈ memoryUnits
        · -- a final unit letter after digits
          rw [if_pos (hunits.mpr hu)]
          constructor
          · intro h
            exact ⟨hds, .inr ⟨(Option.some.inj h).symm, hu⟩⟩
          · rintro ⟨-, ⟨-, h⟩ | ⟨rfl, -⟩⟩
            · exact absurd h hx
            · rfl
        · rw [if_neg (mt hunits.mp hu)]
          simp [hx, hu]
    · rw [if_neg (mt hall.mp hds)]
      simp [hds]

section
variable (c : Checker) (o : OptionList) (option label : String) (v : Option String)
  (defaultUnit : Bool)

/-- A memory value is added as its flag when the checker takes the flag alone. -/
theorem addMemoryValue_of_memoryText {t : String} {unit : Option Char}
    (ht : trimmedValue v = some t) (hm : MemoryText t.toList unit)
    (hc : c.judge (memoryFlag option t unit defaultUnit) 0 = none) :
    (o.addMemoryValue c option label v defaultUnit).list =
        o.append [memoryFlag option t unit defaultUnit] ∧
      (o.addMemoryValue c option label v defaultUnit).added = true := by
  have harg : memoryArgument? t defaultUnit =
      some (if unit.isNone && defaultUnit then (t ++ "M", true) else (t, false)) := by
    simp [memoryArgument?, memoryUnit?_eq_some_iff.mpr hm]
  unfold addMemoryValue
  rw [ht]
  dsimp only
  rw [harg]
  cases hd : unit.isNone && defaultUnit with
  | true =>
    have hf : memoryFlag option t unit defaultUnit = option ++ (t ++ "M") := by
      simp [memoryFlag, hd, String.append_assoc]
    simp [← hf, hc]
  | false =>
    have hf : memoryFlag option t unit defaultUnit = option ++ t := by
      simp [memoryFlag, hd]
    simp [← hf, hc]

/-- A value that is neither blank nor a memory value is refused, with a warning that names the
setting and the value. -/
theorem addMemoryValue_of_not_memoryText {t : String} (ht : trimmedValue v = some t)
    (hm : ∀ unit, ¬MemoryText t.toList unit) :
    o.addMemoryValue c option label v defaultUnit =
      ⟨o, false, [s!"Invalid value for {label}=\"{t}\". Ignoring this option."]⟩ := by
  have harg : memoryArgument? t defaultUnit = none := by
    cases hu : memoryUnit? t.toList with
    | none => simp [memoryArgument?, hu]
    | some unit => exact absurd (memoryUnit?_eq_some_iff.mp hu) (hm unit)
  unfold addMemoryValue
  rw [ht]
  dsimp only
  rw [harg]

/-- Adding a memory value, with a checker that takes the flag the value gives: exactly one option
is appended when the trimmed value is a memory value (the flag, the value and `M` after a value
without unit when a default unit is asked for), and otherwise nothing, with a warning unless the
value is blank. A unit letter alone counts as a memory value: no digit is asked for. -/
theorem addMemoryValue_appends_iff_memoryText
    (hc : ∀ t unit, trimmedValue v = some t → MemoryText t.toList unit →
      c.judge (memoryFlag option t unit defaultUnit) 0 = none) :
    ((∃ a, (o.addMemoryValue c option label v defaultUnit).list = o.append [a]) ↔
        ∃ t unit, trimmedValue v = some t ∧ MemoryText t.toList unit) ∧
      (∀ t unit, trimmedValue v = some t → MemoryText t.toList unit →
        (o.addMemoryValue c option label v defaultUnit).list =
            o.append [memoryFlag option t unit defaultUnit] ∧
          (o.addMemoryValue c option label v defaultUnit).added = true) ∧
      ((¬∃ t unit, trimmedValue v = some t ∧ MemoryText t.toList unit) →
        (o.addMemoryValue c option label v defaultUnit).list = o ∧
          (o.addMemoryValue c option label v defaultUnit).added = false ∧
          ((o.addMemoryValue c option label v defaultUnit).warnings = [] ↔
            trimmedValue v = none)) := by
  have hadded : ∀ t unit, trimmedValue v = some t → MemoryText t.toList unit →
      (o.addMemoryValue c option label v defaultUnit).list =
          o.append [memoryFlag option t unit defaultUnit] ∧
        (o.addMemoryValue c option label v defaultUnit).added = true :=
    fun t unit ht hm =>
      addMemoryValue_of_memoryText c o option label v defaultUnit ht hm (hc t unit ht hm)
  have hrefused : (¬∃ t unit, trimmedValue v = some t ∧ MemoryText t.toList unit) →
      (o.addMemoryValue c option label v defaultUnit).list = o ∧
        (o.addMemoryValue c option label v defaultUnit).added = false ∧
        ((o.addMemoryValue c option label v defaultUnit).warnings = [] ↔
          trimmedValue v = none) := by
    intro hn
    cases ht : trimmedValue v with
    | none => simp [addMemoryValue, ht]
    | some t =>
      rw [addMemoryValue_of_not_memoryText c o option label v defaultUnit ht
        (fun unit hm => hn ⟨t, unit, ht, hm⟩)]
      simp
  refine ⟨⟨fun ⟨a, ha⟩ => ?_, fun ⟨t, unit, ht, hm⟩ => ⟨_, (hadded t unit ht hm).1⟩⟩, hadded,
    hrefused⟩
  -- a refused value leaves the list as it was, which is one option short of `o.append [a]`
  by_cases hm : ∃ t unit, trimmedValue v = some t ∧ MemoryText t.toList unit
  · exact hm
  · have hlen := congrArg (·.items.length) ((hrefused hm).1.symm.trans ha)
    simp [append] at hlen

end

/-- ` 512 ` for the maximum memory, with a checker that takes every flag alone: the value is
trimmed and given the default unit. -/
theorem addMemoryValue_trims_and_adds_default_unit :
    let c : Checker := ⟨fun _ => 0, false⟩
    let v : Option String := some " 512 "
    (∀ t unit, trimmedValue v = some t → MemoryText t.toList unit →
        c.judge (memoryFlag "-J-Xmx" t unit true) 0 = none) ∧
      ((∃ a, (({} : OptionList).addMemoryValue c "-J-Xmx" "maxmem" v true).list =
            ({} : OptionList).append [a]) ↔
          ∃ t unit, trimmedValue v = some t ∧ MemoryText t.toList unit) ∧
      (∀ t unit, trimmedValue v = some t → MemoryText t.toList unit →
        (({} : OptionList).addMemoryValue c "-J-Xmx" "maxmem" v true).list =
            ({} : OptionList).append [memoryFlag "-J-Xmx" t unit true] ∧
          (({} : OptionList).addMemoryValue c "-J-Xmx" "maxmem" v true).added = true) ∧
      ((¬∃ t unit, trimmedValue v = some t ∧ MemoryText t.toList unit) →
        (({} : OptionList).addMemoryValue c "-J-Xmx" "maxmem" v true).list = {} ∧
          (({} : OptionList).addMemoryValue c "-J-Xmx" "maxmem" v true).added = false ∧
          ((({} : OptionList).addMemoryValue c "-J-Xmx" "maxmem" v true).warnings = [] ↔
            trimmedValue v = none)) := by
  intro c v
  have hc : ∀ t unit, trimmedValue v = some t → MemoryText t.toList unit →
      c.judge (memoryFlag "-J-Xmx" t unit true) 0 = none :=
    fun _ _ _ _ => rfl
  exact ⟨hc, addMemoryValue_appends_iff_memoryText c {} "-J-Xmx" "maxmem" v true hc⟩

/-- A unit letter alone is taken as a memory value: `k` adds `-J-Xmsk`, an option with no digit. -/
theorem addMemoryValue_takes_bare_unit :
    let r := ({} : OptionList).addMemoryValue ⟨fun _ => 0, false⟩ "-J-Xms" "meminitial" (some "k")
    r.list.items = ["-J-Xmsk"] ∧ r.added = true ∧ r.warnings = [] := by
  decide

end OptionList

end JavaBuild
