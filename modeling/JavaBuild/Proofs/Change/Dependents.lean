import JavaBuild.Proofs.Change.Decide
import JavaBuild.Proofs.Change.Record

/-!
# The dependents of changed sources

An incremental build compiles, besides the changed and added sources, the *dependents* of the
changed and removed ones (the roots): the recorded sources that use a type of a root, directly or
through other dependents. `dependents` finds them by a search over the record. Each round takes
the last pending path, compares every recorded source not yet visited with the symbols recorded
for it, and makes the users it finds visited and pending; the search ends when nothing is
pending.

The search computes the least set of its kind (`Dependent`), provided that the check `uses`
answers on every pair of recorded symbols (`Comparable`), as it does on the symbols of scans
(`comparable_of_scanned`). The argument is the invariant `Worklist` kept between the rounds: a
round keeps it (`Worklist.round`), and once nothing is pending it says that the paths found are
the dependents (`Worklist.dependent_mem`). The search has fuel for as many rounds as there are
roots and recorded sources, which is enough since each round takes one pending path and a source
becomes pending once at most (`unvisited_append`).
-/

set_option mvcgen.warning false

namespace JavaBuild.Change

open Std.Do

/-! ## The least set of dependents -/

/-- The symbols recorded for a path. -/
def recordedSymbols (files : List (String × FileStatus)) (p : String) : Option StoredSymbols :=
  (files.lookup p).bind (·.symbols)

/-- By the record, the source `f` uses a type that the source `g` declares: an entry of `f` has
symbols that use those recorded for `g`. -/
def UsesRecorded (files : List (String × FileStatus)) (f g : String) : Prop :=
  ∃ st sf sg, (f, st) ∈ files ∧ st.symbols = some sf ∧ recordedSymbols files g = some sg ∧
    sf.uses sg = .ok true

/-- The dependents of the roots: the least set of recorded sources other than the roots that
holds every source using a type of a root or of a member. -/
inductive Dependent (files : List (String × FileStatus)) (roots : List String) : String → Prop
  | of_root {f g : String} : f ∉ roots → g ∈ roots → UsesRecorded files f g →
      Dependent files roots f
  | of_dependent {f g : String} : f ∉ roots → Dependent files roots g →
      UsesRecorded files f g → Dependent files roots f

theorem Dependent.not_mem_roots {files : List (String × FileStatus)} {roots : List String}
    {f : String} (h : Dependent files roots f) : f ∉ roots := by
  cases h <;> assumption

/-- Whether the check `uses` answers on every pair of recorded symbols. -/
def Comparable (files : List (String × FileStatus)) : Prop :=
  ∀ a ∈ files, ∀ b ∈ files, ∀ sa sb, a.2.symbols = some sa → b.2.symbols = some sb →
    ∃ r, sa.uses sb = .ok r

theorem recordedSymbols_mem {files : List (String × FileStatus)} {p : String}
    {s : StoredSymbols} (h : recordedSymbols files p = some s) :
    ∃ st, (p, st) ∈ files ∧ st.symbols = some s := by
  obtain ⟨st, hst, hs⟩ := Option.bind_eq_some_iff.mp h
  exact ⟨st, mem_of_lookup_eq_some hst, hs⟩

theorem usesTypesOf_some (u d : StoredSymbols) : usesTypesOf (some u) (some d) = u.uses d := rfl

theorem usesTypesOf_none (u : Option StoredSymbols) : usesTypesOf u none = .ok false := by
  cases u <;> rfl

/-! ## The symbols of scans

A record written after a scan holds the symbols of the scan as texts (`Symbols.stored`). On
them, the check of the record answers, and answers as the check of the scans
(`Symbols.stored_uses`): the references and imports read as sets hold exactly the texts listed,
and each test of the check is the test of the same name on the texts.
-/

theorem ok_bind {ε α β : Type} (a : α) (f : α → Except ε β) : (Except.ok a >>= f) = f a := rfl

@[simp] theorem Symbols.stored_package (s : Symbols) : s.stored.package = .str s.package := rfl
@[simp] theorem Symbols.stored_types (s : Symbols) : s.stored.types = s.types.map .str := rfl
@[simp] theorem Symbols.stored_imports (s : Symbols) : s.stored.imports = s.imports.map .str := rfl
@[simp] theorem Symbols.stored_references (s : Symbols) :
    s.stored.references = s.references.map .str := rfl

@[simp] theorem Stored.equal_str (a b : String) : Stored.equal (.str a) (.str b) = (a == b) := by
  simp [Stored.equal, Stored.same]

@[simp] theorem Stored.truthy_str (s : String) : Stored.truthy (.str s) = !s.isEmpty := rfl

@[simp] theorem Stored.display_str (s : String) : Stored.display (.str s) = s := rfl

theorem Stored.same_str (a b : String) : Stored.same (.str a) (.str b) = (a == b) := by
  simp [Stored.same]

theorem Stored.memberOf_str (n : String) (set : List Json) :
    Stored.memberOf (.str n) set = .ok (set.any (Stored.same (.str n))) := rfl

/-- Over a set of texts, a test of every member is a test of every text. -/
theorem any_of_strs {set : List Json} {xs : List String}
    (hmem : ∀ j, j ∈ set ↔ ∃ x ∈ xs, j = .str x) (g : Json → Bool) :
    set.any g = xs.any fun x => g (.str x) := by
  rw [Bool.eq_iff_iff, List.any_eq_true, List.any_eq_true]
  constructor
  · rintro ⟨j, hj, hg⟩
    obtain ⟨x, hx, rfl⟩ := (hmem j).mp hj
    exact ⟨x, hx, hg⟩
  · rintro ⟨x, hx, hg⟩
    exact ⟨.str x, (hmem _).mpr ⟨x, hx, rfl⟩, hg⟩

theorem foldlM_setOf_strs (xs : List String) (acc : List Json)
    (hacc : ∀ j ∈ acc, ∃ s, j = .str s) :
    ∃ set, (xs.map Json.str).foldlM (fun (acc : List Json) (x : Json) =>
      (if !Stored.hashable x then .error (Stored.unhashable x)
        else .ok (if acc.any (Stored.same x) then acc else acc ++ [x]) : Except Fault (List Json)))
      acc = .ok set ∧ ∀ j, j ∈ set ↔ j ∈ acc ∨ ∃ x ∈ xs, j = .str x := by
  induction xs generalizing acc with
  | nil => exact ⟨acc, rfl, by simp⟩
  | cons x xs ih =>
    -- a text already in the set leaves it, another is added at the end
    have hnext : (∀ j ∈ (if acc.any (Stored.same (.str x)) then acc else acc ++ [.str x]),
        ∃ s, j = .str s) := by
      split
      · exact hacc
      · intro j hj
        rcases List.mem_append.mp hj with h | h
        · exact hacc j h
        · exact ⟨x, List.mem_singleton.mp h⟩
    obtain ⟨set, hrun, hmem⟩ := ih _ hnext
    refine ⟨set, ?_, fun j => ?_⟩
    · rw [List.map_cons, List.foldlM_cons]
      exact hrun
    · rw [hmem j]
      simp only [List.mem_cons, exists_eq_or_imp]
      split
      · next hdup =>
        obtain ⟨y, hy, hsame⟩ := List.any_eq_true.mp hdup
        obtain ⟨s, rfl⟩ := hacc y hy
        obtain rfl : x = s := by simpa [Stored.same_str] using hsame
        constructor
        · rintro (h | h)
          · exact .inl h
          · exact .inr (.inr h)
        · rintro (h | rfl | h)
          · exact .inl h
          · exact .inl hy
          · exact .inr h
      · rw [List.mem_append, List.mem_singleton]
        constructor
        · rintro ((h | h) | h)
          · exact .inl h
          · exact .inr (.inl h)
          · exact .inr (.inr h)
        · rintro (h | h | h)
          · exact .inl (.inl h)
          · exact .inl (.inr h)
          · exact .inr h

/-- The set of texts holds exactly the texts. -/
theorem Stored.setOf_strs (xs : List String) :
    ∃ set, Stored.setOf (xs.map .str) = .ok set ∧ ∀ j, j ∈ set ↔ ∃ x ∈ xs, j = .str x := by
  obtain ⟨set, h, hmem⟩ := foldlM_setOf_strs xs [] (by simp)
  exact ⟨set, h, by simpa using hmem⟩

theorem anyM_map_ok {α ε : Type} {f : Json → Except ε Bool} {h : α → Json} {g : α → Bool}
    (l : List α) (hf : ∀ x ∈ l, f (h x) = .ok (g x)) : (l.map h).anyM f = .ok (l.any g) := by
  induction l with
  | nil => rfl
  | cons x l ih =>
    rw [List.map_cons, List.anyM, hf x List.mem_cons_self, ok_bind, List.any_cons]
    cases g x with
    | true => rfl
    | false => exact ih fun y hy => hf y (List.mem_cons_of_mem _ hy)

theorem StoredSymbols.qualified_stored (b : Symbols) (t : String) :
    b.stored.qualified (.str t) = .str (b.qualified t) := by
  unfold StoredSymbols.qualified Symbols.qualified Symbols.stored
  cases h : b.package.isEmpty <;> simp [Stored.truthy, Stored.display, h]

theorem StoredSymbols.importsMember_strs {set : List Json} {xs : List String}
    (hmem : ∀ j, j ∈ set ↔ ∃ x ∈ xs, j = .str x) (q : String) :
    StoredSymbols.importsMember set (.str q) = .ok (xs.any (·.startsWith (q ++ "."))) := by
  let g : Json → Bool := fun j => (j.str?.map (·.startsWith (q ++ "."))).getD false
  have hany : set.any g = xs.any (·.startsWith (q ++ ".")) := any_of_strs hmem g
  rw [← hany]
  unfold StoredSymbols.importsMember
  conv_lhs => rw [← List.map_id set]
  refine anyM_map_ok set fun j hj => ?_
  obtain ⟨x, -, rfl⟩ := (hmem j).mp hj
  rfl

/-- On the symbols of scans, the check of a record answers as the check of the scans. -/
theorem Symbols.stored_uses (a b : Symbols) : a.stored.uses b.stored = .ok (a.uses b) := by
  obtain ⟨refs, hrefs, hrm⟩ := Stored.setOf_strs a.references
  obtain ⟨imps, himps, him⟩ := Stored.setOf_strs a.imports
  simp only [StoredSymbols.uses, Symbols.stored_references, Symbols.stored_imports,
    Symbols.stored_types]
  rw [hrefs, ok_bind, himps, ok_bind]
  unfold Symbols.uses
  apply anyM_map_ok
  intro t _
  simp only [StoredSymbols.qualified_stored, Stored.memberOf_str, ok_bind, any_of_strs hrm,
    any_of_strs him, Stored.same_str, StoredSymbols.importsMember_strs him, Symbols.stored_package,
    Stored.equal_str, Stored.truthy_str, Stored.display_str, ← List.contains_eq_any_beq]
  -- the checks in turn, each deciding the answer or passing to the next: the same cascade of
  -- seven truth values
  generalize a.references.contains (b.qualified t) = c₁
  generalize a.imports.contains (b.qualified t) = c₂
  generalize (a.imports.any fun x => x.startsWith (b.qualified t ++ ".")) = c₃
  generalize a.references.contains t = c₄
  generalize (a.package == b.package) = c₅
  generalize b.package.isEmpty = c₆
  generalize a.imports.contains (b.package ++ ".*") = c₇
  revert c₁ c₂ c₃ c₄ c₅ c₆ c₇
  decide

/-- Whether the symbols of a record are texts, as a scan gives them. -/
def ScannedSymbols (files : List (String × FileStatus)) : Prop :=
  ∀ e ∈ files, ∀ s, e.2.symbols = some s → ∃ sym : Symbols, s = sym.stored

/-- A record whose symbols are those of scans can be compared. -/
theorem comparable_of_scanned {files : List (String × FileStatus)} (h : ScannedSymbols files) :
    Comparable files := by
  intro a ha b hb sa sb hsa hsb
  obtain ⟨x, rfl⟩ := h a ha sa hsa
  obtain ⟨y, rfl⟩ := h b hb sb hsb
  exact ⟨x.uses y, Symbols.stored_uses x y⟩

/-! ## One round -/

/-- What a round's comparison of the entries `es` with the declaring symbols makes visited: the
paths `new`, each once, none visited before, each of an entry whose symbols use the declaring
ones; and every entry whose symbols use them is visited after it. -/
structure Scanned (declaring : Option StoredSymbols) (es : List (String × FileStatus))
    (visited new : List String) : Prop where
  nodup : new.Nodup
  fresh : ∀ f ∈ new, f ∉ visited
  uses : ∀ f ∈ new, ∃ st sf sg, (f, st) ∈ es ∧ st.symbols = some sf ∧ declaring = some sg ∧
    sf.uses sg = .ok true
  complete : ∀ e ∈ es, ∀ sf sg, e.2.symbols = some sf → declaring = some sg →
    sf.uses sg = .ok true → e.1 ∈ visited ++ new

section Scanned

variable {declaring : Option StoredSymbols} {es : List (String × FileStatus)}
  {visited new : List String} {other : String} {st : FileStatus}

theorem Scanned.nil (declaring : Option StoredSymbols) (visited : List String) :
    Scanned declaring [] visited [] :=
  ⟨List.nodup_nil, by simp, by simp, by simp⟩

/-- An entry that is visited already, or whose symbols do not use the declaring ones, adds
nothing. -/
theorem Scanned.keep (hs : Scanned declaring es visited new)
    (hkeep : other ∈ visited ∨ ∀ sf sg, st.symbols = some sf → declaring = some sg →
      sf.uses sg ≠ .ok true) :
    Scanned declaring ((other, st) :: es) visited new := by
  refine ⟨hs.nodup, hs.fresh, fun f hf => ?_, fun e he sf sg hsf hsg huses => ?_⟩
  · obtain ⟨st', sf, sg, hmem, h⟩ := hs.uses f hf
    exact ⟨st', sf, sg, List.mem_cons_of_mem _ hmem, h⟩
  rcases List.mem_cons.mp he with rfl | he
  · rcases hkeep with hvisited | hnot
    · exact List.mem_append_left _ hvisited
    · exact absurd huses (hnot sf sg hsf hsg)
  · exact hs.complete e he sf sg hsf hsg huses

/-- An entry not yet visited whose symbols use the declaring ones is added first. -/
theorem Scanned.add {sf sg : StoredSymbols} (hs : Scanned declaring es (visited ++ [other]) new)
    (hfresh : other ∉ visited) (hsf : st.symbols = some sf) (hsg : declaring = some sg)
    (huses : sf.uses sg = .ok true) :
    Scanned declaring ((other, st) :: es) visited (other :: new) := by
  have hnew : ∀ f ∈ new, f ∉ visited ∧ f ≠ other := fun f hf => by
    simpa [not_or] using hs.fresh f hf
  refine ⟨List.nodup_cons.mpr ⟨fun h => (hnew other h).2 rfl, hs.nodup⟩, ?_, ?_, ?_⟩
  · intro f hf
    rcases List.mem_cons.mp hf with rfl | hf
    · exact hfresh
    · exact (hnew f hf).1
  · intro f hf
    rcases List.mem_cons.mp hf with rfl | hf
    · exact ⟨st, sf, sg, List.mem_cons_self, hsf, hsg, huses⟩
    · obtain ⟨st', sf', sg', hmem, h⟩ := hs.uses f hf
      exact ⟨st', sf', sg', List.mem_cons_of_mem _ hmem, h⟩
  · intro e he sf' sg' hsf' hsg' huses'
    rcases List.mem_cons.mp he with rfl | he
    · simp
    · simpa using hs.complete e he sf' sg' hsf' hsg' huses'

end Scanned

theorem visit_of_skip {declaring : Option StoredSymbols} {pending visited found : List String}
    {other : String} {st : FileStatus} (h : (visited.contains other || st.symbols.isNone) = true) :
    dependents.visit declaring (pending, visited, found) (other, st) =
      pure (pending, visited, found) := by
  simp only [dependents.visit, h, if_true]

theorem visit_of_compared {declaring : Option StoredSymbols} {pending visited found : List String}
    {other : String} {st : FileStatus} {b : Bool} (hfresh : other ∉ visited)
    (hsome : st.symbols ≠ none) (hb : usesTypesOf st.symbols declaring = .ok b) :
    dependents.visit declaring (pending, visited, found) (other, st) =
      pure (if b then (pending ++ [other], visited ++ [other], found ++ [other])
        else (pending, visited, found)) := by
  have hskip : (visited.contains other || st.symbols.isNone) = false := by
    simp [hfresh, Option.isSome_iff_ne_none.mpr hsome]
  simp only [dependents.visit, hskip, hb]
  cases b <;> rfl

/-- A round's comparison answers when `uses` answers between the symbols of the entries compared
and the declaring ones: it appends the users it finds to the pending, visited and found paths. -/
theorem foldlM_visit {declaring : Option StoredSymbols} (es : List (String × FileStatus))
    (hanswers : ∀ e ∈ es, ∀ sf sg, e.2.symbols = some sf → declaring = some sg →
      ∃ r, sf.uses sg = .ok r)
    (pending visited found : List String) :
    ∃ new, es.foldlM (dependents.visit declaring) (pending, visited, found) =
      .ok (pending ++ new, visited ++ new, found ++ new) ∧ Scanned declaring es visited new := by
  induction es generalizing pending visited found with
  | nil => exact ⟨[], by simp; rfl, Scanned.nil declaring visited⟩
  | cons e es ih =>
    obtain ⟨other, st⟩ := e
    have hrest := fun e he => hanswers e (List.mem_cons_of_mem _ he)
    by_cases hskip : (visited.contains other || st.symbols.isNone) = true
    -- a visited entry, or one without symbols, is passed over
    · obtain ⟨new, hrun, hs⟩ := ih hrest pending visited found
      refine ⟨new, by simpa [List.foldlM_cons, visit_of_skip hskip] using hrun, hs.keep ?_⟩
      rcases Bool.or_eq_true_iff.mp hskip with hv | hn
      · exact .inl (List.contains_iff_mem.mp hv)
      · refine .inr fun sf sg hsf => ?_
        simp [hsf] at hn
    · simp only [Bool.or_eq_true, not_or, List.contains_iff_mem, Option.isNone_iff_eq_none]
        at hskip
      obtain ⟨hfresh, hsome⟩ := hskip
      obtain ⟨sf, hsf⟩ := Option.ne_none_iff_exists'.mp hsome
      -- the entry is compared with the declaring symbols
      obtain ⟨b, hb⟩ : ∃ b, usesTypesOf st.symbols declaring = .ok b := by
        cases hdecl : declaring with
        | none => exact ⟨false, usesTypesOf_none _⟩
        | some sg =>
          rw [hsf, usesTypesOf_some]
          exact hanswers (other, st) List.mem_cons_self sf sg hsf hdecl
      cases b with
      | false =>
        obtain ⟨new, hrun, hs⟩ := ih hrest pending visited found
        refine ⟨new, by simpa [List.foldlM_cons, visit_of_compared hfresh hsome hb] using hrun,
          hs.keep (.inr fun sf' sg hsf' hsg huses => ?_)⟩
        rw [hsf', hsg, usesTypesOf_some, huses] at hb
        cases hb
      | true =>
        obtain ⟨sg, hsg⟩ : ∃ sg, declaring = some sg := by
          cases hdecl : declaring with
          | none => rw [hdecl, usesTypesOf_none] at hb; cases hb
          | some sg => exact ⟨sg, rfl⟩
        obtain ⟨new, hrun, hs⟩ :=
          ih hrest (pending ++ [other]) (visited ++ [other]) (found ++ [other])
        refine ⟨other :: new, ?_, hs.add hfresh hsf hsg ?_⟩
        · simpa [List.foldlM_cons, visit_of_compared hfresh hsome hb] using hrun
        · rwa [hsf, hsg, usesTypesOf_some] at hb

/-! ## The rounds -/

/-- The entries of the record whose paths are not visited. With the pending paths, they bound
the rounds left. -/
def unvisited (files : List (String × FileStatus)) (visited : List String) : Nat :=
  (files.filter fun e => !visited.contains e.1).length

theorem unvisited_le (files : List (String × FileStatus)) (visited : List String) :
    unvisited files visited ≤ files.length :=
  List.length_filter_le _ _

/-- The paths a round makes visited leave at least as many entries unvisited fewer, since each
is the path of an entry that was not visited. -/
theorem unvisited_append {declaring : Option StoredSymbols} {files : List (String × FileStatus)}
    {visited new : List String} (hs : Scanned declaring files visited new) :
    unvisited files (visited ++ new) + new.length ≤ unvisited files visited := by
  unfold unvisited
  set before := files.filter fun e => !visited.contains e.1 with hbefore
  have hsplit := List.length_eq_length_filter_add (l := before) fun e => new.contains e.1
  have hafter : before.filter (fun e => !new.contains e.1) =
      files.filter fun e => !(visited ++ new).contains e.1 := by
    rw [hbefore, List.filter_filter]
    congr 1
    funext e
    simp [Bool.and_comm]
  -- every path made visited is the path of an entry that was not visited
  have hsub : new ⊆ (before.filter fun e => new.contains e.1).map Prod.fst := by
    intro f hf
    obtain ⟨st, -, -, hmem, -⟩ := hs.uses f hf
    refine List.mem_map.mpr ⟨(f, st), ?_, rfl⟩
    simp [before, hmem, hf, hs.fresh f hf]
  have hle := (hs.nodup.length_le_of_subset hsub).trans_eq (List.length_map _)
  rw [← hafter]
  omega

/-- What holds between the rounds of the search: the visited paths are the roots and then the
paths found, each found once and a dependent; the pending paths are visited; and every user of a
visited path that is no longer pending is visited. -/
structure Worklist (files : List (String × FileStatus)) (roots pending visited found : List String) :
    Prop where
  visited_eq : visited = roots ++ found
  found_nodup : found.Nodup
  found_dependent : ∀ f ∈ found, Dependent files roots f
  pending_visited : pending ⊆ visited
  users_visited : ∀ g ∈ visited, g ∉ pending → ∀ f, UsesRecorded files f g → f ∈ visited

section Worklist

variable {files : List (String × FileStatus)} {roots pending visited found : List String}

/-- The search starts with the roots pending and visited, and nothing found. -/
theorem Worklist.start (files : List (String × FileStatus)) (roots : List String) :
    Worklist files roots roots roots [] :=
  ⟨by simp, List.nodup_nil, by simp, List.Subset.refl _, fun _ hg hp => absurd hg hp⟩

/-- A round takes the last pending path and makes its users visited: the invariant holds
after it. -/
theorem Worklist.round {path : String} {new : List String}
    (hw : Worklist files roots pending visited found) (hlast : pending.getLast? = some path)
    (hs : Scanned (recordedSymbols files path) files visited new) :
    Worklist files roots (pending.dropLast ++ new) (visited ++ new) (found ++ new) := by
  have hpending : pending = pending.dropLast ++ [path] :=
    (List.dropLast_append_getLast? path hlast).symm
  have hpath : path ∈ visited := hw.pending_visited (by rw [hpending]; simp)
  refine ⟨by rw [hw.visited_eq, List.append_assoc], ?_, ?_, ?_, ?_⟩
  · refine List.nodup_append.mpr ⟨hw.found_nodup, hs.nodup, fun a ha b hb hab => ?_⟩
    exact hs.fresh b hb (hab ▸ hw.visited_eq ▸ List.mem_append_right _ ha)
  · intro f hf
    rcases List.mem_append.mp hf with hf | hf
    · exact hw.found_dependent f hf
    -- a new path uses the declaring one, which is a root or was found
    · obtain ⟨st, sf, sg, hmem, hsf, hsg, huses⟩ := hs.uses f hf
      have hroot : f ∉ roots := fun h =>
        hs.fresh f hf (hw.visited_eq ▸ List.mem_append_left _ h)
      have husing : UsesRecorded files f path := ⟨st, sf, sg, hmem, hsf, hsg, huses⟩
      rcases List.mem_append.mp (hw.visited_eq ▸ hpath) with hr | hd
      · exact .of_root hroot hr husing
      · exact .of_dependent hroot (hw.found_dependent path hd) husing
  · intro g hg
    rcases List.mem_append.mp hg with hg | hg
    · exact List.mem_append_left _ (hw.pending_visited (List.dropLast_subset _ hg))
    · exact List.mem_append_right _ hg
  · intro g hg hgp f husing
    have hgnew : g ∉ new := fun h => hgp (List.mem_append_right _ h)
    have hgold : g ∈ visited := by simpa [hgnew] using hg
    by_cases hgpending : g ∈ pending
    -- the path of this round: its users were compared with its symbols
    · have hnot : g ∉ pending.dropLast := fun h => hgp (List.mem_append_left _ h)
      have hgpath : g = path := by
        rw [hpending] at hgpending
        rcases List.mem_append.mp hgpending with h | h
        · exact absurd h hnot
        · exact List.mem_singleton.mp h
      subst hgpath
      obtain ⟨st, sf, sg, hmem, hsf, hsg, huses⟩ := husing
      exact hs.complete (f, st) hmem sf sg hsf hsg huses
    · exact List.mem_append_left _ (hw.users_visited g hgold hgpending f husing)

/-- Once nothing is pending, every dependent was found. -/
theorem Worklist.dependent_mem (hw : Worklist files roots [] visited found) {f : String}
    (hf : Dependent files roots f) : f ∈ found := by
  have hvisited : f ∈ visited := by
    induction hf with
    | of_root _ hg husing =>
      exact hw.users_visited _ (hw.visited_eq ▸ List.mem_append_left _ hg) List.not_mem_nil _
        husing
    | of_dependent _ _ husing ih =>
      exact hw.users_visited _ ih List.not_mem_nil _ husing
  rw [hw.visited_eq] at hvisited
  exact (List.mem_append.mp hvisited).resolve_left hf.not_mem_roots

end Worklist

/-- From a state that keeps the invariant, with more fuel than pending paths and unvisited
entries, the search ends with exactly the dependents, each once. -/
theorem go_eq_dependents {files : List (String × FileStatus)} {roots : List String}
    (hcmp : Comparable files) :
    ∀ (fuel : Nat) (pending visited found : List String),
      Worklist files roots pending visited found →
      pending.length + unvisited files visited < fuel →
      ∃ S, dependents.go files pending visited found fuel = .ok S ∧ S.Nodup ∧
        ∀ f, f ∈ S ↔ Dependent files roots f
  | 0, _, _, _, _, hlt => absurd hlt (Nat.not_lt_zero _)
  | fuel + 1, pending, visited, found, hw, hlt => by
    cases hlast : pending.getLast? with
    | none =>
      -- nothing is pending: the paths found are the dependents
      have hnil : pending = [] := List.getLast?_eq_none_iff.mp hlast
      subst hnil
      exact ⟨found, by simp [dependents.go]; rfl, hw.found_nodup,
        fun f => ⟨hw.found_dependent f, hw.dependent_mem⟩⟩
    | some path =>
      have hanswers : ∀ e ∈ files, ∀ sf sg, e.2.symbols = some sf →
          recordedSymbols files path = some sg → ∃ r, sf.uses sg = .ok r := by
        intro e he sf sg hsf hsg
        obtain ⟨st, hmem, hst⟩ := recordedSymbols_mem hsg
        exact hcmp e he (path, st) hmem sf sg hsf hst
      obtain ⟨new, hrun, hs⟩ := foldlM_visit files hanswers pending.dropLast visited found
      have hlen : pending.dropLast.length + 1 = pending.length := by
        rw [List.length_dropLast]
        have : pending ≠ [] := by simp [← List.getLast?_eq_none_iff, hlast]
        have := List.length_pos_iff.mpr this
        omega
      have hfewer := unvisited_append hs
      obtain ⟨S, hgo, hS⟩ := go_eq_dependents hcmp fuel _ _ _ (hw.round hlast hs)
        (by rw [List.length_append]; omega)
      refine ⟨S, ?_, hS⟩
      simp only [dependents.go, hlast]
      change (List.foldlM (dependents.visit (recordedSymbols files path)) _ files >>= _) = _
      rw [hrun]
      exact hgo

/-- The search for the dependents of the roots ends with exactly the dependents, each once,
whenever `uses` answers on the recorded symbols. -/
theorem dependents_eq_closure (files : List (String × FileStatus)) (roots : List String)
    (hcmp : Comparable files) :
    ∃ S, dependents files roots = .ok S ∧ S.Nodup ∧ ∀ f, f ∈ S ↔ Dependent files roots f :=
  go_eq_dependents hcmp _ roots roots [] (Worklist.start files roots)
    (by have := unvisited_le files roots; omega)

/-- Two sources of a package that use each other, and a third that uses the second: with the
first changed, the search passes the cycle once and finds the other two. -/
example :
    let st (s : Symbols) : FileStatus :=
      { mtime := Binary64.ofInt 0, digest := "d", output := "out", symbols := some s.stored }
    dependents [("A.java", st ⟨"p", ["A"], [], ["B"]⟩), ("B.java", st ⟨"p", ["B"], [], ["A"]⟩),
      ("C.java", st ⟨"p", ["C"], [], ["B"]⟩)] ["A.java"] = .ok ["B.java", "C.java"] := by
  decide

/-! ## The order of the roots and of the record -/

theorem UsesRecorded.of_perm {files files' : List (String × FileStatus)} {f g : String}
    (hperm : files.Perm files') (hkeys : (files.map Prod.fst).Nodup)
    (h : UsesRecorded files f g) : UsesRecorded files' f g := by
  obtain ⟨st, sf, sg, hmem, hsf, hsg, huses⟩ := h
  refine ⟨st, sf, sg, hperm.mem_iff.mp hmem, hsf, ?_, huses⟩
  rwa [recordedSymbols, ← lookup_eq_of_perm hperm hkeys]

theorem Dependent.of_perm {files files' : List (String × FileStatus)} {roots roots' : List String}
    (hperm : files.Perm files') (hkeys : (files.map Prod.fst).Nodup)
    (hroots : ∀ p, p ∈ roots ↔ p ∈ roots') {f : String} (h : Dependent files roots f) :
    Dependent files' roots' f := by
  induction h with
  | of_root hf hg husing =>
    exact .of_root (by rwa [← hroots]) ((hroots _).mp hg) (husing.of_perm hperm hkeys)
  | of_dependent hf _ husing ih =>
    exact .of_dependent (by rwa [← hroots]) ih (husing.of_perm hperm hkeys)

/-- The dependents depend on the roots only as a set, and on a record with distinct paths only
as a set of entries. -/
theorem dependent_iff_of_perm {files files' : List (String × FileStatus)}
    {roots roots' : List String} (hperm : files.Perm files') (hkeys : (files.map Prod.fst).Nodup)
    (hroots : ∀ p, p ∈ roots ↔ p ∈ roots') (f : String) :
    Dependent files roots f ↔ Dependent files' roots' f :=
  ⟨Dependent.of_perm hperm hkeys hroots,
    Dependent.of_perm hperm.symm ((hperm.map Prod.fst).nodup_iff.mp hkeys)
      fun p => (hroots p).symm⟩

/-! ## The files of an incremental build -/

/-- What an incremental decision compiles, given the sources compared as changed, added and
removed: the roots (changed and removed) all have recorded symbols; the removed sources are
those given; and the files, sorted and each once, are exactly the current ones among the changed,
the added and the dependents of the roots. -/
def CompilesDependents (current : List (String × FileStatus)) (prev : Record)
    (changed added removed : List String) (d : Decision) : Prop :=
  d.kind = .incremental →
    (∀ p ∈ changed ++ removed, ∃ s, recordedSymbols prev.files p = some s) ∧
    d.removed = removed ∧ d.files.Pairwise (Text.textLt · ·) ∧
    ∀ p, p ∈ d.files ↔
      (p ∈ changed ∨ p ∈ added ∨ Dependent prev.files (changed ++ removed) p) ∧
        p ∈ current.map Prod.fst

theorem compilesDependents_of_ne {current : List (String × FileStatus)} {prev : Record}
    {changed added removed : List String} {d : Decision} (h : d.kind ≠ .incremental) :
    CompilesDependents current prev changed added removed d :=
  fun hk => absurd hk h

/-- The decision of the incremental branch, once every root has recorded symbols and the
search for dependents answered. -/
theorem compilesDependents_incremental {current : List (String × FileStatus)} {prev : Record}
    {changed added removed users : List String} (hcmp : Comparable prev.files)
    (hrecorded : ∀ p ∈ changed ++ removed, ∃ s, recordedSymbols prev.files p = some s)
    (husers : dependents prev.files (changed ++ removed) = .ok users) :
    CompilesDependents current prev changed added removed
      (Decision.incremental (sortTexts (keepListed (changed ++ added ++ users)
        (current.map Prod.fst))) removed) := by
  obtain ⟨S, hS, -, hmem⟩ := dependents_eq_closure prev.files (changed ++ removed) hcmp
  obtain rfl : users = S := Except.ok.inj (husers.symm.trans hS)
  refine fun _ => ⟨hrecorded, rfl, sortTexts_strictly_sorted (keepListed_nodup _ _), fun p => ?_⟩
  simp only [Decision.incremental, mem_sortTexts, mem_keepListed, List.mem_append, hmem,
    or_assoc]

/-- A root that the search for unknown symbols passes over has recorded symbols. -/
theorem recordedSymbols_of_known {prev : Record} {p : String}
    (h : ¬(match prev.files.lookup p with
      | some { symbols := some _, .. } => false
      | _ => true) = true) :
    ∃ s, recordedSymbols prev.files p = some s := by
  simp only [recordedSymbols]
  split at h
  · simp_all
  · simp at h

theorem conclude_compiles_dependents_spec (t : Tracker) (current : List (String × FileStatus))
    (prev : Record) (dependencies changed added removed : List String)
    (hcmp : Comparable prev.files) :
    ⦃⌜True⌝⦄ t.conclude current prev dependencies changed added removed
    ⦃⇓? d => ⌜CompilesDependents current prev changed added removed d⌝⦄ := by
  mvcgen [Tracker.conclude]
  -- the touched sources and their dependents
  case vc8 =>
    subst_vars
    refine compilesDependents_incremental hcmp (fun p hp => ?_) ‹_›
    exact recordedSymbols_of_known
      (List.find?_eq_none.mp (Option.eq_none_iff_forall_ne_some.mpr ‹_›) p hp)
  -- every other answer is a full build, or nothing to compile
  all_goals exact compilesDependents_of_ne (by simp [Decision.full, Decision.noOp])

/-! ## The incremental branch -/

theorem Comparable.of_perm {files files' : List (String × FileStatus)}
    (hcmp : Comparable files) (hperm : files'.Perm files) : Comparable files' :=
  fun a ha b hb => hcmp a (hperm.mem_iff.mp ha) b (hperm.mem_iff.mp hb)

/-- The incremental branch of the tracker, given the sources compared as changed, added and
removed. When the recorded symbols are texts, as scans give them, the search for the dependents of the
changed and removed sources ends with exactly the least set of dependents, each once, and with
the same set whatever the order of the roots and of a record with distinct paths; and an
incremental decision compiles, sorted and each once, exactly the current sources among the
changed, the added and these dependents. -/
theorem conclude_compiles_changes_and_dependents (t : Tracker)
    (current : List (String × FileStatus)) (prev : Record)
    (dependencies changed added removed : List String) (hscanned : ScannedSymbols prev.files) :
    (∃ S, dependents prev.files (changed ++ removed) = .ok S ∧ S.Nodup ∧
      (∀ f, f ∈ S ↔ Dependent prev.files (changed ++ removed) f) ∧
      ∀ files roots, files.Perm prev.files → (prev.files.map Prod.fst).Nodup →
        (∀ p, p ∈ roots ↔ p ∈ changed ++ removed) →
        ∃ S', dependents files roots = .ok S' ∧ ∀ f, f ∈ S' ↔ f ∈ S) ∧
    ∀ {h h' : Host} {d : Decision},
      (t.conclude current prev dependencies changed added removed).run.run h = (.ok d, h') →
      CompilesDependents current prev changed added removed d := by
  have hcmp := comparable_of_scanned hscanned
  obtain ⟨S, hS, hnd, hmem⟩ := dependents_eq_closure prev.files (changed ++ removed) hcmp
  refine ⟨⟨S, hS, hnd, hmem, fun files roots hperm hkeys hroots => ?_⟩, fun hrun =>
    ok_of_triple (conclude_compiles_dependents_spec t current prev dependencies changed
      added removed hcmp) trivial hrun⟩
  -- the same search over the record and the roots in another order
  obtain ⟨S', hS', -, hmem'⟩ := dependents_eq_closure files roots (hcmp.of_perm hperm)
  have hkeys' : (files.map Prod.fst).Nodup := (hperm.map Prod.fst).nodup_iff.mpr hkeys
  exact ⟨S', hS', fun f => by rw [hmem', hmem, dependent_iff_of_perm hperm hkeys' hroots]⟩

/-- A record of two scanned sources of one package, the second using the type of the first:
with the first changed, the second is its dependent. -/
theorem conclude_compiles_changes_and_dependents_of_user :
    let a : Symbols := { package := "p", types := ["A"], imports := [], references := [] }
    let b : Symbols := { package := "p", types := ["B"], imports := [], references := ["A"] }
    let st (s : Symbols) : FileStatus :=
      { mtime := Binary64.ofInt 0, digest := "d", output := "out", symbols := some s.stored }
    let files : List (String × FileStatus) := [("A.java", st a), ("B.java", st b)]
    let prev := Record.create files "f" [] []
    ScannedSymbols prev.files ∧
    ((∃ S, dependents prev.files (["A.java"] ++ []) = .ok S ∧ S.Nodup ∧
      (∀ f, f ∈ S ↔ Dependent prev.files (["A.java"] ++ []) f) ∧
      ∀ files roots, files.Perm prev.files → (prev.files.map Prod.fst).Nodup →
        (∀ p, p ∈ roots ↔ p ∈ ["A.java"] ++ []) →
        ∃ S', dependents files roots = .ok S' ∧ ∀ f, f ∈ S' ↔ f ∈ S) ∧
    ∀ {h h' : Host} {d : Decision},
      ((({} : Tracker).conclude files prev [] ["A.java"] [] []).run.run h = (.ok d, h')) →
      CompilesDependents files prev ["A.java"] [] [] d) := by
  intro a b st files prev
  have hscanned : ScannedSymbols prev.files := fun e he s hs => by
    simp only [prev, files, Record.create, List.mem_cons, List.not_mem_nil, or_false] at he
    rcases he with rfl | rfl
    · exact ⟨a, (Option.some.inj hs).symm⟩
    · exact ⟨b, (Option.some.inj hs).symm⟩
  exact ⟨hscanned,
    conclude_compiles_changes_and_dependents {} files prev [] ["A.java"] [] [] hscanned⟩

end JavaBuild.Change
