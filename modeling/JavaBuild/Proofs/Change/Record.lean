import Mathlib.Data.List.Chain
import JavaBuild.Change.Record
import JavaBuild.Proofs.Data.Json.RoundTrip
import JavaBuild.Proofs.Data.Timsort
import JavaBuild.Proofs.Text.Order

/-!
# A stored record read back

A record is stored as its JSON value with the members of every object sorted by name
(`Record.toText`). Reading that value back (`Record.ofJson`) gives the record of the same
sources, fingerprint, dependencies and outputs, with the sources, the output directories and the
files of each directory in the order of their paths (`ofJson_sortKeys_create`).

The argument follows the reader field by field: a member of an object with distinct names is
found by its name whatever the order of the members (`lookup_eq_of_perm`), a stored time is the
number written, a stored text shows as itself, and the dependencies, written sorted, come back
from the reader's sort unchanged, since a sorted list is one ascending run
(`Timsort.sortList_of_isChain`).
-/

namespace JavaBuild

namespace Assoc

/-- A table in the order of its keys; keys that are equal keep their order. -/
def sortByKey {β : Type} (t : List (String × β)) : List (String × β) :=
  t.mergeSort fun a b => Text.textLe a.1 b.1

theorem sortByKey_map {γ δ : Type} (l : List (String × γ)) (f : String × γ → δ) :
    sortByKey (l.map fun x => (x.1, f x)) = (sortByKey l).map fun x => (x.1, f x) := by
  unfold sortByKey
  exact (List.map_mergeSort (f := fun x : String × γ => (x.1, f x))
    (s := fun a b => Text.textLe a.1 b.1) fun _ _ _ _ => rfl).symm

end Assoc

section Lookup

variable {α β : Type} [BEq α] [LawfulBEq α]

theorem lookup_eq_some_of_mem {l : List (α × β)} {k : α} {v : β}
    (hnd : (l.map Prod.fst).Nodup) (h : (k, v) ∈ l) : l.lookup k = some v := by
  induction l with
  | nil => cases h
  | cons p l ih =>
    obtain ⟨k', v'⟩ := p
    simp only [List.map_cons, List.nodup_cons, List.mem_map] at hnd
    rcases List.mem_cons.mp h with heq | hmem
    · cases heq
      simp
    · have hne : (k == k') = false := beq_eq_false_iff_ne.mpr fun hk => hnd.1 ⟨(k, v), hmem, hk⟩
      rw [List.lookup_cons, hne]
      exact ih hnd.2 hmem

theorem mem_of_lookup_eq_some {l : List (α × β)} {k : α} {v : β} (h : l.lookup k = some v) :
    (k, v) ∈ l := by
  obtain ⟨l₁, l₂, rfl, -⟩ := List.lookup_eq_some_iff.mp h
  simp

/-- In a table with distinct keys the value of a key does not depend on the order. -/
theorem lookup_eq_of_perm {l l' : List (α × β)} (hp : l.Perm l') (hnd : (l.map Prod.fst).Nodup)
    (k : α) : l.lookup k = l'.lookup k := by
  cases hk : l.lookup k with
  | none =>
    rw [List.lookup_eq_none_iff] at hk
    exact (List.lookup_eq_none_iff.mpr fun p hp' => hk p (hp.mem_iff.mpr hp')).symm
  | some v =>
    exact (lookup_eq_some_of_mem ((hp.map Prod.fst).nodup_iff.mp hnd)
      (hp.mem_iff.mp (mem_of_lookup_eq_some hk))).symm

end Lookup

namespace Json

theorem sortKeysMembers_map {γ : Type} (l : List (String × γ)) (g : String × γ → Json) :
    sortKeysMembers (l.map fun x => (x.1, g x)) = l.map fun x => (x.1, sortKeys (g x)) := by
  induction l with
  | nil => rfl
  | cons x l ih => simp [sortKeysMembers, ih]

theorem sortKeysItems_map_str (xs : List String) : sortKeysItems (xs.map .str) = xs.map .str := by
  induction xs with
  | nil => rfl
  | cons x xs ih => simp [sortKeysItems, sortKeys, ih]

/-- Sorting the members of an object is sorting the object as a table. -/
theorem sortMembers_eq_sortByKey (ms : List (String × Json)) :
    sortMembers ms = Assoc.sortByKey ms := rfl

theorem lookup_sortKeysMembers (ms : List (String × Json)) (k : String) :
    (sortKeysMembers ms).lookup k = (ms.lookup k).map sortKeys := by
  induction ms with
  | nil => rfl
  | cons m ms ih =>
    obtain ⟨k', v⟩ := m
    by_cases hk : k = k'
    · subst hk
      simp [sortKeysMembers]
    · rw [sortKeysMembers, List.lookup_cons, List.lookup_cons, beq_eq_false_iff_ne.mpr hk]
      exact ih

/-- A member of a sorted object is found by its name, its value sorted in turn. -/
theorem lookup_sortKeys_obj {ms : List (String × Json)} (hnd : (ms.map Prod.fst).Nodup)
    (k : String) : (sortMembers (sortKeysMembers ms)).lookup k = (ms.lookup k).map sortKeys := by
  unfold sortMembers
  rw [← lookup_eq_of_perm (List.mergeSort_perm _ _).symm (by rwa [map_fst_sortKeysMembers]),
    lookup_sortKeysMembers]

end Json

namespace Change

open Json

/-- A list read element by element, every element read without a fault. -/
theorem mapM_eq_ok {α β ε : Type} {f : α → Except ε β} {g : α → β} {l : List α}
    (h : ∀ x ∈ l, f x = .ok (g x)) : l.mapM f = .ok (l.map g) := by
  induction l with
  | nil => rfl
  | cons a l ih =>
    rw [List.mapM_cons, h a (by simp), ih fun x hx => h x (by simp [hx])]
    rfl

@[simp] theorem mapM_ok {α β ε : Type} (f : α → β) (l : List α) :
    l.mapM (fun x => (Except.ok (f x) : Except ε β)) = .ok (l.map f) :=
  mapM_eq_ok fun _ _ => rfl

section Fields

/-- A member of a sorted object with distinct names is the member of the object, sorted. -/
theorem Stored.member_sortKeys_obj {ms : List (String × Json)} (hnd : (ms.map Prod.fst).Nodup)
    (k : String) :
    Stored.member (.obj (sortMembers (sortKeysMembers ms))) k =
      sortKeys <$> Stored.member (.obj ms) k := by
  simp only [Stored.member, lookup_sortKeys_obj hnd]
  cases ms.lookup k <;> rfl

/-- The dependencies as a record keeps them, sorted, are left as they are by the reader's
sort. -/
theorem Stored.sort_sortTexts (deps : List String) :
    Stored.sort ((sortTexts deps).map .str) = .ok ((sortTexts deps).map .str) := by
  apply Timsort.sortList_of_isChain
  apply List.isChain_map_of_isChain _ _ (sortTexts_sorted deps).isChain
  intro a b hab
  simp only [Stored.lessThan]
  simpa [Text.textLe] using hab

end Fields

section Statuses

/-- The symbols of a scan read back as they were stored. -/
theorem StoredSymbols.ofStored_sortKeys (sym : Symbols) :
    StoredSymbols.ofStored (sortKeys sym.stored.toJson) = .ok sym.stored := by
  have hnd : ([("package", Json.str sym.package), ("types", .arr (sym.types.map .str)),
      ("imports", .arr (sym.imports.map .str)),
      ("references", .arr (sym.references.map .str))].map Prod.fst).Nodup := by
    simp
  simp only [StoredSymbols.toJson, Symbols.stored, sortKeys, StoredSymbols.ofStored,
    Stored.member_sortKeys_obj hnd]
  simp [Stored.member, List.lookup_cons, sortKeys, sortKeysItems_map_str, Stored.items, bind,
    Except.bind, pure, Except.pure]

/-- A status whose symbols, if any, are those of a scan reads back as it was stored. -/
theorem FileStatus.ofStored_sortKeys (st : FileStatus)
    (hsym : ∀ s ∈ st.symbols, ∃ sym : Symbols, s = sym.stored) :
    FileStatus.ofStored (sortKeys st.toJson) = .ok st := by
  obtain ⟨mtime, digest, output, symbols⟩ := st
  cases symbols with
  | none =>
    have hnd : ([("mtime", Json.float mtime), ("digest", .str digest),
        ("output", .str output)].map Prod.fst).Nodup := by
      simp
    simp only [FileStatus.toJson, List.append_nil, sortKeys, FileStatus.ofStored,
      Stored.member_sortKeys_obj hnd, Stored.members]
    simp [lookup_sortKeys_obj hnd, Stored.member, List.lookup_cons, sortKeys, Stored.seconds,
      Stored.display, bind, Except.bind, pure, Except.pure]
  | some s =>
    obtain ⟨sym, rfl⟩ := hsym s rfl
    -- the stored symbols are an object, so the reader takes them as symbols
    obtain ⟨ms, hms⟩ : ∃ ms, sortKeys sym.stored.toJson = .obj ms := ⟨_, rfl⟩
    have hread : StoredSymbols.ofStored (.obj ms) = .ok sym.stored :=
      hms ▸ StoredSymbols.ofStored_sortKeys sym
    have hnd : ([("mtime", Json.float mtime), ("digest", .str digest), ("output", .str output),
        ("symbols", sym.stored.toJson)].map Prod.fst).Nodup := by
      simp
    simp only [FileStatus.toJson, List.cons_append, List.nil_append, sortKeys, FileStatus.ofStored,
      Stored.member_sortKeys_obj hnd, Stored.members]
    simp [lookup_sortKeys_obj hnd, Stored.member, List.lookup_cons, sortKeys, Stored.seconds,
      Stored.display, bind, Except.bind, pure, Except.pure, hms, hread]

end Statuses

section Records

theorem Record.nodup_keys_toJson (r : Record) (t : Binary64) :
    ([("format", r.format), ("buildTime", Json.float t), ("options", r.options),
      ("dependencies", .arr r.dependencies),
      ("outputs", .obj (r.outputs.map fun x => (x.1, .obj (x.2.map fun y => (y.1, .arr y.2))))),
      ("files", .obj (r.files.map fun x => (x.1, x.2.toJson)))].map Prod.fst).Nodup := by
  simp

theorem sortKeysItems_time (n : Nat) (x : Binary64) :
    sortKeysItems [.int n, .float x] = [.int n, .float x] := rfl

/-- The stored record of sources whose symbols come from scans reads back as the record of the
same sources, fingerprint, dependencies and outputs, each table in the order of its keys. -/
theorem Record.ofJson_sortKeys_create (files : List (String × FileStatus)) (fp : String)
    (deps : List String) (outs : List (String × List (String × Nat × Binary64))) (t : Binary64)
    (hsym : ∀ x ∈ files, ∀ s ∈ x.2.symbols, ∃ sym : Symbols, s = sym.stored) :
    Record.ofJson (sortKeys ((Record.create files fp deps outs).toJson t)) =
      .ok (Record.create (Assoc.sortByKey files) fp deps
        (Assoc.sortByKey (outs.map fun x => (x.1, Assoc.sortByKey x.2)))) := by
  simp only [Record.toJson, sortKeys]
  have htop := Record.nodup_keys_toJson (Record.create files fp deps outs) t
  simp only [Record.ofJson, Stored.members, bind, Except.bind, lookup_sortKeys_obj htop,
    Stored.member_sortKeys_obj htop]
  -- every member is found by name; the tables are read in the order of their keys
  simp only [List.lookup_cons, Stored.member, sortKeys, String.reduceBEq, Option.map_some,
    Option.getD_some, Stored.isOne, Record.create, Functor.map, Except.map,
    sortKeysItems_map_str, sortKeysMembers_map, sortMembers_eq_sortByKey, Assoc.sortByKey_map,
    List.mapM_map, List.map_map, Function.comp_def]
  rw [mapM_eq_ok (g := id)]
  · simp only [Stored.items, sortKeysItems_time, Stored.sort_sortTexts, List.map_id, pure,
      Except.pure]
    simp
  · intro x hx
    rw [FileStatus.ofStored_sortKeys x.2 (hsym x (List.mem_mergeSort.mp hx))]
    rfl

end Records

end Change

end JavaBuild
