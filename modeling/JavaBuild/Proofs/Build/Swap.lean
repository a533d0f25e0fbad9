import Mathlib
import JavaBuild.Proofs.Host
import JavaBuild.Proofs.Files.Move
import JavaBuild.Build.Substitution

/-!
# Swapping the module declarations on the host

A `Substitution` moves files by renaming them, records each move, and undoes the moves it
recorded, the last first. The moves of a substitution are `Moved` steps among a list of paths
`P` that lie apart (`Disk.Apart`), each onto a free path. From that invariant:

- undoing the moves, on any disk that agrees with their outcome on the watched paths (`P` and
  the directories on the way to them), succeeds and gives back what those paths held before the
  first move (`undo_moved`); so `restore` never fails (`restore_moved`);
- `swap` either makes all its moves and says so, or undoes those it made and leaves the watched
  paths as they were (`swap_spec`);
- when the test class is the main class itself, the swap can never take it out of the way: it
  fails and makes no move (`swap_same_output`).
-/

set_option mvcgen.warning false

namespace JavaBuild

open Std.Do

/-! ## The host operations of a substitution -/

namespace HostM

/-- A rename either moves the entries as `Disk.rename` does, or fails with a file error and
changes nothing; it fails when a name is empty or the disk refuses the move. -/
@[spec] theorem rename_spec (src dst : String) (h₀ : Host) :
    ⦃fun h => ⌜h = h₀⌝⦄ rename src dst
    ⦃post⟨fun _ h => ⌜src ≠ "" ∧ dst ≠ "" ∧
        h₀.disk.rename (Path.absolute h₀.cwd src) (Path.absolute h₀.cwd dst) = .ok h.disk ∧
        h.cwd = h₀.cwd⌝,
      fun e h => ⌜h = h₀ ∧ (∃ oe, e = .os oe) ∧ (src = "" ∨ dst = "" ∨
        ∀ d, h₀.disk.rename (Path.absolute h₀.cwd src) (Path.absolute h₀.cwd dst) ≠ .ok d)⌝⟩⦄ := by
  mvcgen [rename]
  all_goals subst_vars
  all_goals simp_all
  all_goals tauto

@[spec] theorem logDebug_spec (line : String) (D : Disk) (c : String) :
    ⦃fun h => ⌜h.disk = D ∧ h.cwd = c⌝⦄ logDebug line ⦃⇓ _ h => ⌜h.disk = D ∧ h.cwd = c⌝⦄ := by
  mvcgen [logDebug, log, printOut]

@[spec] theorem warn_spec (line : String) (D : Disk) (c : String) :
    ⦃fun h => ⌜h.disk = D ∧ h.cwd = c⌝⦄ warn line ⦃⇓ _ h => ⌜h.disk = D ∧ h.cwd = c⌝⦄ := by
  mvcgen [warn, printErr]

/-- A triple that excludes failure holds of any weaker postcondition. -/
theorem triple_mono {α : Type} {x : HostM α} {P : Host → Prop} {Q Q' : α → Host → Prop}
    (hx : ⦃fun h => ⌜P h⌝⦄ x ⦃⇓ a h => ⌜Q a h⌝⦄) (hq : ∀ a h, Q a h → Q' a h) :
    ⦃fun h => ⌜P h⌝⦄ x ⦃⇓ a h => ⌜Q' a h⌝⦄ := by
  intro h hP
  have hwp := hx h hP
  rw [wp_apply] at hwp ⊢
  generalize x.run.run h = r at hwp ⊢
  obtain ⟨_ | a, h'⟩ := r
  · exact hwp
  · exact hq a h' hwp

end HostM

namespace Substitution

@[spec] theorem move_spec (s : Substitution) (src dst : String) (h₀ : Host) :
    ⦃fun h => ⌜h = h₀⌝⦄ s.move src dst
    ⦃post⟨fun s' h => ⌜s' = { s with moves := s.moves ++ [(src, dst)] } ∧ src ≠ "" ∧ dst ≠ "" ∧
        h₀.disk.rename (Path.absolute h₀.cwd src) (Path.absolute h₀.cwd dst) = .ok h.disk ∧
        h.cwd = h₀.cwd⌝,
      fun e h => ⌜h = h₀ ∧ ∃ oe, e = .os oe⌝⟩⦄ := by
  mvcgen [move]
  all_goals subst_vars
  all_goals simp_all

/-- An attempted move records the move when the rename succeeds and changes nothing when it
fails. -/
theorem attempt_move_spec (s : Substitution) (src dst : String) (h₀ : Host) :
    ⦃fun h => ⌜h = h₀⌝⦄ attempt (s.move src dst)
    ⦃⇓ r h => ⌜match r with
      | .ok s' => s' = { s with moves := s.moves ++ [(src, dst)] } ∧ src ≠ "" ∧ dst ≠ "" ∧
        h₀.disk.rename (Path.absolute h₀.cwd src) (Path.absolute h₀.cwd dst) = .ok h.disk ∧
        h.cwd = h₀.cwd
      | .error _ => h = h₀⌝⦄ := by
  mvcgen [attempt]
  all_goals subst_vars
  all_goals simp_all

/-- Moving back never fails: it reports the move it could not undo instead. -/
theorem moveBack_spec (src dst : String) (h₀ : Host) :
    ⦃fun h => ⌜h = h₀⌝⦄ moveBack (src, dst)
    ⦃⇓ errs h => ⌜errs = [] ∧ dst ≠ "" ∧ src ≠ "" ∧
        h₀.disk.rename (Path.absolute h₀.cwd dst) (Path.absolute h₀.cwd src) = .ok h.disk ∧
        h.cwd = h₀.cwd ∨
      h = h₀ ∧ (dst = "" ∨ src = "" ∨
        ∀ d, h₀.disk.rename (Path.absolute h₀.cwd dst) (Path.absolute h₀.cwd src) ≠ .ok d)⌝⦄ := by
  mvcgen [moveBack]
  all_goals subst_vars
  all_goals simp_all

/-- Without a backup on the disk there is nothing to recover. -/
theorem recoverFile_spec (s : Substitution) (p : String) (h₀ : Host)
    (hp : h₀.disk.find? (Path.absolute h₀.cwd (backup p)) = none) :
    ⦃fun h => ⌜h = h₀⌝⦄ s.recoverFile p ⦃⇓ _ h => ⌜h = h₀⌝⦄ := by
  mvcgen [recoverFile]
  all_goals simp_all [Disk.exists?_eq_false_of_find?]

theorem recover_spec (s : Substitution) (h₀ : Host)
    (hts : h₀.disk.find? (Path.absolute h₀.cwd (backup s.testSource)) = none)
    (hmc : h₀.disk.find? (Path.absolute h₀.cwd (backup s.mainClass)) = none) :
    ⦃fun h => ⌜h = h₀⌝⦄ s.recover ⦃⇓ _ h => ⌜h = h₀⌝⦄ := by
  have h₁ := recoverFile_spec s s.testSource h₀ hts
  have h₂ := recoverFile_spec s s.mainClass h₀ hmc
  mvcgen [recover, h₁, h₂]

/-! ## Moves among paths that lie apart -/

/-- One move of a substitution, seen from the working directory `cwd`: between two of the
paths `P`, onto a free path, taking the disk `d` to `d'`. -/
structure Step (cwd : String) (P : List String) (d : Disk) (src dst : String) (d' : Disk) :
    Prop where
  src_ne : src ≠ ""
  dst_ne : dst ≠ ""
  src_mem : Path.absolute cwd src ∈ P
  dst_mem : Path.absolute cwd dst ∈ P
  ne : Path.absolute cwd src ≠ Path.absolute cwd dst
  free : d.find? (Path.absolute cwd dst) = none
  rename : d.rename (Path.absolute cwd src) (Path.absolute cwd dst) = .ok d'

/-- Moves made one after the other, taking the first disk to the last. -/
inductive Moved (cwd : String) (P : List String) : Disk → List (String × String) → Disk → Prop
  | nil (d : Disk) : Moved cwd P d [] d
  | cons {d d₁ d₂ : Disk} {src dst : String} {ms : List (String × String)} :
      Step cwd P d src dst d₁ → Moved cwd P d₁ ms d₂ → Moved cwd P d ((src, dst) :: ms) d₂

@[simp] theorem moved_nil_iff {cwd : String} {P : List String} {d d' : Disk} :
    Moved cwd P d [] d' ↔ d' = d :=
  ⟨fun h => by cases h; rfl, fun h => h ▸ .nil _⟩

theorem Moved.snoc {cwd : String} {P : List String} {d d₁ d₂ : Disk} {src dst : String}
    {ms : List (String × String)} (hm : Moved cwd P d ms d₁) (hs : Step cwd P d₁ src dst d₂) :
    Moved cwd P d (ms ++ [(src, dst)]) d₂ := by
  induction hm with
  | nil d => exact .cons hs (.nil _)
  | cons hs' _ ih => exact .cons hs' (ih hs)

/-- A move attempted onto a path that does not exist extends the moves made, when it succeeds,
and leaves them when it fails. -/
theorem attempt_move_moved {cwd : String} {P : List String} (d₀ : Disk) (c : Substitution)
    (src dst : String)
    (hsrc : Path.absolute cwd src ∈ P) (hdst : Path.absolute cwd dst ∈ P)
    (hne : Path.absolute cwd src ≠ Path.absolute cwd dst) :
    ⦃fun h => ⌜h.cwd = cwd ∧ Moved cwd P d₀ c.moves h.disk ∧
      h.disk.exists? (Path.absolute cwd dst) = false⌝⦄
    attempt (c.move src dst)
    ⦃⇓ r h => ⌜h.cwd = cwd ∧ match r with
      | .ok c' => c' = { c with moves := c.moves ++ [(src, dst)] } ∧ Moved cwd P d₀ c'.moves h.disk
      | .error _ => Moved cwd P d₀ c.moves h.disk⌝⦄ := by
  mvcgen [attempt_move_spec]
  rename_i h₀ hpre r h
  obtain ⟨rfl, hm, hx⟩ := hpre
  cases r with
  | ok c' =>
    rintro ⟨rfl, hs, hd, hr, hc⟩
    exact ⟨hc, rfl, hm.snoc ⟨hs, hd, hsrc, hdst, hne, Disk.find?_eq_none_of_rename hr hx, hr⟩⟩
  | error e =>
    rintro rfl
    exact ⟨rfl, hm⟩

/-- A move attempted from a path that does not exist fails and changes nothing. -/
theorem attempt_move_absent (c : Substitution) (src dst : String) (Q : Host → Prop) :
    ⦃fun h => ⌜Q h ∧ h.disk.exists? (Path.absolute h.cwd src) = false⌝⦄
    attempt (c.move src dst)
    ⦃⇓ r h => ⌜Q h ∧ ∃ e, r = .error e⌝⦄ := by
  mvcgen [attempt_move_spec]
  rename_i h₀ hpre r h
  obtain ⟨hQ, hx⟩ := hpre
  cases r with
  | ok c' =>
    rintro ⟨-, -, -, hr, -⟩
    rw [Disk.exists?_of_rename hr] at hx
    exact absurd hx Bool.noConfusion
  | error e =>
    rintro rfl
    exact ⟨hQ, e, rfl⟩

/-! ## Undoing moves -/

section Undo

variable {cwd : String} {P : List String} (hA : Disk.Apart P)
include hA

/-- A move leaves nothing at its source. -/
theorem Step.find?_src {d d' : Disk} {src dst : String} (hs : Step cwd P d src dst d') :
    d'.find? (Path.absolute cwd src) = none := by
  rw [Disk.rename_eq_moveTree_of_ne hs.rename hs.ne]
  exact Disk.find?_moveTree_src d (hA.not_root _ hs.src_mem) hs.ne
    (hA.not_inside _ hs.dst_mem _ hs.src_mem)

/-- A move leaves the watched paths it does not touch. -/
theorem Moved.find?_of_untouched {d₀ d₁ : Disk} {ms : List (String × String)}
    (hm : Moved cwd P d₀ ms d₁) {x : String} (hx : x ∈ Disk.watched P)
    (hu : ∀ m ∈ ms, x ≠ Path.absolute cwd m.1 ∧ x ≠ Path.absolute cwd m.2) :
    d₁.find? x = d₀.find? x := by
  induction hm with
  | nil d => rfl
  | cons hs _ ih =>
    obtain ⟨hxs, hxd⟩ := hu _ List.mem_cons_self
    rw [ih fun m hm => hu m (List.mem_cons_of_mem _ hm), Disk.rename_eq_moveTree_of_ne hs.rename hs.ne,
      hA.find?_moveTree _ hs.src_mem hs.dst_mem hx hxs hxd]

/-- Moving back one move on a disk that agrees with its outcome brings back what the watched
paths held before it. -/
theorem moveBack_step {d d' : Disk} {src dst : String} (hs : Step cwd P d src dst d') :
    ⦃fun h => ⌜h.cwd = cwd ∧ Disk.SameOn (Disk.watched P) h.disk d'⌝⦄ moveBack (src, dst)
    ⦃⇓ errs h => ⌜errs = [] ∧ h.cwd = cwd ∧ Disk.SameOn (Disk.watched P) h.disk d⌝⦄ := by
  mvcgen [moveBack_spec]
  rename_i h₀ hpre errs h
  obtain ⟨rfl, hag⟩ := hpre
  have hback := hA.rename_back hs.src_mem hs.dst_mem hs.ne hs.rename hag
  rintro (⟨rfl, -, -, hr, hc⟩ | ⟨-, hfail⟩)
  · rw [hback, Except.ok.injEq] at hr
    rw [← hr]
    exact ⟨rfl, hc, hA.sameOn_moveTree_back hs.src_mem hs.dst_mem hs.ne hs.rename hs.free hag⟩
  · -- the move back cannot fail: both names are given and the rename goes through
    rcases hfail with hd | hs' | hr
    · exact absurd hd hs.dst_ne
    · exact absurd hs' hs.src_ne
    · exact absurd hback (hr _)

/-- Undoing moves, the last first, on a disk that agrees with their outcome brings back what the
watched paths held before the first. -/
theorem undo_moved {d₀ d₁ : Disk} {ms : List (String × String)} (hm : Moved cwd P d₀ ms d₁) :
    ⦃fun h => ⌜h.cwd = cwd ∧ Disk.SameOn (Disk.watched P) h.disk d₁⌝⦄ undo ms
    ⦃⇓ errs h => ⌜errs = [] ∧ h.cwd = cwd ∧ Disk.SameOn (Disk.watched P) h.disk d₀⌝⦄ := by
  induction hm with
  | nil d =>
    mvcgen [undo]
  | cons hs _ ih =>
    have hback := moveBack_step hA hs
    mvcgen [undo, ih, hback]
    all_goals simp_all

/-- `undo_moved` from the disk the moves led to. -/
theorem undo_spec (d₀ : Disk) (ms : List (String × String)) :
    ⦃fun h => ⌜h.cwd = cwd ∧ Moved cwd P d₀ ms h.disk⌝⦄ undo ms
    ⦃⇓ errs h => ⌜errs = [] ∧ h.cwd = cwd ∧ Disk.SameOn (Disk.watched P) h.disk d₀⌝⦄ := by
  rintro h ⟨hc, hm⟩
  exact undo_moved hA hm h ⟨hc, .refl _ _⟩

/-- Restoring moves never fails: every move is undone. -/
theorem restore_moved (s : Substitution) {d₀ d₁ : Disk} (hm : Moved cwd P d₀ s.moves d₁) :
    ⦃fun h => ⌜h.cwd = cwd ∧ Disk.SameOn (Disk.watched P) h.disk d₁⌝⦄ s.restore
    ⦃⇓ s' h => ⌜s'.moves = [] ∧ h.cwd = cwd ∧ Disk.SameOn (Disk.watched P) h.disk d₀⌝⦄ := by
  have hundo := undo_moved hA hm
  mvcgen [restore, hundo]
  all_goals simp_all

/-- `restore_moved` for a property `R` of the disk the moves started from. -/
theorem restore_spec_of (R : Disk → Prop) (s : Substitution) :
    ⦃fun h => ⌜h.cwd = cwd ∧ ∃ d₀ d₁, R d₀ ∧ Moved cwd P d₀ s.moves d₁ ∧
      Disk.SameOn (Disk.watched P) h.disk d₁⌝⦄ s.restore
    ⦃⇓ _ h => ⌜h.cwd = cwd ∧ ∃ d₀, R d₀ ∧ Disk.SameOn (Disk.watched P) h.disk d₀⌝⦄ := by
  rintro h ⟨hc, d₀, d₁, hR, hm, hag⟩
  apply HostM.triple_mono (restore_moved hA s hm) _ h ⟨hc, hag⟩
  rintro s' h' ⟨-, hc', hag'⟩
  exact ⟨hc', d₀, hR, hag'⟩

end Undo

/-- With no move made, restoring changes nothing. -/
theorem restore_nil_spec (s : Substitution) (hmoves : s.moves = []) (h₀ : Host) :
    ⦃fun h => ⌜h = h₀⌝⦄ s.restore ⦃⇓ _ h => ⌜h = h₀⌝⦄ := by
  mvcgen [restore, hmoves, undo]

/-! ## Swapping -/

/-- The paths a substitution moves, seen from `cwd`: the test source and its backup, the main
class and its backup, and the test class. -/
def paths (s : Substitution) (cwd : String) : List String :=
  [s.testSource, backup s.testSource, s.mainClass, backup s.mainClass, s.testClass].map
    (Path.absolute cwd)

/-- A swap from a disk without backups either makes all its moves and says so, or says it did
not and leaves the watched paths as they were. -/
theorem swap_spec (s : Substitution) {cwd : String} (hA : Disk.Apart (s.paths cwd))
    (hmoves : s.moves = []) (hname : HostM.nameable s.mainClass = true) (d₀ : Disk)
    (hts : d₀.find? (Path.absolute cwd (backup s.testSource)) = none)
    (hmc : d₀.find? (Path.absolute cwd (backup s.mainClass)) = none) :
    ⦃fun h => ⌜h.cwd = cwd ∧ h.disk = d₀⌝⦄ s.swap
    ⦃⇓ r h => ⌜h.cwd = cwd ∧
      (r.1 = true ∧ Moved cwd (s.paths cwd) d₀ r.2.moves h.disk ∨
        r.1 = false ∧ r.2.moves = [] ∧ Disk.SameOn (Disk.watched (s.paths cwd)) h.disk d₀)⌝⦄ := by
  have hnd := hA.nodup
  simp only [paths, List.map_cons, List.map_nil, List.nodup_cons, List.mem_cons,
    List.not_mem_nil, not_or, List.nodup_nil, not_false_eq_true, and_true] at hnd
  obtain ⟨⟨h12, -, h14, -⟩, ⟨-, h24, -⟩, ⟨h34, h35⟩, -⟩ := hnd
  have hmem : ∀ p ∈ [s.testSource, backup s.testSource, s.mainClass, backup s.mainClass,
      s.testClass], Path.absolute cwd p ∈ s.paths cwd := fun p hp => List.mem_map_of_mem hp
  have m₁ := fun c => attempt_move_moved d₀ c s.testSource (backup s.testSource)
    (hmem _ (by simp)) (hmem _ (by simp)) h12
  have m₂ := fun c => attempt_move_moved d₀ c s.mainClass (backup s.mainClass)
    (hmem _ (by simp)) (hmem _ (by simp)) h34
  have m₃ := fun c => attempt_move_moved d₀ c s.testClass s.mainClass
    (hmem _ (by simp)) (hmem _ (by simp)) (Ne.symm h35)
  have hundo := @undo_spec cwd _ hA d₀
  -- the backup of the main class is still free after the test source was moved
  have free₂ : ∀ d, Moved cwd (s.paths cwd) d₀ [(s.testSource, backup s.testSource)] d →
      d.exists? (Path.absolute cwd (backup s.mainClass)) = false := by
    intro d hm
    apply Disk.exists?_eq_false_of_find?
    rw [Moved.find?_of_untouched hA hm (List.mem_append_left _ (hmem _ (by simp))), hmc]
    simpa using ⟨Ne.symm h14, Ne.symm h24⟩
  -- the main class is free once moved to its backup
  have free₃ : ∀ d, Moved cwd (s.paths cwd) d₀
      [(s.testSource, backup s.testSource), (s.mainClass, backup s.mainClass)] d →
      d.exists? (Path.absolute cwd s.mainClass) = false := by
    rintro d (_ | ⟨-, _ | ⟨hs, _ | _⟩⟩)
    exact Disk.exists?_eq_false_of_find? (hs.find?_src hA)
  mvcgen -trivial [swap, m₁, m₂, m₃, hundo]
  all_goals clear m₁ m₂ m₃ hundo hmem
  all_goals simp +zetaDelta only [hmoves, List.length_nil, List.drop_zero, List.take_zero,
    List.nil_append] at *
  all_goals casesm* _ ∧ _
  all_goals simp_all [Disk.exists?_eq_false_of_find?]

/-- The paths that a substitution backs up, seen from `cwd`: the test source and the main
class, and their backups. -/
def backedUp (s : Substitution) (cwd : String) : List String :=
  [s.testSource, backup s.testSource, s.mainClass, backup s.mainClass].map (Path.absolute cwd)

/-- When the test class is the main class, the swap cannot put it in place: it makes no move,
and gives back what the backed-up paths held. -/
theorem swap_same_output (s : Substitution) {cwd : String} (hA : Disk.Apart (s.backedUp cwd))
    (hsame : Path.absolute cwd s.testClass = Path.absolute cwd s.mainClass)
    (hmoves : s.moves = []) (hname : HostM.nameable s.mainClass = true) (d₀ : Disk)
    (hts : d₀.find? (Path.absolute cwd (backup s.testSource)) = none)
    (hmc : d₀.find? (Path.absolute cwd (backup s.mainClass)) = none) :
    ⦃fun h => ⌜h.cwd = cwd ∧ h.disk = d₀⌝⦄ s.swap
    ⦃⇓ r h => ⌜h.cwd = cwd ∧ r.1 = false ∧ r.2.moves = [] ∧
      Disk.SameOn (Disk.watched (s.backedUp cwd)) h.disk d₀⌝⦄ := by
  have hnd := hA.nodup
  simp only [backedUp, List.map_cons, List.map_nil, List.nodup_cons, List.mem_cons,
    List.not_mem_nil, not_or, List.nodup_nil, not_false_eq_true, and_true] at hnd
  obtain ⟨⟨h12, -, h14⟩, ⟨-, h24⟩, h34⟩ := hnd
  have hmem : ∀ p ∈ [s.testSource, backup s.testSource, s.mainClass, backup s.mainClass],
      Path.absolute cwd p ∈ s.backedUp cwd := fun p hp => List.mem_map_of_mem hp
  have m₁ := fun c => attempt_move_moved d₀ c s.testSource (backup s.testSource)
    (hmem _ (by simp)) (hmem _ (by simp)) h12
  have m₂ := fun c => attempt_move_moved d₀ c s.mainClass (backup s.mainClass)
    (hmem _ (by simp)) (hmem _ (by simp)) h34
  have m₃ := fun c => attempt_move_absent c s.testClass s.mainClass
    (fun h => h.cwd = cwd ∧ Moved cwd (s.backedUp cwd) d₀ c.moves h.disk)
  have hundo := @undo_spec cwd _ hA d₀
  have free₂ : ∀ d, Moved cwd (s.backedUp cwd) d₀ [(s.testSource, backup s.testSource)] d →
      d.exists? (Path.absolute cwd (backup s.mainClass)) = false := by
    intro d hm
    apply Disk.exists?_eq_false_of_find?
    rw [Moved.find?_of_untouched hA hm (List.mem_append_left _ (hmem _ (by simp))), hmc]
    simpa using ⟨Ne.symm h14, Ne.symm h24⟩
  -- the test class, being the main class, is gone once the main class is backed up
  have gone₃ : ∀ d, Moved cwd (s.backedUp cwd) d₀
      [(s.testSource, backup s.testSource), (s.mainClass, backup s.mainClass)] d →
      d.exists? (Path.absolute cwd s.testClass) = false := by
    rintro d (_ | ⟨-, _ | ⟨hs, _ | _⟩⟩)
    rw [hsame]
    exact Disk.exists?_eq_false_of_find? (hs.find?_src hA)
  mvcgen -trivial [swap, m₁, m₂, m₃, hundo]
  all_goals clear m₁ m₂ m₃ hundo hmem
  all_goals simp +zetaDelta only [hmoves, List.length_nil, List.drop_zero, List.take_zero,
    List.nil_append] at *
  all_goals casesm* _ ∧ _
  all_goals simp_all [Disk.exists?_eq_false_of_find?]

/-- A swap that, from any disk without backups, makes moves among `P` carries any property `R`
of the disk it starts from to the moves it made. -/
theorem swap_carries {s : Substitution} {cwd : String} {P : List String}
    (hs : ∀ d₀, d₀.find? (Path.absolute cwd (backup s.testSource)) = none →
      d₀.find? (Path.absolute cwd (backup s.mainClass)) = none →
      ⦃fun h => ⌜h.cwd = cwd ∧ h.disk = d₀⌝⦄ s.swap
      ⦃⇓ r h => ⌜h.cwd = cwd ∧ ∃ d₁, Moved cwd P d₀ r.2.moves d₁ ∧
        Disk.SameOn (Disk.watched P) h.disk d₁⌝⦄)
    (R : Disk → Prop) :
    ⦃fun h => ⌜h.cwd = cwd ∧ R h.disk ∧
      h.disk.find? (Path.absolute cwd (backup s.testSource)) = none ∧
      h.disk.find? (Path.absolute cwd (backup s.mainClass)) = none⌝⦄ s.swap
    ⦃⇓ r h => ⌜h.cwd = cwd ∧ ∃ d₀ d₁, R d₀ ∧ Moved cwd P d₀ r.2.moves d₁ ∧
      Disk.SameOn (Disk.watched P) h.disk d₁⌝⦄ := by
  rintro h ⟨hc, hR, hts, hmc⟩
  apply HostM.triple_mono (hs h.disk hts hmc) _ h ⟨hc, rfl⟩
  rintro r h' ⟨hc', d₁, hm, hsame⟩
  exact ⟨hc', h.disk, d₁, hR, hm, hsame⟩

theorem swap_spec_of (s : Substitution) {cwd : String} (hA : Disk.Apart (s.paths cwd))
    (hmoves : s.moves = []) (hname : HostM.nameable s.mainClass = true) (R : Disk → Prop) :
    ⦃fun h => ⌜h.cwd = cwd ∧ R h.disk ∧
      h.disk.find? (Path.absolute cwd (backup s.testSource)) = none ∧
      h.disk.find? (Path.absolute cwd (backup s.mainClass)) = none⌝⦄ s.swap
    ⦃⇓ r h => ⌜h.cwd = cwd ∧ ∃ d₀ d₁, R d₀ ∧ Moved cwd (s.paths cwd) d₀ r.2.moves d₁ ∧
      Disk.SameOn (Disk.watched (s.paths cwd)) h.disk d₁⌝⦄ := by
  refine swap_carries (fun d₀ hts hmc => ?_) R
  apply HostM.triple_mono (swap_spec s hA hmoves hname d₀ hts hmc)
  rintro r h ⟨hc, ⟨-, hm⟩ | ⟨-, hnil, hsame⟩⟩
  · exact ⟨hc, h.disk, hm, .refl _ _⟩
  · exact ⟨hc, d₀, hnil ▸ .nil _, hsame⟩

theorem swap_same_output_of (s : Substitution) {cwd : String}
    (hA : Disk.Apart (s.backedUp cwd))
    (hsame : Path.absolute cwd s.testClass = Path.absolute cwd s.mainClass)
    (hmoves : s.moves = []) (hname : HostM.nameable s.mainClass = true) (R : Disk → Prop) :
    ⦃fun h => ⌜h.cwd = cwd ∧ R h.disk ∧
      h.disk.find? (Path.absolute cwd (backup s.testSource)) = none ∧
      h.disk.find? (Path.absolute cwd (backup s.mainClass)) = none⌝⦄ s.swap
    ⦃⇓ r h => ⌜h.cwd = cwd ∧ ∃ d₀ d₁, R d₀ ∧ Moved cwd (s.backedUp cwd) d₀ r.2.moves d₁ ∧
      Disk.SameOn (Disk.watched (s.backedUp cwd)) h.disk d₁⌝⦄ := by
  refine swap_carries (fun d₀ hts hmc => ?_) R
  apply HostM.triple_mono (swap_same_output s hA hsame hmoves hname d₀ hts hmc)
  rintro r h ⟨hc, -, hnil, hsame⟩
  exact ⟨hc, d₀, hnil ▸ .nil _, hsame⟩

end Substitution

end JavaBuild
