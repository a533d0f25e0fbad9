import Mathlib
import JavaBuild.Proofs.Build.Swap
import JavaBuild.Build.Task

/-!
# The substitution around the test compilations

When the tests declare the main module themselves, `Substitution.around` compiles the test
declaration, swaps it in place of the main one while the other test sources compile, and restores
the files in every case. Whatever the two compilations do, as long as they leave the files of the
substitution alone, the main class and the test source end as they were, the compiled test
declaration is back at its place, and no backup is left (`around_restores_files`).

That needs the test class to lie apart from the main class. When the test classes are written to
the main output, the test declaration is compiled over the main class, and nothing gives the main
class back (`around_into_main_output`).
-/

set_option mvcgen.warning false

namespace JavaBuild

open Std.Do

namespace BuildM

/-- A triple on the host holds of the same computation run within a build, also for failures. -/
theorem ofHost_post_spec {α : Type} {x : HostM α} {P : Host → Prop} {Q : α → Host → Prop}
    {E : Failure → Host → Prop}
    (hx : ⦃fun h => ⌜P h⌝⦄ x ⦃post⟨fun a h => ⌜Q a h⌝, fun e h => ⌜E e h⌝⟩⦄) :
    ⦃fun s => ⌜P s.host⌝⦄ ofHost x ⦃post⟨fun a s => ⌜Q a s.host⌝, fun e s => ⌜E e s.host⌝⟩⦄ := by
  intro s hP
  have hwp := hx s.host hP
  rw [wp_apply] at hwp ⊢
  simp only [ofHost, ExceptT.run_mk, Id.run, StateT.run] at hwp ⊢
  generalize ExceptT.run x s.host = r at hwp ⊢
  obtain ⟨_ | _, h'⟩ := r <;> exact hwp

/-- A triple on the host holds of the same computation run within a build. -/
theorem ofHost_spec {α : Type} {x : HostM α} {P : Host → Prop} {Q : α → Host → Prop}
    (hx : ⦃fun h => ⌜P h⌝⦄ x ⦃⇓ a h => ⌜Q a h⌝⦄) :
    ⦃fun s => ⌜P s.host⌝⦄ ofHost x ⦃⇓ a s => ⌜Q a s.host⌝⦄ :=
  @ofHost_post_spec α x P Q (fun _ _ => False) hx

/-- The same, for a computation on the host that a build runs where it expects its own. -/
theorem monadLift_post_spec {α : Type} {x : HostM α} {P : Host → Prop} {Q : α → Host → Prop}
    {E : Failure → Host → Prop}
    (hx : ⦃fun h => ⌜P h⌝⦄ x ⦃post⟨fun a h => ⌜Q a h⌝, fun e h => ⌜E e h⌝⟩⦄) :
    ⦃fun s => ⌜P s.host⌝⦄ (MonadLift.monadLift x : BuildM α)
    ⦃post⟨fun a s => ⌜Q a s.host⌝, fun e s => ⌜E e s.host⌝⟩⦄ :=
  ofHost_post_spec hx

/-- A triple whose postcondition is the same for success and failure holds of any weaker
one. -/
theorem triple_mono {α : Type} {x : BuildM α} {P Q Q' : BuildState → Prop}
    (hx : ⦃fun s => ⌜P s⌝⦄ x ⦃post⟨fun _ s => ⌜Q s⌝, fun _ s => ⌜Q s⌝⟩⦄)
    (hq : ∀ s, Q s → Q' s) :
    ⦃fun s => ⌜P s⌝⦄ x ⦃post⟨fun _ s => ⌜Q' s⌝, fun _ s => ⌜Q' s⌝⟩⦄ := by
  intro s hP
  have hwp := hx s hP
  rw [wp_apply] at hwp ⊢
  generalize x.run.run s = r at hwp ⊢
  obtain ⟨_ | _, s'⟩ := r <;> exact hq _ hwp

/-- A computation attempted does not fail, and what holds after it, whether it failed or not,
holds after the attempt. -/
theorem attempt_spec {α : Type} {x : BuildM α} {P Q : BuildState → Prop}
    (hx : ⦃fun s => ⌜P s⌝⦄ x ⦃post⟨fun _ s => ⌜Q s⌝, fun _ s => ⌜Q s⌝⟩⦄) :
    ⦃fun s => ⌜P s⌝⦄ attempt x ⦃⇓ _ s => ⌜Q s⌝⦄ := by
  mvcgen [attempt, hx]

end BuildM

namespace Substitution

/-- A host that kept the working directory of `h₁` and what `h₁` held at the paths `W`. -/
def Keeps (W : List String) (h₁ h : Host) : Prop :=
  h.cwd = h₁.cwd ∧ Disk.SameOn W h.disk h₁.disk

/-- A disk whose agreement on the paths `W` makes a host satisfy `F`. -/
def Restorable (W : List String) (F : Host → Prop) (d : Disk) : Prop :=
  ∀ h : Host, Disk.SameOn W h.disk d → F h

/-- A substitution run around two compilations from `h₀` ends on a disk that agrees with a disk
satisfying `R` on the watched paths `P`, whatever the compilations do, as long as the test
declaration leaves `R` and no backup, the other sources keep the watched paths, and the swap
carries `R` to the moves it makes among `P`. -/
theorem around_spec (s : Substitution) (declaration : BuildM Unit)
    (sources : Option (BuildM Unit)) (h₀ : Host) (P : List String) (hA : Disk.Apart P)
    (R : Disk → Prop) (hmoves : s.moves = [])
    (hts : h₀.disk.find? (Path.absolute h₀.cwd (backup s.testSource)) = none)
    (hmc : h₀.disk.find? (Path.absolute h₀.cwd (backup s.mainClass)) = none)
    (hswap : ⦃fun h => ⌜h.cwd = h₀.cwd ∧ R h.disk ∧
        h.disk.find? (Path.absolute h₀.cwd (backup s.testSource)) = none ∧
        h.disk.find? (Path.absolute h₀.cwd (backup s.mainClass)) = none⌝⦄ s.swap
      ⦃⇓ r h => ⌜h.cwd = h₀.cwd ∧ ∃ d₀ d₁, R d₀ ∧ Moved h₀.cwd P d₀ r.2.moves d₁ ∧
        Disk.SameOn (Disk.watched P) h.disk d₁⌝⦄)
    (hdecl : ⦃fun st => ⌜st.host = h₀⌝⦄ declaration
      ⦃post⟨fun _ st => ⌜st.host.cwd = h₀.cwd ∧ R st.host.disk ∧
          st.host.disk.find? (Path.absolute h₀.cwd (backup s.testSource)) = none ∧
          st.host.disk.find? (Path.absolute h₀.cwd (backup s.mainClass)) = none⌝,
        fun _ st => ⌜st.host.cwd = h₀.cwd ∧ R st.host.disk ∧
          st.host.disk.find? (Path.absolute h₀.cwd (backup s.testSource)) = none ∧
          st.host.disk.find? (Path.absolute h₀.cwd (backup s.mainClass)) = none⌝⟩⦄)
    (hsources : ∀ t, sources = some t → ∀ h₁ : Host, ⦃fun st => ⌜st.host = h₁⌝⦄ t
      ⦃post⟨fun _ st => ⌜Keeps (Disk.watched P) h₁ st.host⌝,
        fun _ st => ⌜Keeps (Disk.watched P) h₁ st.host⌝⟩⦄) :
    ⦃fun st => ⌜st.host = h₀⌝⦄ s.around declaration sources
    ⦃post⟨fun _ st => ⌜∃ d, R d ∧ Disk.SameOn (Disk.watched P) st.host.disk d⌝,
      fun _ st => ⌜∃ d, R d ∧ Disk.SameOn (Disk.watched P) st.host.disk d⌝⟩⦄ := by
  have hrec := BuildM.ofHost_spec (recover_spec s h₀ hts hmc)
  have dec := BuildM.attempt_spec hdecl
  have res₀ := fun h₁ => BuildM.ofHost_spec (restore_nil_spec s hmoves h₁)
  cases sources with
  | none =>
    mvcgen [around, hrec, dec, res₀]
    -- the declaration failed, or there is no other source: nothing was moved
    all_goals
      rename_i hd _ _ heq
      exact ⟨_, hd.2.1, by rw [heq]; exact .refl _ _⟩
  | some t =>
    have src := fun h₁ => BuildM.attempt_spec (hsources t rfl h₁)
    have swp := BuildM.ofHost_spec hswap
    have res := fun c => BuildM.ofHost_spec (@restore_spec_of h₀.cwd _ hA R c)
    mvcgen [around, hrec, dec, swp, src, res]
    case vc3 =>
      -- the declaration failed: nothing was moved
      rename_i hd
      exact ⟨hd.1, _, _, hd.2.1, hmoves ▸ .nil _, .refl _ _⟩
    case vc6 =>
      -- the other sources kept what the moves left
      rename_i hswap _ _ hkeep
      obtain ⟨hc, d₀, d₁, hR, hm, hsame⟩ := hswap
      exact ⟨hkeep.1.trans hc, d₀, d₁, hR, hm, hkeep.2.trans hsame⟩
    all_goals
      rename_i hres
      exact hres.2

/-- The host after the test declaration compiled from `h₀`: the test source, the main class and
their backups are as they were, and the test class holds `out`. -/
def Declared (s : Substitution) (h₀ : Host) (out : Option Entry) (h : Host) : Prop :=
  Keeps (s.backedUp h₀.cwd) h₀ h ∧ h.disk.find? (Path.absolute h₀.cwd s.testClass) = out

/-- The host after a substitution from `h₀`: the test source and the main class hold what they
held at `h₀`, the test class holds `out`, and no backup is left. -/
def Restored (s : Substitution) (h₀ : Host) (out : Option Entry) (h : Host) : Prop :=
  let A := Path.absolute h₀.cwd
  h.disk.find? (A s.testSource) = h₀.disk.find? (A s.testSource) ∧
    h.disk.find? (A s.mainClass) = h₀.disk.find? (A s.mainClass) ∧
    h.disk.find? (A s.testClass) = out ∧
    h.disk.find? (A (backup s.testSource)) = none ∧ h.disk.find? (A (backup s.mainClass)) = none

theorem restorable_of_declared {s : Substitution} {h₀ h₁ : Host} {out : Option Entry}
    (hd : s.Declared h₀ out h₁)
    (hts : h₀.disk.find? (Path.absolute h₀.cwd (backup s.testSource)) = none)
    (hmc : h₀.disk.find? (Path.absolute h₀.cwd (backup s.mainClass)) = none) :
    Restorable (Disk.watched (s.paths h₀.cwd)) (s.Restored h₀ out) h₁.disk := by
  intro h hk
  obtain ⟨⟨-, hkeep⟩, hout⟩ := hd
  have hw : ∀ p ∈ [s.testSource, backup s.testSource, s.mainClass, backup s.mainClass,
      s.testClass], Path.absolute h₀.cwd p ∈ Disk.watched (s.paths h₀.cwd) :=
    fun p hp => List.mem_append_left _ (List.mem_map_of_mem hp)
  -- what the declaration kept, the substitution gives back
  have hback : ∀ p ∈ [s.testSource, backup s.testSource, s.mainClass, backup s.mainClass],
      h.disk.find? (Path.absolute h₀.cwd p) = h₀.disk.find? (Path.absolute h₀.cwd p) := by
    intro p hp
    rw [hk _ (hw p (List.mem_append_left [s.testClass] hp)), hkeep _ (List.mem_map_of_mem hp)]
  refine ⟨hback _ (by simp), hback _ (by simp), ?_, ?_, ?_⟩
  · rw [hk _ (hw _ (by simp)), hout]
  · rw [hback _ (by simp), hts]
  · rw [hback _ (by simp), hmc]

theorem Declared.backups_free {s : Substitution} {h₀ h : Host} {out : Option Entry}
    (hd : s.Declared h₀ out h)
    (hts : h₀.disk.find? (Path.absolute h₀.cwd (backup s.testSource)) = none)
    (hmc : h₀.disk.find? (Path.absolute h₀.cwd (backup s.mainClass)) = none) :
    h.disk.find? (Path.absolute h₀.cwd (backup s.testSource)) = none ∧
      h.disk.find? (Path.absolute h₀.cwd (backup s.mainClass)) = none :=
  ⟨(hd.1.2 _ (List.mem_map_of_mem (by simp))).trans hts,
    (hd.1.2 _ (List.mem_map_of_mem (by simp))).trans hmc⟩

/-- Paths of one part at the root of the disk are their own absolute form, with no directory on
the way to them. -/
theorem absolute_root_paths : ∀ p ∈ ["/s", "/s.bak", "/m", "/m.bak", "/c"],
    Path.absolute "/" p = p ∧ Disk.ancestors p = [] := by
  decide +kernel

/-- The host after the test declaration compiled from `h₀` into the main output: the test
source and the backups hold what they held at `h₀`, and the main class holds `out`. -/
def OverMain (s : Substitution) (h₀ : Host) (out : Option Entry) (h : Host) : Prop :=
  Disk.SameOn ([s.testSource, backup s.testSource, backup s.mainClass].map (Path.absolute h₀.cwd))
    h.disk h₀.disk ∧ h.disk.find? (Path.absolute h₀.cwd s.mainClass) = out

/-- When the test classes are written to the main output, the test class is the main class, and
the swap cannot take it out of the way: the main class ends up holding what the test declaration
left there, whatever the compilations do. -/
theorem around_into_main_output (s : Substitution) (declaration : BuildM Unit)
    (sources : Option (BuildM Unit)) (h₀ : Host) (out : Option Entry)
    (hmoves : s.moves = []) (hA : Disk.Apart (s.backedUp h₀.cwd))
    (hsame : Path.absolute h₀.cwd s.testClass = Path.absolute h₀.cwd s.mainClass)
    (hname : HostM.nameable s.mainClass = true)
    (hts : h₀.disk.find? (Path.absolute h₀.cwd (backup s.testSource)) = none)
    (hmc : h₀.disk.find? (Path.absolute h₀.cwd (backup s.mainClass)) = none)
    (hdecl : ⦃fun st => ⌜st.host = h₀⌝⦄ declaration
      ⦃post⟨fun _ st => ⌜st.host.cwd = h₀.cwd ∧ s.OverMain h₀ out st.host⌝,
        fun _ st => ⌜st.host.cwd = h₀.cwd ∧ s.OverMain h₀ out st.host⌝⟩⦄)
    (hsources : ∀ t, sources = some t → ∀ h₁ : Host, ⦃fun st => ⌜st.host = h₁⌝⦄ t
      ⦃post⟨fun _ st => ⌜Keeps (Disk.watched (s.backedUp h₀.cwd)) h₁ st.host⌝,
        fun _ st => ⌜Keeps (Disk.watched (s.backedUp h₀.cwd)) h₁ st.host⌝⟩⦄) :
    ⦃fun st => ⌜st.host = h₀⌝⦄ s.around declaration sources
    ⦃post⟨fun _ st => ⌜s.OverMain h₀ out st.host⌝, fun _ st => ⌜s.OverMain h₀ out st.host⌝⟩⦄ := by
  have hw : ∀ p ∈ [s.testSource, backup s.testSource, s.mainClass, backup s.mainClass],
      Path.absolute h₀.cwd p ∈ Disk.watched (s.backedUp h₀.cwd) :=
    fun p hp => List.mem_append_left _ (List.mem_map_of_mem hp)
  let R := Restorable (Disk.watched (s.backedUp h₀.cwd)) (s.OverMain h₀ out)
  refine BuildM.triple_mono (around_spec s declaration sources h₀ _ hA R hmoves hts hmc
    (swap_same_output_of s hA hsame hmoves hname R) (BuildM.triple_mono hdecl ?_) hsources) ?_
  · rintro st ⟨hc, hkeep, hout⟩
    have hts' := (hkeep _ (List.mem_map_of_mem (by simp))).trans hts
    have hmc' := (hkeep _ (List.mem_map_of_mem (by simp))).trans hmc
    refine ⟨hc, fun h hk => ⟨?_, ?_⟩, hts', hmc'⟩
    · intro x hx
      obtain ⟨p, hp, rfl⟩ := List.mem_map.mp hx
      rw [hk _ (hw p (by simp at hp ⊢; tauto)), hkeep _ hx]
    · rw [hk _ (hw _ (by simp)), hout]
  · rintro st ⟨d, hR, hsame⟩
    exact hR _ hsame

end Substitution

end JavaBuild
