import JavaBuild.Dependency
import JavaBuild.Proofs.Host

/-!
# Dependencies whose modules are known

The module of a dependency is the one the resolver gives, or else the one read from its artifact
the first time it is asked for, remembered by path (`Resolution.descriptor`). When the module of a
dependency is given, or its artifact was read before (`Resolution.Knows`), asking for it reads
nothing on the host: the answers are `Resolution.knownDescriptor` and `Resolution.knownName`
(`Resolution.descriptor_spec`, `Resolution.moduleName_spec`). The resolution learns at most that
an artifact is in the unnamed module (`Resolution.Extends`), which changes no later answer
(`Resolution.Extends.knownName_eq`).

A computation that resolves dependencies (`ResolveM`) keeps the resolution and the host as its
state; its triples are read back on runs as those on the host are.
-/

set_option mvcgen.warning false

namespace JavaBuild

open Std.Do

namespace ResolveM

/-- The weakest precondition of a computation at a resolution and a host is its postcondition at
the outcome of the run from them. -/
theorem wp_apply {α : Type} (x : ResolveM α)
    (Q : PostCond α (.arg Resolution (.except Failure (.arg Host .pure)))) (s : Resolution)
    (h : Host) :
    wp⟦x⟧ Q s h = match (x.run s).run.run h with
      | (.ok (a, s'), h') => Q.1 a s' h'
      | (.error e, h') => Q.2.1 e h' := by
  simp only [WP.wp, PredTrans.apply, PredTrans.pushExcept, PredTrans.pushArg, StateT.run,
    Pure.pure, PredTrans.pure]
  rcases ExceptT.run (x s) h with ⟨_ | ⟨_, _⟩, _⟩ <;> rfl

/-- A triple read back on a run that returns. -/
theorem ok_of_triple {α : Type} {x : ResolveM α}
    {P : Assertion (.arg Resolution (.except Failure (.arg Host .pure)))}
    {Q : PostCond α (.arg Resolution (.except Failure (.arg Host .pure)))} (hx : ⦃P⦄ x ⦃Q⦄)
    {s s' : Resolution} {h h' : Host} {a : α} (hP : (P s h).down)
    (hr : (x.run s).run.run h = (.ok (a, s'), h')) : (Q.1 a s' h').down := by
  have hwp := hx s h hP
  rw [wp_apply, hr] at hwp
  exact hwp

/-- A triple read back on a run that fails. -/
theorem error_of_triple {α : Type} {x : ResolveM α}
    {P : Assertion (.arg Resolution (.except Failure (.arg Host .pure)))}
    {Q : PostCond α (.arg Resolution (.except Failure (.arg Host .pure)))} (hx : ⦃P⦄ x ⦃Q⦄)
    {s : Resolution} {h h' : Host} {e : Failure} (hP : (P s h).down)
    (hr : (x.run s).run.run h = (.error e, h')) : (Q.2.1 e h').down := by
  have hwp := hx s h hP
  rw [wp_apply, hr] at hwp
  exact hwp

end ResolveM

namespace Resolution

/-- The module of a dependency as far as it is known without reading its artifact: the one given,
else the one read before, else none. -/
def knownDescriptor (s : Resolution) (d : Dependency) : Option Descriptor :=
  d.descriptor.or ((s.read.lookup d.path).getD none)

/-- The module name of a dependency as far as it is known without reading its artifact. -/
def knownName (s : Resolution) (d : Dependency) : Option String :=
  d.moduleName.or ((s.knownDescriptor d).map (·.name))

/-- Whether the module of a dependency is known without reading its artifact: its name or its
descriptor is given, or its artifact was read before. -/
def Knows (s : Resolution) (d : Dependency) : Prop :=
  d.moduleName.isSome ∨ d.descriptor.isSome ∨ (s.read.lookup d.path).isSome

instance (s : Resolution) (d : Dependency) : Decidable (s.Knows d) :=
  inferInstanceAs (Decidable (_ ∨ _ ∨ _))

/-- A resolution that has learnt since `r` only that some artifacts are in the unnamed module. -/
def Extends (s r : Resolution) : Prop :=
  ∃ extra : List (String × Option Descriptor), s.read = r.read ++ extra ∧ ∀ q ∈ extra, q.2 = none

namespace Extends

variable {s r : Resolution}

@[simp] theorem refl (s : Resolution) : s.Extends s := ⟨[], by simp, by simp⟩

theorem trans {t : Resolution} (hts : t.Extends s) (hs : s.Extends r) : t.Extends r := by
  obtain ⟨e₁, h₁, n₁⟩ := hts
  obtain ⟨e₂, h₂, n₂⟩ := hs
  refine ⟨e₂ ++ e₁, by rw [h₁, h₂, List.append_assoc], fun q hq => ?_⟩
  rcases List.mem_append.mp hq with hq | hq
  · exact n₂ q hq
  · exact n₁ q hq

theorem append_none (hs : s.Extends r) (p : String) :
    ({ s with read := s.read ++ [(p, none)] } : Resolution).Extends r := by
  obtain ⟨extra, hread, hnone⟩ := hs
  refine ⟨extra ++ [(p, none)], by simp [hread], fun q hq => ?_⟩
  rcases List.mem_append.mp hq with hq | hq
  · exact hnone q hq
  · simp_all

theorem lookup_getD (hs : s.Extends r) (p : String) :
    (s.read.lookup p).getD none = (r.read.lookup p).getD none := by
  obtain ⟨extra, hread, hnone⟩ := hs
  rw [hread, List.lookup_append]
  cases hr : r.read.lookup p with
  | some _ => rfl
  | none =>
    cases he : extra.lookup p with
    | none => rfl
    | some x =>
      -- an entry learnt since is of an artifact in the unnamed module
      obtain ⟨L1, L2, hsplit, -⟩ := List.lookup_eq_some_iff.mp he
      have hx : x = none := hnone (p, x) (by simp [hsplit])
      simp [hx]

theorem lookup_of_isSome (hs : s.Extends r) {p : String} (hp : (r.read.lookup p).isSome) :
    s.read.lookup p = r.read.lookup p := by
  obtain ⟨extra, hread, -⟩ := hs
  rw [hread, List.lookup_append]
  cases hr : r.read.lookup p with
  | some _ => rfl
  | none => simp [hr] at hp

theorem knownDescriptor_eq (hs : s.Extends r) (d : Dependency) :
    s.knownDescriptor d = r.knownDescriptor d := by
  simp only [knownDescriptor, hs.lookup_getD]

theorem knownName_eq (hs : s.Extends r) (d : Dependency) : s.knownName d = r.knownName d := by
  simp only [knownName, hs.knownDescriptor_eq]

theorem knows (hs : s.Extends r) {d : Dependency} (hd : r.Knows d) : s.Knows d := by
  rcases hd with hd | hd | hd
  · exact .inl hd
  · exact .inr (.inl hd)
  · exact .inr (.inr (by rw [hs.lookup_of_isSome hd]; exact hd))

end Extends

/-- The module of a dependency whose module is known is read without the host; the resolution
learns at most that its artifact is in the unnamed module. -/
theorem descriptor_spec (d : Dependency) (r₀ : Resolution) (h₀ : Host) (hd : r₀.Knows d) :
    ⦃fun s h => ⌜s = r₀ ∧ h = h₀⌝⦄ descriptor d
    ⦃⇓ x s h => ⌜x = r₀.knownDescriptor d ∧ s.Extends r₀ ∧ h = h₀⌝⦄ := by
  mvcgen [descriptor]
  -- a given descriptor
  case vc1 =>
    rename_i desc hdesc _ _ hpre
    obtain ⟨rfl, rfl⟩ := hpre
    exact ⟨by simp [knownDescriptor, hdesc], Extends.refl _, rfl⟩
  -- an artifact read before
  case vc2 =>
    rename_i dd hnot hdd _ _ hpre known hlook
    obtain ⟨rfl, rfl⟩ := hpre
    have hnone : d.descriptor = none := hdd.trans (Option.eq_none_iff_forall_ne_some.mpr hnot)
    exact ⟨by simp [knownDescriptor, hnone, hlook], Extends.refl _, rfl⟩
  -- an artifact to read: its module would be known
  case vc3 =>
    rename_i dd hnot hdd _ _ hpre hlook _ hname
    obtain ⟨rfl, rfl⟩ := hpre
    have hnone : d.descriptor = none := hdd.trans (Option.eq_none_iff_forall_ne_some.mpr hnot)
    exfalso
    rcases hd with hd | hd | hd
    · simp_all
    · simp [hnone] at hd
    · simp [hlook] at hd
  -- a module name without descriptor: the artifact is taken as unnamed
  case vc4 =>
    rename_i dd hnot hdd _ _ hpre hlook _ hname _
    obtain ⟨rfl, rfl⟩ := hpre
    have hnone : d.descriptor = none := hdd.trans (Option.eq_none_iff_forall_ne_some.mpr hnot)
    exact ⟨by simp [knownDescriptor, hnone, hlook], (Extends.refl _).append_none d.path, rfl⟩

/-- The module name of a dependency whose module is known is found without the host. -/
theorem moduleName_spec (d : Dependency) (r₀ : Resolution) (h₀ : Host) (hd : r₀.Knows d) :
    ⦃fun s h => ⌜s = r₀ ∧ h = h₀⌝⦄ moduleName d
    ⦃⇓ n s h => ⌜n = r₀.knownName d ∧ s.Extends r₀ ∧ h = h₀⌝⦄ := by
  mvcgen [moduleName, descriptor_spec]
  case vc1 =>
    rename_i n hn _ _ hpre
    obtain ⟨rfl, rfl⟩ := hpre
    exact ⟨by simp [knownName, hn], Extends.refl _, rfl⟩
  case vc2 =>
    rename_i _ _ _ _ _ hpre
    exact hpre.1 ▸ hd
  case vc3 =>
    rename_i mm hnot hmm _ _ hpre _ _ _ hpost
    obtain ⟨rfl, rfl⟩ := hpre
    obtain ⟨rfl, hext, rfl⟩ := hpost
    have hnone : d.moduleName = none := hmm.trans (Option.eq_none_iff_forall_ne_some.mpr hnot)
    exact ⟨by simp [knownName, hnone], hext, rfl⟩

end Resolution

end JavaBuild
