import Mathlib
import JavaBuild.Proofs.Change.Decide

/-!
# Nothing to compile against a record of the current state

When nothing changed since a record was made, the change tracker has nothing to compile. A
record describes the current state of a host when it holds the format `1`, the fingerprint of
the options, the dependencies sorted, the statuses of the current sources (in any order), and
output files that the host still holds with their recorded sizes and times; the sources are on
the host with their recorded times (`Record.Describes`). With a tolerance of milliseconds that
binary64 holds, no source counts as modified (`modified_of_holds`, `sourceChanges_of_holds`) and
every output directory is intact (`outputIntact_of_held`), and each check leaves the host as it
was; so a tracker without the aspects `none` and `classes` has nothing to compile
(`decide_noOp_of_describes`).

Every time is compared with itself, and a value compared with itself differs by zero, or by NaN
for an infinity, so no tolerance that is not negative is exceeded (`Binary64.lt_abs_sub_self`).
-/

set_option mvcgen.warning false

namespace JavaBuild

open Std.Do

namespace Binary64

/-- A value that is neither negative nor NaN. -/
def NonNeg : Binary64 → Prop
  | .finite v _ => 0 ≤ v
  | .infinity n => n = false
  | .nan => False

theorem NonNeg.not_lt_zero {x : Binary64} (hx : x.NonNeg) : x.lt (.finite 0 false) = false := by
  cases x with
  | finite v z => simpa [lt, NonNeg] using hx
  | infinity n => simp_all [lt, NonNeg]
  | nan => exact hx.elim

theorem scaled_nonneg (m : Nat) (e : Int) : 0 ≤ scaled m e := by
  unfold scaled
  split <;> positivity

/-- A rational that is not negative rounds to a value that is not negative. -/
theorem round_nonneg {q : Rat} (hq : 0 ≤ q) : (round q).NonNeg := by
  unfold round
  split
  · simp [NonNeg]
  · have hneg : decide (q < 0) = false := decide_eq_false (not_lt.mpr hq)
    simp only [hneg]
    split
    · simp [NonNeg]
    · split <;> simp [NonNeg, scaled_nonneg]

/-- A value compared with itself exceeds no tolerance that is not negative: a finite value
differs from itself by zero, an infinity or NaN by NaN, which is in no order. -/
theorem lt_abs_sub_self {tol : Binary64} (htol : tol.NonNeg) (x : Binary64) :
    tol.lt (abs (sub x x)) = false := by
  cases x with
  | finite v z => simpa [sub, abs] using htol.not_lt_zero
  | infinity n => cases tol <;> simp [sub, abs, lt]
  | nan => cases tol <;> simp [sub, abs, lt]

end Binary64

/-- The host holds, at the path `p` as given, a file of `size` bytes modified at `time`
seconds. -/
def Host.HoldsFile (h : Host) (p : String) (size : Nat) (time : Binary64) : Prop :=
  HostM.nameable p = true ∧ ∃ data ns x,
    h.disk.lookup (Path.absolute h.cwd p) = .ok (.file data ns x) ∧ data.size = size ∧
      HostM.secondsOfNanos ns = time

namespace HostM

theorem stat_of_lookup {p : String} {e : Entry} (h₀ : Host) (hn : nameable p = true)
    (hl : h₀.disk.lookup (Path.absolute h₀.cwd p) = .ok e) :
    ⦃fun h => ⌜h = h₀⌝⦄ stat p ⦃⇓ r h => ⌜h = h₀ ∧ r = e⌝⦄ := by
  simp only [nameable, Bool.and_eq_true, Bool.not_eq_true', String.isEmpty_eq_false_iff,
    Option.isNone_iff_eq_none] at hn
  mvcgen [stat, onDisk, checkWritable]
  all_goals simp_all

theorem mtime_of_lookup {p : String} {data : ByteArray} {ns : Int} {x : Bool} (h₀ : Host)
    (hn : nameable p = true)
    (hl : h₀.disk.lookup (Path.absolute h₀.cwd p) = .ok (.file data ns x)) :
    ⦃fun h => ⌜h = h₀⌝⦄ mtime p ⦃⇓ r h => ⌜h = h₀ ∧ r = secondsOfNanos ns⌝⦄ := by
  have hstat := stat_of_lookup h₀ hn hl
  mvcgen [mtime, mtimeNanos, hstat]
  all_goals simp_all

end HostM

namespace Change

/-- The tolerance of a tracker's time comparisons: the value its milliseconds give, which is not
negative. -/
structure Tracker.Tolerates (t : Tracker) (tol : Binary64) : Prop where
  ok : timeTolerance t.staleMillis = .ok tol
  nonneg : tol.NonNeg

/-- Milliseconds that are not negative and that binary64 holds give a tolerance. -/
theorem Tracker.tolerates_of_range (t : Tracker) (hms : 0 ≤ t.staleMillis)
    (hrange : t.staleMillis < Stored.overflowBound) : ∃ tol, t.Tolerates tol := by
  have hok : Stored.intToFloat t.staleMillis = .ok (Binary64.ofInt t.staleMillis) := by
    unfold Stored.intToFloat
    rw [if_neg]
    omega
  have hround := Binary64.round_nonneg (q := (t.staleMillis : Rat)) (by exact_mod_cast hms)
  suffices h : ∃ tol, timeTolerance t.staleMillis = .ok tol ∧ tol.NonNeg by
    obtain ⟨tol, hval, hnn⟩ := h
    exact ⟨tol, hval, hnn⟩
  unfold timeTolerance
  simp only [hok, bind, Except.bind, Binary64.ofInt]
  revert hround
  generalize Binary64.round (t.staleMillis : Rat) = x
  intro hx
  cases x with
  | finite v z => exact ⟨_, rfl, Binary64.round_nonneg (div_nonneg hx (by norm_num))⟩
  | infinity n => exact ⟨_, rfl, hx⟩
  | nan => exact hx.elim

theorem timestamp?_of_holds {p : String} {size : Nat} {time : Binary64} (h₀ : Host)
    (hp : h₀.HoldsFile p size time) :
    ⦃fun h => ⌜h = h₀⌝⦄ timestamp? p ⦃⇓ r h => ⌜h = h₀ ∧ r = some time⌝⦄ := by
  obtain ⟨hn, data, ns, x, hl, -, htime⟩ := hp
  have hex := HostM.pathExists_spec p h₀
  have hm := HostM.mtime_of_lookup h₀ hn hl
  unfold timestamp?
  mvcgen [hex, hm]
  all_goals clear hex hm
  all_goals simp_all [Disk.exists?, Except.toBool]

theorem tolerance_of_tolerates {t : Tracker} {tol : Binary64} (htol : t.Tolerates tol)
    (h₀ : Host) :
    ⦃fun h => ⌜h = h₀⌝⦄ t.tolerance ⦃⇓ r h => ⌜h = h₀ ∧ r = tol⌝⦄ := by
  intro h hh
  rw [wp_apply]
  unfold Tracker.tolerance toleranceOf
  rw [htol.ok]
  exact ⟨hh, rfl⟩

/-- A source compared with its own status has not been modified, as long as the host holds it
with its recorded time. -/
theorem modified_of_holds {t : Tracker} {tol : Binary64} (htol : t.Tolerates tol) {p : String}
    {st : FileStatus} {size : Nat} (h₀ : Host) (hp : h₀.HoldsFile p size st.mtime) :
    ⦃fun h => ⌜h = h₀⌝⦄ t.modified p st st ⦃⇓ r h => ⌜h = h₀ ∧ r = false⌝⦄ := by
  -- the tolerance is given in full: elaborating the triple of `t.tolerance` with its arguments
  -- left to unification evaluates the tolerance
  have htl := @tolerance_of_tolerates t tol htol h₀
  have hts := timestamp?_of_holds h₀ hp
  unfold Tracker.modified
  mvcgen [htl, hts, -Tracker.tolerance_spec, -timestamp?_spec]
  all_goals simp_all [Binary64.lt_abs_sub_self htol.nonneg]

/-! ## The sources -/

/-- Sources compared with a record that holds each of them with its status, on a host that holds
each with its recorded time: none has changed and none is added. -/
theorem sourceChanges_of_holds {t : Tracker} {tol : Binary64} (htol : t.Tolerates tol)
    (prev : Record) (h₀ : Host) (changed added : List String) (cs : List (String × FileStatus))
    (hrec : ∀ q ∈ cs, prev.files.lookup q.1 = some q.2)
    (hheld : ∀ q ∈ cs, ∃ size, h₀.HoldsFile q.1 size q.2.mtime) :
    ⦃fun h => ⌜h = h₀⌝⦄ t.sourceChanges prev changed added cs
    ⦃⇓ r h => ⌜h = h₀ ∧ r = (changed, added)⌝⦄ := by
  induction cs with
  | nil =>
    unfold Tracker.sourceChanges
    mvcgen
  | cons q rest ih =>
    obtain ⟨p, st⟩ := q
    obtain ⟨size, hp⟩ := hheld (p, st) List.mem_cons_self
    have hmod := modified_of_holds htol h₀ hp
    have hrest := ih (fun q hq => hrec q (List.mem_cons_of_mem _ hq))
      (fun q hq => hheld q (List.mem_cons_of_mem _ hq))
    unfold Tracker.sourceChanges
    rw [hrec (p, st) List.mem_cons_self]
    mvcgen [hmod, hrest, -Tracker.modified_spec]
    all_goals simp_all

/-! ## The output directories -/

/-- A file of an output directory that the host holds with its recorded size and time is
intact. -/
theorem entryIntact_of_holds {tol : Binary64} (hnn : tol.NonNeg) (h₀ : Host) {d rel : String}
    {size : Nat} {time : Binary64} (hheld : h₀.HoldsFile (Path.join d rel) size time) :
    ⦃fun h => ⌜h = h₀⌝⦄ entryIntact tol d rel [.int size, .float time]
    ⦃⇓ r h => ⌜h = h₀ ∧ r = true⌝⦄ := by
  obtain ⟨hn, data, ns, x, hl, hsize, htime⟩ := hheld
  have hstat := HostM.stat_of_lookup h₀ hn hl
  have hm := HostM.mtime_of_lookup h₀ hn hl
  unfold entryIntact
  dsimp only
  mvcgen [hstat, hm]
  all_goals clear hstat hm
  all_goals simp_all [sameSize, Stored.numberValue?, Binary64.lt_abs_sub_self hnn]

/-- Stored sizes and times of the files of a directory, all held by the host. -/
def HeldEntries (h : Host) (d : String) (entries : List (String × List Json)) : Prop :=
  ∀ e ∈ entries, ∃ (size : Nat) (time : Binary64), e.2 = [.int size, .float time] ∧
    h.HoldsFile (Path.join d e.1) size time

theorem entriesIntact_of_held {tol : Binary64} (hnn : tol.NonNeg) (h₀ : Host) (d : String)
    (entries : List (String × List Json)) (hheld : HeldEntries h₀ d entries) :
    ⦃fun h => ⌜h = h₀⌝⦄ entriesIntact tol d entries ⦃⇓ r h => ⌜h = h₀ ∧ r = true⌝⦄ := by
  induction entries with
  | nil =>
    unfold entriesIntact
    mvcgen
  | cons e rest ih =>
    obtain ⟨rel, v⟩ := e
    obtain ⟨size, time, rfl, he⟩ := hheld (rel, _) List.mem_cons_self
    have hentry := entryIntact_of_holds hnn h₀ he
    have hrest := ih fun e he => hheld e (List.mem_cons_of_mem _ he)
    unfold entriesIntact
    mvcgen [hentry, hrest]
    all_goals simp_all

theorem outputsIntact_of_held {tol : Binary64} (hnn : tol.NonNeg) (h₀ : Host)
    (outputs : List (String × List (String × List Json)))
    (hheld : ∀ o ∈ outputs, HeldEntries h₀ o.1 o.2) :
    ⦃fun h => ⌜h = h₀⌝⦄ outputsIntact tol outputs ⦃⇓ r h => ⌜h = h₀ ∧ r = true⌝⦄ := by
  induction outputs with
  | nil =>
    unfold outputsIntact
    mvcgen
  | cons o rest ih =>
    obtain ⟨d, entries⟩ := o
    have hdir := entriesIntact_of_held hnn h₀ d entries (hheld (d, entries) List.mem_cons_self)
    have hrest := ih fun o ho => hheld o (List.mem_cons_of_mem _ ho)
    unfold outputsIntact
    mvcgen [hdir, hrest]
    all_goals simp_all

/-- The output directories of a record are intact on a host that holds every file it recorded
with its size and time. -/
theorem outputIntact_of_held {t : Tracker} {tol : Binary64} (htol : t.Tolerates tol)
    (r : Record) (h₀ : Host) (hheld : ∀ o ∈ r.outputs, HeldEntries h₀ o.1 o.2) :
    ⦃fun h => ⌜h = h₀⌝⦄ r.outputIntact t.staleMillis ⦃⇓ b h => ⌜h = h₀ ∧ b = true⌝⦄ := by
  have htl : ⦃fun h => ⌜h = h₀⌝⦄ toleranceOf t.staleMillis ⦃⇓ r h => ⌜h = h₀ ∧ r = tol⌝⦄ :=
    @tolerance_of_tolerates t tol htol h₀
  have hout := outputsIntact_of_held htol.nonneg h₀ r.outputs hheld
  unfold Record.outputIntact
  mvcgen [htl, hout]
  simp_all
  intro
  exact hout _ rfl

/-! ## The decision -/

/-- A record that describes the current state of a host: format `1`, the fingerprint of the
options, the dependencies sorted, every current source with its status and no other, the sources
held by the host with their recorded times, and every recorded output file held with its size
and time. -/
structure Record.Describes (r : Record) (h : Host) (current : List (String × FileStatus))
    (fingerprint : String) (dependencies : List String) : Prop where
  format : Stored.isOne r.format = true
  options : r.options = .str fingerprint
  dependencies : Stored.texts? r.dependencies = some (sortTexts dependencies)
  recorded : ∀ q ∈ current, r.files.lookup q.1 = some q.2
  complete : ∀ p ∈ r.files, current.any (·.1 == p.1) = true
  sources : ∀ q ∈ current, ∃ size, h.HoldsFile q.1 size q.2.mtime
  outputs : ∀ o ∈ r.outputs, HeldEntries h o.1 o.2

namespace Record.Describes

variable {r : Record} {h₀ : Host} {current : List (String × FileStatus)} {fingerprint : String}
  {dependencies : List String}

/-- No recorded source is gone. -/
theorem removedSources_eq_nil (hd : r.Describes h₀ current fingerprint dependencies) :
    Tracker.removedSources r current = [] := by
  have hnone : (r.files.map (·.1)).filter (fun p => !(current.any (·.1 == p))) = [] := by
    rw [List.filter_eq_nil_iff]
    intro p hp
    obtain ⟨q, hq, rfl⟩ := List.mem_map.mp hp
    simp [hd.complete q hq]
  simp [Tracker.removedSources, hnone, sortTexts]

end Record.Describes

namespace Tracker

variable {t : Tracker} {tol : Binary64} {prev : Record} {h₀ : Host}
  {current : List (String × FileStatus)} {fingerprint : String} {dependencies : List String}

/-- With nothing touched, the dependencies of the record and its outputs held, nothing is
compiled. -/
theorem conclude_noOp_of_describes (htol : t.Tolerates tol)
    (hd : prev.Describes h₀ current fingerprint dependencies) :
    ⦃fun h => ⌜h = h₀⌝⦄ t.conclude current prev dependencies [] [] []
    ⦃⇓ d h => ⌜h = h₀ ∧ d = Decision.noOp⌝⦄ := by
  have hout := @outputIntact_of_held t tol htol prev h₀ hd.outputs
  clear htol
  unfold conclude
  mvcgen [hout, -Record.outputIntact_spec]
  all_goals simp_all [hd.dependencies]

/-- Against a record that describes the current state of the host, a tracker without the aspects
`none` and `classes`, with a tolerance of milliseconds that binary64 holds, has nothing to
compile and leaves the host as it was. -/
theorem decide_noOp_of_describes (hms : 0 ≤ t.staleMillis)
    (hrange : t.staleMillis < Stored.overflowBound) (hnone : Aspect.none ∉ t.aspects)
    (hclasses : Aspect.classes ∉ t.aspects)
    (hd : prev.Describes h₀ current fingerprint dependencies) :
    ⦃fun h => ⌜h = h₀⌝⦄ t.decide current (some prev) fingerprint dependencies
    ⦃⇓ d h => ⌜h = h₀ ∧ d = Decision.noOp⌝⦄ := by
  obtain ⟨tol, htol⟩ := t.tolerates_of_range hms hrange
  have hsrc := sourceChanges_of_holds htol prev h₀ [] [] current hd.recorded hd.sources
  have hconc := conclude_noOp_of_describes htol hd
  -- the bound of the milliseconds would be evaluated by the closing tactics
  clear htol hms hrange
  unfold decide
  mvcgen [hsrc, hconc, -sourceChanges_spec, -conclude_spec]
  all_goals simp_all +zetaDelta [hd.removedSources_eq_nil, hd.format, hd.options]
  -- with the sources compared, the conclusion is left as it is
  exact hconc _ rfl

/-- An empty record of the options `f` describes an empty host: a tracker with the default
aspects has nothing to compile there. -/
theorem decide_noOp_of_empty_record :
    let t : Tracker := {}
    let prev := Record.create [] "f" [] []
    let h₀ : Host := { disk := {}, cwd := "/", clock := 0 }
    0 ≤ t.staleMillis ∧ t.staleMillis < Stored.overflowBound ∧ Aspect.none ∉ t.aspects ∧
      Aspect.classes ∉ t.aspects ∧ prev.Describes h₀ [] "f" [] ∧
      ⦃fun h => ⌜h = h₀⌝⦄ t.decide [] (some prev) "f" []
      ⦃⇓ d h => ⌜h = h₀ ∧ d = Decision.noOp⌝⦄ := by
  intro t prev h₀
  have hrange : t.staleMillis < Stored.overflowBound := by decide +kernel
  have hd : prev.Describes h₀ [] "f" [] :=
    { format := rfl, options := rfl, dependencies := by simp [prev, Record.create, sortTexts, Stored.texts?], recorded := by simp,
      complete := by simp [prev, Record.create], sources := by simp,
      outputs := by simp [prev, Record.create] }
  exact ⟨le_refl _, hrange, by decide, by decide, hd,
    decide_noOp_of_describes (le_refl _) hrange (by decide) (by decide) hd⟩

end Tracker

end Change

end JavaBuild
