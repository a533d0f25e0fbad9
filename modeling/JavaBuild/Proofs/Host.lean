import Mathlib
import JavaBuild.Host

/-!
# Triples over the host

A computation on the host (`HostM`) may fail, and it changes the host as it runs; so does a
computation of a build (`BuildM`) on the state of the build. Their specifications are `Std.Do`
triples, proved with `mvcgen` from one specification per function that they call. The lemmas
here hold of any computation that may fail over a state, and read such a triple back as a fact
about one run from a given state: a run that returns satisfies the postcondition of any triple
(partial correctness), and a triple whose postcondition excludes failure runs to a value (total
correctness).
-/

set_option mvcgen.warning false

namespace JavaBuild

open Std.Do

section Runs

variable {ε σ α : Type}

/-- The weakest precondition of a computation at a state is its postcondition at the outcome of
the run from that state. -/
theorem wp_apply (x : ExceptT ε (StateM σ) α) (Q : PostCond α (.except ε (.arg σ .pure)))
    (s : σ) :
    wp⟦x⟧ Q s = match x.run.run s with
      | (.ok a, s') => Q.1 a s'
      | (.error e, s') => Q.2.1 e s' := by
  simp only [WP.wp, PredTrans.apply, PredTrans.pushExcept, PredTrans.pushArg, StateT.run,
    Pure.pure, PredTrans.pure]
  rcases ExceptT.run x s with ⟨_ | _, _⟩ <;> rfl

variable {x : ExceptT ε (StateM σ) α}

/-- A triple read back on a run that returns. -/
theorem ok_of_triple {P : Assertion (.except ε (.arg σ .pure))}
    {Q : PostCond α (.except ε (.arg σ .pure))} (hx : ⦃P⦄ x ⦃Q⦄) {s s' : σ} {a : α}
    (hP : (P s).down) (hr : x.run.run s = (.ok a, s')) : (Q.1 a s').down := by
  have hwp := hx s hP
  rw [wp_apply, hr] at hwp
  exact hwp

/-- A triple read back on a run that fails. -/
theorem error_of_triple {P : Assertion (.except ε (.arg σ .pure))}
    {Q : PostCond α (.except ε (.arg σ .pure))} (hx : ⦃P⦄ x ⦃Q⦄) {s s' : σ} {e : ε}
    (hP : (P s).down) (hr : x.run.run s = (.error e, s')) : (Q.2.1 e s').down := by
  have hwp := hx s hP
  rw [wp_apply, hr] at hwp
  exact hwp

/-- A triple that excludes failure, read back as a run that returns. -/
theorem run_of_triple {P : Assertion (.except ε (.arg σ .pure))} {Q : α → σ → Prop}
    (hx : ⦃P⦄ x ⦃⇓ a s' => ⌜Q a s'⌝⦄) {s : σ} (hP : (P s).down) :
    ∃ a s', x.run.run s = (.ok a, s') ∧ Q a s' := by
  have hwp := hx s hP
  rw [wp_apply] at hwp
  split at hwp
  · exact ⟨_, _, ‹_›, hwp⟩
  · exact hwp.elim

/-- A triple that excludes returning, read back as a run that fails. -/
theorem run_error_of_triple {P : Assertion (.except ε (.arg σ .pure))} {Q : ε → σ → Prop}
    (hx : ⦃P⦄ x ⦃post⟨fun _ _ => ⌜False⌝, fun e s' => ⌜Q e s'⌝⟩⦄) {s : σ} (hP : (P s).down) :
    ∃ e s', x.run.run s = (.error e, s') ∧ Q e s' := by
  have hwp := hx s hP
  rw [wp_apply] at hwp
  split at hwp
  · exact hwp.elim
  · exact ⟨_, _, ‹_›, hwp⟩

/-- A run whose outcome reads as the value `a` returned `a`: the outcome of a closed run is
evaluated as an option, which has decidable equality where a failure has none. -/
theorem run_eq_ok_of_toOption {s : σ} {a : α} (hx : (x.run.run s).1.toOption = some a) :
    x.run.run s = (.ok a, (x.run.run s).2) := by
  refine Prod.ext ?_ rfl
  revert hx
  cases (x.run.run s).1 <;> simp [Except.toOption]

/-- Every computation satisfies the triple that promises nothing; callers whose properties do
not depend on a callee take it as that callee's specification. -/
theorem triple_true (x : ExceptT ε (StateM σ) α) : ⦃⌜True⌝⦄ x ⦃⇓? _ => ⌜True⌝⦄ := by
  intro s _
  rw [wp_apply]
  split <;> trivial

end Runs

namespace HostM

/-- Whether a path names an entry, read off the host without changing it. -/
@[spec] theorem pathExists_spec (p : String) (h₀ : Host) :
    ⦃fun h => ⌜h = h₀⌝⦄ pathExists p
    ⦃⇓ b h => ⌜h = h₀ ∧ b = (nameable p && h₀.disk.exists? (Path.absolute h₀.cwd p))⌝⦄ := by
  mvcgen [pathExists]
  simp_all

end HostM

/-! ## Reading the files

Queries and logging read the disk and the working directory and leave both as they are. A host
that shows the same files as `h₀` (`Host.SameFiles`) answers every query as `h₀` does, so what a
computation made only of them finds is a function of `h₀`.
-/

namespace Host

/-- A host that shows the files of `h₀`: the same disk, read from the same working directory. -/
def SameFiles (h₀ h : Host) : Prop := h.disk = h₀.disk ∧ h.cwd = h₀.cwd

/-- Whether a path names a directory of the host. -/
def dirExists (h : Host) (p : String) : Bool :=
  HostM.nameable p && h.disk.isDir (Path.absolute h.cwd p)

/-- The files inside a directory of the host, relative to it, in walking order. -/
def filesIn (h : Host) (dir : String) : List String :=
  if dir.isEmpty then [] else h.disk.listFiles (Path.absolute h.cwd dir)

namespace SameFiles

variable {h₀ h h' : Host}

theorem trans (h₁ : SameFiles h₀ h) (h₂ : SameFiles h h') : SameFiles h₀ h' :=
  ⟨h₂.1.trans h₁.1, h₂.2.trans h₁.2⟩

theorem dirExists_eq (hs : SameFiles h₀ h) (p : String) : h.dirExists p = h₀.dirExists p := by
  simp [dirExists, hs.1, hs.2]

theorem filesIn_eq (hs : SameFiles h₀ h) (p : String) : h.filesIn p = h₀.filesIn p := by
  simp [filesIn, hs.1, hs.2]

end SameFiles

end Host

namespace HostM

variable (h₀ : Host)

theorem log_sameFiles (line : String) :
    ⦃fun h => ⌜Host.SameFiles h₀ h⌝⦄ log line ⦃⇓ _ h => ⌜Host.SameFiles h₀ h⌝⦄ := by
  mvcgen [log, printOut]

theorem logVerbose_sameFiles (line : String) :
    ⦃fun h => ⌜Host.SameFiles h₀ h⌝⦄ logVerbose line ⦃⇓ _ h => ⌜Host.SameFiles h₀ h⌝⦄ := by
  mvcgen [logVerbose, log_sameFiles]

theorem logDebug_sameFiles (line : String) :
    ⦃fun h => ⌜Host.SameFiles h₀ h⌝⦄ logDebug line ⦃⇓ _ h => ⌜Host.SameFiles h₀ h⌝⦄ := by
  mvcgen [logDebug, log_sameFiles]

theorem isDir_sameFiles (p : String) :
    ⦃fun h => ⌜Host.SameFiles h₀ h⌝⦄ isDir p
    ⦃⇓ b h => ⌜b = h₀.dirExists p ∧ Host.SameFiles h₀ h⌝⦄ := by
  mvcgen [isDir]
  simp_all [Host.SameFiles, Host.dirExists]

theorem listFiles_sameFiles (p : String) :
    ⦃fun h => ⌜Host.SameFiles h₀ h⌝⦄ listFiles p
    ⦃⇓ fs h => ⌜fs = h₀.filesIn p ∧ Host.SameFiles h₀ h⌝⦄ := by
  mvcgen [listFiles]
  simp_all [Host.SameFiles, Host.filesIn]

theorem pathExists_sameFiles (p : String) :
    ⦃fun h => ⌜Host.SameFiles h₀ h⌝⦄ pathExists p ⦃⇓ _ h => ⌜Host.SameFiles h₀ h⌝⦄ := by
  mvcgen [pathExists]
  rintro rfl -
  assumption

theorem readText_sameFiles (p : String) :
    ⦃fun h => ⌜Host.SameFiles h₀ h⌝⦄ readText p ⦃⇓? _ h => ⌜Host.SameFiles h₀ h⌝⦄ := by
  mvcgen [readText, readBytes, onDisk, checkWritable]

end HostM

end JavaBuild
