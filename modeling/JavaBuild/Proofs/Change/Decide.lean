import Mathlib
import JavaBuild.Change.Tracker
import JavaBuild.Proofs.Host
import JavaBuild.Proofs.Text.Order
import JavaBuild.Proofs.Data.List

/-!
# What the change tracker decides

Against the record of the previous build, a current source is *stale* when the record lacks it or
records another digest for it, and a recorded source is *gone* when it is no longer current; a
path is *touched* when it is either. With the aspect `sources`, every decision of the tracker
tells the truth about the touched paths (`Decided`):

* nothing to compile only when nothing is touched and, as far as the aspects compare them, the
  options and the dependencies are those of the record;
* an incremental build compiles every stale source, lists the compiled files sorted and without
  repeats, removes exactly the gone sources, sorted, and touches no module declaration;
* a touched module declaration forces a full build.

The tracker compares in two loops (`sourceChanges`, `classChanges`) and concludes in
`conclude`. Each gets a triple: the source loop puts every stale source among the changed or
added ones (`Seen`), the class loop only adds changed sources or stops with a full build, and
`conclude` answers in terms of the lists it is given (`Concluded`). The decision follows
(`decide_spec`); a triple about a run is read back on the run by `ok_of_triple`.
-/

set_option mvcgen.warning false

namespace JavaBuild

open Std.Do

namespace Change

@[simp] theorem mem_keepListed {p : String} {xs keep : List String} :
    p ∈ keepListed xs keep ↔ p ∈ xs ∧ p ∈ keep := by
  simp [keepListed]

theorem keepListed_nodup (xs keep : List String) : (keepListed xs keep).Nodup :=
  eraseDups_nodup _

/-- Stored items are all texts exactly when they are the texts read from them. -/
theorem Stored.texts?_eq_some {xs : List Json} {ys : List String} :
    Stored.texts? xs = some ys ↔ xs = ys.map .str := by
  induction xs generalizing ys with
  | nil => cases ys <;> simp [Stored.texts?]
  | cons x xs ih =>
    simp only [Stored.texts?] at ih
    cases x <;> cases ys <;>
      simp [Stored.texts?, List.mapM_cons, Option.bind_eq_some_iff, ← ih, and_comm]

@[spec] theorem timestamp?_spec (p : String) : ⦃⌜True⌝⦄ timestamp? p ⦃⇓? _ => ⌜True⌝⦄ :=
  triple_true _

@[spec] theorem Record.outputIntact_spec (r : Record) (staleMillis : Int) :
    ⦃⌜True⌝⦄ r.outputIntact staleMillis ⦃⇓? _ => ⌜True⌝⦄ :=
  triple_true _

@[spec] theorem logVerbose_spec (line : String) :
    ⦃⌜True⌝⦄ HostM.logVerbose line ⦃⇓? _ => ⌜True⌝⦄ :=
  triple_true _

namespace Tracker

@[spec] theorem tolerance_spec (t : Tracker) : ⦃⌜True⌝⦄ t.tolerance ⦃⇓? _ => ⌜True⌝⦄ :=
  triple_true _

@[spec] theorem outdated_spec (tol : Binary64) (classTime : Option Binary64) (source : String) :
    ⦃⌜True⌝⦄ outdated tol classTime source ⦃⇓? _ => ⌜True⌝⦄ :=
  triple_true _

/-- A source whose digest differs from the recorded one has changed. -/
@[spec] theorem modified_spec (t : Tracker) (p : String) (now before : FileStatus) :
    ⦃⌜True⌝⦄ t.modified p now before ⦃⇓? r => ⌜before.digest ≠ now.digest → r = true⌝⦄ := by
  mvcgen [modified] <;> simp_all

/-! ## The two loops -/

/-- Every source of `cs` that the record lacks is in `added`, and every one recorded with
another digest is in `changed`. -/
def Seen (prev : Record) (cs : List (String × FileStatus)) (changed added : List String) : Prop :=
  ∀ q ∈ cs, (prev.files.lookup q.1 = none → q.1 ∈ added) ∧
    ∀ b, prev.files.lookup q.1 = some b → b.digest ≠ q.2.digest → q.1 ∈ changed

theorem seen_cons {prev : Record} {p : String} {st : FileStatus}
    {rest : List (String × FileStatus)} {changed added : List String} :
    Seen prev ((p, st) :: rest) changed added ↔
      ((prev.files.lookup p = none → p ∈ added) ∧
        ∀ b, prev.files.lookup p = some b → b.digest ≠ st.digest → p ∈ changed) ∧
      Seen prev rest changed added :=
  List.forall_mem_cons

/-- The source loop keeps what it was given and sees every source it compares. -/
theorem sourceChanges_spec (t : Tracker) (prev : Record) (cs : List (String × FileStatus))
    (changed added : List String) :
    ⦃⌜True⌝⦄ t.sourceChanges prev changed added cs
    ⦃⇓? r => ⌜changed ⊆ r.1 ∧ added ⊆ r.2 ∧ Seen prev cs r.1 r.2⌝⦄ := by
  induction cs generalizing changed added with
  | nil =>
    mvcgen [sourceChanges]
    simp_all [Seen]
  | cons q rest ih =>
    obtain ⟨p, st⟩ := q
    mvcgen [sourceChanges, ih]
    -- a source the record lacks is added
    · rintro - hc ha hs
      simp only [List.append_subset, List.cons_subset] at ha
      have hnone : prev.files.lookup p = none := ‹_›
      exact ⟨hc, ha.1, seen_cons.mpr ⟨⟨fun _ => ha.2.1, by simp [hnone]⟩, hs⟩⟩
    -- a modified source has changed
    · rintro - hc ha hs
      simp only [List.append_subset, List.cons_subset] at hc
      exact ⟨hc.1, ha, seen_cons.mpr ⟨⟨by simp_all, fun _ _ _ => hc.2.1⟩, hs⟩⟩
    -- an unmodified one has its recorded digest
    · rintro - hc ha hs
      refine ⟨hc, ha, seen_cons.mpr ⟨⟨by simp_all, fun b hb hne => ?_⟩, hs⟩⟩
      simp_all

/-- What the class loop ends in: changed sources that include the given ones, or a full
build. -/
def ClassOutcome (changed : List String) : Except Decision (List String) → Prop
  | .ok c => changed ⊆ c
  | .error d => d.kind = .full

theorem ClassOutcome.mono {changed changed' : List String} {r : Except Decision (List String)}
    (h : changed ⊆ changed') : ClassOutcome changed' r → ClassOutcome changed r := by
  cases r with
  | ok c => exact List.Subset.trans h
  | error d => exact id

theorem classChanges_spec (t : Tracker) (added changed : List String)
    (cs : List (String × FileStatus)) :
    ⦃⌜True⌝⦄ t.classChanges added changed cs ⦃⇓? r => ⌜ClassOutcome changed r⌝⦄ := by
  induction cs generalizing changed with
  | nil =>
    mvcgen [classChanges]
    simp [ClassOutcome]
  | cons q rest ih =>
    obtain ⟨p, st⟩ := q
    mvcgen -trivial [classChanges, ih]
    -- a missing class file, with the aspect `additions`, asks for a full build
    case vc1 => rfl
    -- an outdated class file adds its source to the changed ones
    case vc2 => exact fun _ => ClassOutcome.mono (List.subset_append_left _ _)
    case vc3 => trivial

/-! ## The conclusion -/

/-- The decision of `conclude` in terms of the sources it is given as changed, added and
removed. -/
structure Concluded (t : Tracker) (current : List (String × FileStatus)) (prev : Record)
    (dependencies changed added removed : List String) (d : Decision) : Prop where
  noOp : d.kind = .noOp → changed = [] ∧ added = [] ∧ removed = [] ∧
    (Aspect.dependencies ∈ t.aspects →
      Stored.texts? prev.dependencies = some (sortTexts dependencies))
  incremental : d.kind = .incremental → d.removed = removed ∧
    (∀ p ∈ changed ++ added, p ∈ current.map Prod.fst → p ∈ d.files) ∧
    d.files.Pairwise (Text.textLt · ·) ∧ (∀ p ∈ d.files, p ∈ current.map Prod.fst) ∧
    ∀ p ∈ changed ++ added ++ removed, Path.fileName p ≠ moduleSource
  module : (∃ p ∈ changed ++ added ++ removed, Path.fileName p = moduleSource) → d.kind = .full

section Concluded

variable {t : Tracker} {current : List (String × FileStatus)} {prev : Record}
  {dependencies changed added removed : List String}

theorem concluded_full (cause : Option String) (details : List String) :
    Concluded t current prev dependencies changed added removed (Decision.full cause details) :=
  ⟨by simp [Decision.full], by simp [Decision.full], fun _ => rfl⟩

theorem concluded_noOp
    (hdeps : ¬(t.aspects.contains .dependencies &&
      Stored.texts? prev.dependencies != some (sortTexts dependencies)) = true)
    (hempty : (changed ++ added ++ removed).isEmpty = true) :
    Concluded t current prev dependencies changed added removed Decision.noOp := by
  have hrecorded : Aspect.dependencies ∈ t.aspects →
      Stored.texts? prev.dependencies = some (sortTexts dependencies) := by
    simpa using hdeps
  simp only [List.isEmpty_iff, List.append_eq_nil_iff] at hempty
  obtain ⟨⟨rfl, rfl⟩, rfl⟩ := hempty
  exact ⟨fun _ => ⟨rfl, rfl, rfl, hrecorded⟩, fun h => (by simp [Decision.noOp] at h), by simp⟩

/-- The files of an incremental build are the changed, added and dependent sources that are
current, sorted and without repeats. -/
theorem concluded_incremental (users : List String)
    (hfind : (changed ++ added ++ removed).find? (Path.fileName · == moduleSource) = none) :
    Concluded t current prev dependencies changed added removed
      (Decision.incremental (sortTexts (keepListed (changed ++ added ++ users)
        (current.map Prod.fst))) removed) := by
  have hmodule : ∀ p ∈ changed ++ added ++ removed, Path.fileName p ≠ moduleSource := by
    simpa using List.find?_eq_none.mp hfind
  refine ⟨fun h => (by simp [Decision.incremental] at h),
    fun _ => ⟨rfl, ?_, ?_, ?_, hmodule⟩, ?_⟩
  · intro p hp hcur
    simp only [Decision.incremental, mem_sortTexts, mem_keepListed]
    exact ⟨List.mem_append_left _ hp, hcur⟩
  · exact sortTexts_strictly_sorted (keepListed_nodup _ _)
  · intro p hp
    simp only [Decision.incremental, mem_sortTexts, mem_keepListed] at hp
    exact hp.2
  · rintro ⟨p, hp, hname⟩
    exact absurd hname (hmodule p hp)

end Concluded

theorem conclude_spec (t : Tracker) (current : List (String × FileStatus)) (prev : Record)
    (dependencies changed added removed : List String) :
    ⦃⌜True⌝⦄ t.conclude current prev dependencies changed added removed
    ⦃⇓? d => ⌜Concluded t current prev dependencies changed added removed d⌝⦄ := by
  mvcgen [conclude]
  -- nothing touched
  case vc6 => exact concluded_noOp ‹_› ‹_›
  -- the touched sources and their dependents
  case vc8 =>
    subst_vars
    exact concluded_incremental _ (Option.eq_none_iff_forall_ne_some.mpr ‹_›)
  -- every other answer is a full build
  all_goals exact concluded_full _ _

/-! ## The decision against the record -/

/-- A current source that the record lacks, or records with another digest. -/
def Stale (prev : Record) (q : String × FileStatus) : Prop :=
  prev.files.lookup q.1 = none ∨ ∃ b, prev.files.lookup q.1 = some b ∧ b.digest ≠ q.2.digest

/-- The recorded sources that are no longer current. -/
def gone (prev : Record) (current : List (String × FileStatus)) : List String :=
  (prev.files.map Prod.fst).filter fun p => p ∉ current.map Prod.fst

/-- A path added, changed or removed since the record. -/
def Touched (current : List (String × FileStatus)) (prev : Record) (p : String) : Prop :=
  (∃ q ∈ current, q.1 = p ∧ Stale prev q) ∨ p ∈ gone prev current

/-- The current sources are those of the record, each with its recorded digest. -/
def Unchanged (current : List (String × FileStatus)) (prev : Record) : Prop :=
  (∀ q ∈ current, ∃ b, prev.files.lookup q.1 = some b ∧ b.digest = q.2.digest) ∧
    ∀ p ∈ prev.files.map Prod.fst, p ∈ current.map Prod.fst

/-- What a decision of the tracker says of the current sources against the record. -/
structure Decided (t : Tracker) (current : List (String × FileStatus)) (prev : Record)
    (fingerprint : String) (dependencies : List String) (d : Decision) : Prop where
  /-- Nothing to compile: no path touched, and the options and dependencies compared are those
  of the record. -/
  noOp : d.kind = .noOp → Unchanged current prev ∧
    (Aspect.options ∈ t.aspects → prev.options = .str fingerprint) ∧
    (Aspect.dependencies ∈ t.aspects → prev.dependencies = (sortTexts dependencies).map .str)
  /-- Some files to compile: every stale source among them, sorted and without repeats; the
  removed sources exactly the gone ones, sorted; no module declaration touched. -/
  incremental : d.kind = .incremental →
    (∀ q ∈ current, Stale prev q → q.1 ∈ d.files) ∧
    d.files.Pairwise (Text.textLt · ·) ∧ (∀ p ∈ d.files, p ∈ current.map Prod.fst) ∧
    d.removed.Pairwise (Text.textLe · ·) ∧ d.removed.Perm (gone prev current) ∧
    ∀ p, Touched current prev p → Path.fileName p ≠ moduleSource
  /-- A touched module declaration forces a full build. -/
  module : (∃ p, Touched current prev p ∧ Path.fileName p = moduleSource) → d.kind = .full

theorem removedSources_eq (prev : Record) (current : List (String × FileStatus)) :
    removedSources prev current = sortTexts (gone prev current) := by
  unfold removedSources gone
  congr 1
  refine List.filter_congr fun p _ => ?_
  rw [Bool.eq_iff_iff]
  simp [List.mem_map]
  exact ⟨fun h x hx => h p x hx rfl, fun h a b hab hap => h b (hap ▸ hab)⟩

theorem stale_iff {prev : Record} {q : String × FileStatus} :
    Stale prev q ↔ ¬∃ b, prev.files.lookup q.1 = some b ∧ b.digest = q.2.digest := by
  unfold Stale
  cases prev.files.lookup q.1 <;> simp

/-- The options check of the tracker passed. -/
theorem options_checked {t : Tracker} {prev : Record} {fingerprint : String}
    (h : ¬(t.aspects.contains .options &&
      !(match prev.options with | .str s => s == fingerprint | _ => false)) = true) :
    Aspect.options ∈ t.aspects → prev.options = .str fingerprint := by
  intro hmem
  simp only [List.contains_iff_mem.mpr hmem, Bool.true_and, Bool.not_eq_true',
    Bool.not_eq_false] at h
  split at h
  · simp_all
  · cases h

section Decided

variable {t : Tracker} {current : List (String × FileStatus)} {prev : Record}
  {fingerprint : String} {dependencies : List String} {d : Decision}

theorem decided_of_full (h : d.kind = .full) : Decided t current prev fingerprint dependencies d :=
  ⟨fun h' => by simp [h] at h', fun h' => by simp [h] at h', fun _ => h⟩

/-- A stale source is among the sources compared as changed or added. -/
theorem mem_of_stale {changed added changed' : List String} {q : String × FileStatus}
    (hseen : Seen prev current changed added) (hsub : changed ⊆ changed') (hq : q ∈ current)
    (hstale : Stale prev q) : q.1 ∈ changed' ++ added := by
  obtain ⟨hadded, hchanged⟩ := hseen q hq
  rcases hstale with hnone | ⟨b, hb, hne⟩
  · exact List.mem_append_right _ (hadded hnone)
  · exact List.mem_append_left _ (hsub (hchanged b hb hne))

/-- A touched path is among the sources compared as changed, added or removed. -/
theorem mem_of_touched {changed added changed' : List String} {p : String}
    (hseen : Seen prev current changed added) (hsub : changed ⊆ changed')
    (hp : Touched current prev p) : p ∈ changed' ++ added ++ removedSources prev current := by
  rcases hp with ⟨q, hq, rfl, hstale⟩ | hgone
  · exact List.mem_append_left _ (mem_of_stale hseen hsub hq hstale)
  · simp [removedSources_eq, hgone]

/-- Given every stale source among the changed or added ones and the gone ones as removed,
`conclude` decides as `Decided` says. -/
theorem decided_of_concluded {changed added changed' : List String}
    (hseen : Seen prev current changed added) (hsub : changed ⊆ changed')
    (hoptions : Aspect.options ∈ t.aspects → prev.options = .str fingerprint)
    (hd : Concluded t current prev dependencies changed' added (removedSources prev current) d) :
    Decided t current prev fingerprint dependencies d := by
  have htouched := fun p => mem_of_touched (p := p) hseen hsub
  refine ⟨fun hk => ?_, fun hk => ?_, fun ⟨p, hp, hname⟩ => hd.module ⟨p, htouched p hp, hname⟩⟩
  · obtain ⟨hc, ha, hr, hdeps⟩ := hd.noOp hk
    have hnone : ∀ p, ¬Touched current prev p := fun p hp => by
      simpa [hc, ha, hr] using htouched p hp
    refine ⟨⟨fun q hq => ?_, fun p hp => ?_⟩, hoptions, fun hmem => ?_⟩
    · exact not_not.mp (stale_iff.not.mp fun hs => hnone q.1 (.inl ⟨q, hq, rfl, hs⟩))
    · by_contra hcur
      exact hnone p (.inr (by simp [gone, hp, hcur]))
    · exact Stored.texts?_eq_some.mp (hdeps hmem)
  · obtain ⟨hr, hfiles, hsorted, hcur, hmodule⟩ := hd.incremental hk
    refine ⟨fun q hq hstale => ?_, hsorted, hcur, ?_, ?_, fun p hp => hmodule p (htouched p hp)⟩
    · exact hfiles q.1 (mem_of_stale hseen hsub hq hstale) (List.mem_map_of_mem hq)
    · rw [hr, removedSources_eq]
      exact sortTexts_sorted _
    · rw [hr, removedSources_eq]
      exact sortTexts_perm _

end Decided

/-- With the aspect `sources`, every decision against a record is `Decided`. -/
theorem decide_spec (t : Tracker) (current : List (String × FileStatus)) (prev : Record)
    (fingerprint : String) (dependencies : List String) (hsources : Aspect.sources ∈ t.aspects) :
    ⦃⌜True⌝⦄ t.decide current (some prev) fingerprint dependencies
    ⦃⇓? d => ⌜Decided t current prev fingerprint dependencies d⌝⦄ := by
  mvcgen [decide, sourceChanges_spec, classChanges_spec, conclude_spec]
  -- the sources compared, and then the class files
  case vc4 =>
    exact fun _ hd => decided_of_concluded ‹_ ∧ _ ∧ Seen _ _ _ _›.2.2 ‹ClassOutcome _ _›
      (options_checked ‹_›) hd
  case vc5 => exact decided_of_full ‹ClassOutcome _ (.error _)›
  -- the sources compared, and not the class files
  case vc6 =>
    exact fun _ hd => decided_of_concluded ‹_ ∧ _ ∧ Seen _ _ _ _›.2.2 (List.Subset.refl _)
      (options_checked ‹_›) hd
  -- the sources are always compared
  case vc7 | vc8 | vc9 => exact absurd (List.contains_iff_mem.mpr hsources) ‹_›
  -- every other answer is a full build
  all_goals exact decided_of_full rfl

/-- Every decision that the tracker returns with the aspect `sources` is `Decided`: nothing to
compile only when no path is touched and the options and dependencies compared are those of the
record; an incremental build of every stale source, removing exactly the gone ones; a full build
whenever a module declaration is touched. -/
theorem decide_tells_touched_sources (t : Tracker) (current : List (String × FileStatus))
    (prev : Record) (fingerprint : String) (dependencies : List String)
    (hsources : Aspect.sources ∈ t.aspects) {h h' : Host} {d : Decision}
    (hrun : (t.decide current (some prev) fingerprint dependencies).run.run h = (.ok d, h')) :
    Decided t current prev fingerprint dependencies d :=
  ok_of_triple (decide_spec t current prev fingerprint dependencies hsources) trivial hrun

/-- A source recorded with another digest and a recorded source that is gone, both with known
symbols and used by nothing: the changed source is compiled and the gone one removed. -/
theorem decide_tells_touched_sources_of_changed_and_gone :
    let stored : StoredSymbols :=
      { package := .str "p", types := [], imports := [], references := [] }
    let a : FileStatus :=
      { mtime := Binary64.ofInt 0, digest := "d", output := "out", symbols := some stored }
    let b : FileStatus := { a with digest := "e" }
    let prev := Record.create [("src/A.java", a), ("src/B.java", b)] "f" [] []
    let t : Tracker := {}
    Aspect.sources ∈ t.aspects ∧
    Decided t [("src/A.java", { a with digest := "x" })] prev "f" []
      (Decision.incremental ["src/A.java"] ["src/B.java"]) := by
  intro stored a b prev t
  have hok : ((t.decide [("src/A.java", { a with digest := "x" })] (some prev) "f" []).run.run
      { disk := {}, cwd := "/", clock := 0 }).1.toOption =
      some (Decision.incremental ["src/A.java"] ["src/B.java"]) := by
    decide +kernel
  exact ⟨by decide, decide_tells_touched_sources t _ prev "f" [] (by decide)
    (run_eq_ok_of_toOption hok)⟩

/-- A tolerance of more milliseconds than binary64 holds: the tracker fails at the first source
it finds recorded with its digest, and returns no decision. -/
theorem decide_fails_beyond_float_range :
    let t : Tracker := { staleMillis := 10 ^ 400 }
    let st : FileStatus := { mtime := Binary64.ofInt 0, digest := "d", output := "out" }
    let prev := Record.create [("src/A.java", st)] "f" [] []
    Aspect.sources ∈ t.aspects ∧ 0 ≤ t.staleMillis ∧ Stored.isOne prev.format = true ∧
    (((t.decide [("src/A.java", st)] (some prev) "f" []).run.run
      { disk := {}, cwd := "/", clock := 0 }).1 matches
        .error (.badData "OverflowError" "int too large to convert to float")) = true := by
  decide +kernel

end Tracker

end Change

end JavaBuild
