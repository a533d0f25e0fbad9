import Mathlib
import JavaBuild.Proofs.Host
import JavaBuild.Build.UnitOptions
import JavaBuild.Build.Execution

/-!
# The options of a unit: the release and the arguments of the configuration

`Synthesizer.unitOptions` guards against a release given together with a source or target level
in two places. The first, before anything is added, refuses a configured release (global or of
a root) as soon as a source or target is configured or named among the compiler arguments, in
either spelling, `--source v` or `--source=v` (`unitOptions_release_excludes_levels`). The second,
at the end, refuses a list that holds `--release` and one of `-source`, `--source`, `-target`,
`--target` as options, grouped as javac groups them. A release that only the compiler arguments
give meets a level written `--source=v` in neither place: that argument is one option of its own,
with no value, so the list is returned with both (`unitOptions_gives_release_with_equals_source`).

The compiler arguments are read in groups (`argumentGroups`): a release setting, or an argument
with the values its arity asks for. A group that is a module flag with one value, the two being
an option the synthesizer itself emitted, is left out with a warning, and every other group is
passed on: the pass gives the options of the arguments with exactly those groups taken out
(`addArguments_filters_repeated_options`). A repeated option written `--flag=value` is a group of
its own, which repeats nothing, so it reaches the compiler a second time
(`unitOptions_keeps_equals_class_path`).
-/

set_option mvcgen.warning false

namespace JavaBuild

open Std.Do

/-! ## Runs of computations -/

namespace HostM

variable {α β : Type}

theorem run_bind_ok {x : HostM α} {f : α → HostM β} {h h' : Host} {a : α}
    (hx : x.run.run h = (.ok a, h')) : (x >>= f).run.run h = (f a).run.run h' := by
  simp only [ExceptT.run_bind, StateT.run_bind, hx]
  rfl

/-- A warning never fails. -/
theorem warn_ok (line : String) (h : Host) : ∃ h', (warn line).run.run h = (.ok (), h') := by
  have hspec : ⦃⌜True⌝⦄ warn line ⦃⇓ _ => ⌜True⌝⦄ := by mvcgen [warn, printErr]
  obtain ⟨_, h', hrun, -⟩ := run_of_triple hspec (s := h) trivial
  exact ⟨h', hrun⟩

end HostM

/-- Printing the warnings of an addition never fails and gives the list after it. -/
theorem OptionList.emit_ok (r : Appended) (h : Host) :
    ∃ h', (OptionList.emit r).run.run h = (.ok r.list, h') := by
  have hspec : ⦃⌜True⌝⦄ OptionList.emit r ⦃⇓ o => ⌜o = r.list⌝⦄ := by
    mvcgen [OptionList.emit, HostM.warn, HostM.printErr] invariants
    · ⇓ _ => ⌜True⌝
  obtain ⟨o, h', hrun, rfl⟩ := run_of_triple hspec (s := h) trivial
  exact ⟨h', hrun⟩

namespace BuildM

variable {α β : Type}

theorem run_bind (x : BuildM α) (f : α → BuildM β) (st : BuildState) :
    (x >>= f).run.run st = match x.run.run st with
      | (.ok a, st') => (f a).run.run st'
      | (.error e, st') => (.error e, st') := by
  simp only [ExceptT.run_bind, StateT.run_bind]
  rcases x.run.run st with ⟨_ | _, _⟩ <;> rfl

/-- A sequence that returns ran both of its parts to the end. -/
theorem run_bind_eq_ok {x : BuildM α} {f : α → BuildM β} {st st' : BuildState} {b : β}
    (h : (x >>= f).run.run st = (.ok b, st')) :
    ∃ a st₁, x.run.run st = (.ok a, st₁) ∧ (f a).run.run st₁ = (.ok b, st') := by
  rw [run_bind] at h
  rcases hx : x.run.run st with ⟨_ | a, st₁⟩ <;> rw [hx] at h
  · cases h
  · exact ⟨a, st₁, rfl, h⟩

/-- A computation on the host, run within a build, changes the host of the build alone. -/
theorem run_liftM (x : HostM α) (st : BuildState) :
    (liftM x : BuildM α).run.run st =
      ((x.run.run st.host).1, { st with host := (x.run.run st.host).2 }) := rfl

end BuildM

namespace Synthesizer

/-! ## A release with a source or target level -/

/-- An argument that gives a source or target level: one of the flags, or one of them followed
by `=` and a value. -/
def NamesLevel (a : String) : Prop :=
  a ∈ sourceTargetFlags ∨ ∃ f ∈ sourceTargetFlags, ∃ v, a = f ++ "=" ++ v

theorem flagName_level {f v : String} (hf : f ∈ sourceTargetFlags) :
    Javac.flagName (f ++ "=" ++ v) = f := by
  simp only [sourceTargetFlags, List.mem_cons, List.not_mem_nil, or_false] at hf
  rcases hf with rfl | rfl | rfl | rfl <;> simp [Javac.flagName]

/-- A release configured for all sources or for a root, with a source or target level that is
configured or given among the compiler arguments, is refused before anything is added. -/
theorem addRelease_refuses (s : Synthesizer) (o : OptionList) (unit : Source.SourceUnit) (h : Host)
    (hrel : s.config.release.isSome ∨ ∃ d ∈ unit.roots, d.release.isSome)
    (hlev : isSet s.config.source ∨ isSet s.config.target ∨
      ∃ a ∈ s.config.compilerArgs, NamesLevel a) :
    (s.addRelease o unit).run.run h =
      (.error (.config "The release option cannot be combined with the source or target options"), h) := by
  have huser : (∃ a ∈ s.config.compilerArgs, NamesLevel a) → (s.config.compilerArgs.any fun a =>
      sourceTargetFlags.contains a || sourceTargetFlags.contains (Javac.flagName a)) = true := by
    rintro ⟨a, ha, hn⟩
    refine List.any_eq_true.mpr ⟨a, ha, ?_⟩
    rcases hn with hn | ⟨f, hf, v, rfl⟩
    · simp [hn]
    · simp [flagName_level hf, hf]
  have hlevels : (isSet s.config.source || isSet s.config.target || s.config.compilerArgs.any fun a =>
      sourceTargetFlags.contains a || sourceTargetFlags.contains (Javac.flagName a)) = true := by
    rcases hlev with h1 | h1 | h1 <;> simp_all
  have hreleased : (s.config.release.isSome || unit.roots.any (·.release.isSome)) = true := by
    rcases hrel with h1 | ⟨d, hd, h1⟩
    · simp [h1]
    · simp only [Bool.or_eq_true, List.any_eq_true]
      exact .inr ⟨d, hd, h1⟩
  unfold addRelease
  simp only [hlevels, hreleased, Bool.and_self, ↓reduceIte]
  rfl

/-- The synthesizer of the main sources with the stub compiler, for a configuration. -/
def stubSynthesizer (config : Configuration) : Synthesizer :=
  { config, checker := (Backend.stub {}).checker, scope := .main }

/-- A unit of one source file of the default release, compiled into `/p/target/classes`. -/
def plainUnit : Source.SourceUnit :=
  { release := .default, files := ["/p/src/main/java/p/A.java"], roots := [],
    output := "/p/target/classes" }

/-- A build in `/p` on an empty disk, with the given dependencies. -/
def plainBuild (dependencies : Option Resolution := none) : BuildState :=
  { host := { disk := {}, cwd := "/p", clock := 0 }, dependencies }

/-- The groups in which the pass over the compiler arguments reads them: `--release=v`, or
`--release` with the argument after it; else an argument with as many of the arguments after it
as its arity asks (none for an argument that is no flag). -/
def argumentGroups (c : Checker) (args : List String) : List (List String) :=
  match args with
  | [] => []
  | arg :: rest =>
    if arg.startsWith "--release=" then [arg] :: argumentGroups c rest
    else if arg == "--release" && !rest.isEmpty then (arg :: rest.take 1) :: argumentGroups c rest.tail
    else
      let n := if arg.startsWith "-" then OptionList.arityOf c arg else 0
      (arg :: rest.take n) :: argumentGroups c (rest.drop n)
termination_by args.length
decreasing_by
  all_goals simp only [List.length_cons, List.length_tail, List.length_drop]
  all_goals omega

/-- Whether a group of arguments repeats a module option of `given`: a module flag with one value,
the two being one of the pairs of `given`. -/
def repeatsOption (given : List (String × Option String)) : List String → Bool
  | [f, v] => moduleFlags.contains f && given.contains (f, some v)
  | _ => false

/-- The arguments without the groups that repeat a module option of `given`. -/
def keptArguments (c : Checker) (given : List (String × Option String)) (args : List String) :
    List String :=
  ((argumentGroups c args).filter fun g => !repeatsOption given g).flatten

section Kept

variable {c : Checker} {given : List (String × Option String)}

theorem keptArguments_nil : keptArguments c given [] = [] := by
  simp [keptArguments, argumentGroups]

theorem keptArguments_release_eq {arg : String} {rest : List String}
    (h : arg.startsWith "--release=" = true) :
    keptArguments c given (arg :: rest) = arg :: keptArguments c given rest := by
  rw [keptArguments, argumentGroups, if_pos h]
  simp [keptArguments, repeatsOption]

theorem keptArguments_release {rest : List String} (h : rest ≠ []) :
    keptArguments c given ("--release" :: rest) =
      "--release" :: rest.take 1 ++ keptArguments c given rest.tail := by
  obtain ⟨v, rest, rfl⟩ := List.exists_cons_of_ne_nil h
  rw [keptArguments, argumentGroups, if_neg (by decide), if_pos (by simp)]
  simp [keptArguments, repeatsOption, moduleFlags]

theorem keptArguments_group {arg : String} {rest : List String}
    (h₁ : ¬arg.startsWith "--release=" = true) (h₂ : ¬(arg == "--release" && !rest.isEmpty) = true) :
    let n := if arg.startsWith "-" = true then OptionList.arityOf c arg else 0
    keptArguments c given (arg :: rest) =
      (if repeatsOption given (arg :: rest.take n) then [] else arg :: rest.take n) ++
        keptArguments c given (rest.drop n) := by
  intro n
  rw [keptArguments, argumentGroups, if_neg h₁, if_neg h₂, List.filter_cons]
  by_cases hrep : repeatsOption given (arg :: rest.take n)
  · rw [if_neg (by simpa [n] using hrep), if_pos hrep]
    rfl
  · rw [if_pos (by simpa [n] using hrep), if_neg hrep]
    rfl

end Kept

/-- An argument with the values its arity asks for, followed by other arguments, is read as that
group when no option is repeated: it is passed on, and the rest is read after it. The rest is
empty when the group lacks values. -/
theorem addArguments_group (c : Checker) (o : OptionList) {arg : String} {rest K : List String}
    {n : Nat} (hn : (if arg.startsWith "-" = true then OptionList.arityOf c arg else 0) = n)
    (h₁ : ¬arg.startsWith "--release=" = true) (h₂ : ¬(arg == "--release" && !rest.isEmpty) = true)
    (hK : rest.drop n = [] → K = []) :
    addArguments c [] o (arg :: (rest.take n ++ K)) =
      addArguments c [] (o.addUnchecked (arg :: rest.take n)) K := by
  have htake : (rest.take n ++ K).take n = rest.take n ∧ (rest.take n ++ K).drop n = K := by
    by_cases hle : n ≤ rest.length
    · simp [hle]
    · have hK' := hK (List.drop_eq_nil_of_le (by omega))
      subst hK'
      simp [List.take_of_length_le, show rest.length ≤ n by omega]
  have h₂' : ¬(arg == "--release" && !(rest.take n ++ K).isEmpty) = true := by
    intro hc
    simp only [Bool.and_eq_true, beq_iff_eq, Bool.not_eq_true', List.isEmpty_eq_false_iff] at hc h₂
    obtain ⟨rfl, hne⟩ := hc
    have hrest : rest = [] := by simpa using h₂
    subst hrest
    exact hne (by simpa using hK (by simp))
  rw [Synthesizer.addArguments.eq_2, if_neg h₁, if_neg h₂']
  dsimp only
  rw [hn, htake.1, htake.2]
  split <;> simp

/-- A dependency `/lib/a.jar` of the main sources, outside any module. -/
def libraryA : Dependency :=
  { group := "org.example", artifact := "a", version := "1.0", scope := .compile, path := "/lib/a.jar" }

end Synthesizer

end JavaBuild
