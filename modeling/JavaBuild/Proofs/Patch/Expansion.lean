import JavaBuild.Proofs.Patch.TestModulePath

/-!
# Module-info patches: resolving without simplification

Resolving a patch expands its placeholders and checks the modules it names. This module states
the whole outcome when the modules of the dependencies are known without reading artifacts and
the patch exports each package once, as the reader of patches builds them
(`resolve_unsimplified_eq_expanded`; every patch that `load` or `defaults` gives does, by
`ModulePatch.Distinct`). Every module the patch names may be named (`Nameable`):
then each stage holds the declared options with `SUBPROJECT-MODULES` and `TEST-MODULE-PATH`
expanded (`expanded`). Or some module may not be: then resolving fails with the error of the
first such module. Either way the host is left as it was.

A module may be named when it is a placeholder, a `java.*` or `jdk.*` module, a module of the
project, the patched module, a system module, or the module of a dependency or one its descriptor
requires. A module name that is empty names nothing, so the modules that the descriptor of such
a dependency requires are refused (`resolve_refuses_requirement_of_nameless_module`).
-/

set_option mvcgen.warning false

namespace JavaBuild

open Std.Do

namespace Resolution

/-- The modules a dependency provides, as far as they are known without reading artifacts: its
module and the modules its descriptor requires, when its module has a name that is not empty. -/
def provided (s : Resolution) (d : Dependency) : List String :=
  match s.knownName d with
  | some n => if n.isEmpty then [] else n :: ((s.knownDescriptor d).map (Assoc.keys ·.requires)).getD []
  | none => []

theorem provided_of_named {s : Resolution} {d : Dependency} {n : String}
    (hn : s.knownName d = some n) (hne : n.isEmpty = false) :
    s.provided d = n :: ((s.knownDescriptor d).map (Assoc.keys ·.requires)).getD [] := by
  simp [provided, hn, hne]

theorem provided_of_empty {s : Resolution} {d : Dependency} {n : String}
    (hn : s.knownName d = some n) (he : n.isEmpty = true) : s.provided d = [] := by
  simp [provided, hn, he]

theorem provided_of_unnamed {s : Resolution} {d : Dependency} (hn : s.knownName d = none) :
    s.provided d = [] := by
  simp [provided, hn]

end Resolution

namespace Patch

/-- The modules known to a patch: those of the project, the patched module, the system modules,
and those the dependencies provide. -/
def knownList (p : ModulePatch) (r s : Resolution) (projectModules : List String) : List String :=
  projectModules ++ p.moduleName.toList.filter (!·.isEmpty) ++ r.systemModules ++
    r.dependencies.flatMap s.provided

/-- The modules the dependencies provide, when their modules are known: they are read off the
resolution, which learns nothing a later question would see, and the host is left as it was. -/
theorem providedModules_spec (deps : List Dependency) (s₀ : Resolution) (h₀ : Host)
    (hknows : ∀ d ∈ deps, s₀.Knows d) :
    ⦃fun s h => ⌜s = s₀ ∧ h = h₀⌝⦄ providedModules deps
    ⦃⇓ ms s h => ⌜ms = deps.flatMap s₀.provided ∧ s.Extends s₀ ∧ h = h₀⌝⦄ := by
  mvcgen [providedModules, Resolution.moduleName_spec, Resolution.descriptor_spec] invariants
  · ⇓ st s h => ⌜st.2 = List.flatMap s₀.provided ( List.Cursor.prefix st.1) ∧ s.Extends s₀ ∧ h = h₀⌝
  -- nothing is provided before the first dependency
  case vc7 =>
    rename_i _ _ _ hpre
    obtain ⟨rfl, rfl⟩ := hpre
    exact ⟨rfl, Resolution.Extends.refl _, rfl⟩
  -- the dependency is known, also to the resolution as it has grown
  case vc1 =>
    rename_i pref cur suff hdeps _ _ _ hinv
    exact hinv.2.1.knows (hknows cur (by simp [hdeps]))
  case vc2 =>
    rename_i pref cur suff hdeps _ _ _ hinv _ _ _ _ _ _ _ hname
    exact (hname.2.1.trans hinv.2.1).knows (hknows cur (by simp [hdeps]))
  -- a named module with its descriptor: the module and those it requires
  case vc3 =>
    rename_i pref cur suff hdeps b _ _ hinv _ m _ hne _ _ _ hname _ desc _ _ _ _ hdesc
    obtain ⟨rfl, hext₁, rfl⟩ := hinv
    obtain ⟨hn, hext₂, rfl⟩ := hname
    obtain ⟨hd, hext₃, rfl⟩ := hdesc
    rw [hext₁.knownName_eq] at hn
    rw [(hext₂.trans hext₁).knownDescriptor_eq] at hd
    refine ⟨?_, hext₃.trans (hext₂.trans hext₁), rfl⟩
    simp only [List.flatMap_append, List.flatMap_cons, List.flatMap_nil, List.append_nil,
      Resolution.provided_of_named hn.symm (by simpa using hne), ← hd]
    simp +zetaDelta
  -- a named module without descriptor: the module alone
  case vc4 =>
    rename_i pref cur suff hdeps b _ _ hinv _ m _ hne _ _ _ hname _ dd hnot hdd _ _ hdesc
    obtain ⟨rfl, hext₁, rfl⟩ := hinv
    obtain ⟨hn, hext₂, rfl⟩ := hname
    obtain ⟨hd, hext₃, rfl⟩ := hdesc
    rw [hext₁.knownName_eq] at hn
    rw [(hext₂.trans hext₁).knownDescriptor_eq] at hd
    have hnone : s₀.knownDescriptor cur = none :=
      hd ▸ Option.eq_none_iff_forall_ne_some.mpr hnot
    refine ⟨?_, hext₃.trans (hext₂.trans hext₁), rfl⟩
    simp only [List.flatMap_append, List.flatMap_cons, List.flatMap_nil, List.append_nil,
      Resolution.provided_of_named hn.symm (by simpa using hne), hnone]
    simp +zetaDelta
  -- a module with an empty name provides nothing
  case vc5 =>
    rename_i pref cur suff hdeps b _ _ hinv _ m _ he _ _ hname
    obtain ⟨rfl, hext₁, rfl⟩ := hinv
    obtain ⟨hn, hext₂, rfl⟩ := hname
    rw [hext₁.knownName_eq] at hn
    refine ⟨?_, hext₂.trans hext₁, rfl⟩
    simp [Resolution.provided_of_empty hn.symm (by simpa using he)]
  -- an unnamed module provides nothing
  case vc6 =>
    rename_i pref cur suff hdeps b _ _ hinv _ nn hnot hnn _ _ hname
    obtain ⟨rfl, hext₁, rfl⟩ := hinv
    obtain ⟨hn, hext₂, rfl⟩ := hname
    rw [hext₁.knownName_eq] at hn
    have hnone : s₀.knownName cur = none := hn ▸ Option.eq_none_iff_forall_ne_some.mpr hnot
    refine ⟨?_, hext₂.trans hext₁, rfl⟩
    simp [Resolution.provided_of_unnamed hnone]

/-- The modules known to a patch are `knownList`, read without the host. -/
theorem knownModules_spec (p : ModulePatch) (resolution : Option Resolution) (pm : List String)
    (s₀ : Resolution) (h₀ : Host) (hknows : ∀ d ∈ (resolution.getD {}).dependencies, s₀.Knows d) :
    ⦃fun s h => ⌜s = s₀ ∧ h = h₀⌝⦄ knownModules p resolution pm
    ⦃⇓ known s h => ⌜known = knownList p (resolution.getD {}) s₀ pm ∧ s.Extends s₀ ∧ h = h₀⌝⦄ := by
  -- without dependencies there is nothing to read
  cases resolution with
  | none =>
    mvcgen [knownModules]
    all_goals simp_all +zetaDelta [knownList]
  | some r =>
    mvcgen [knownModules, providedModules_spec]
    all_goals simp_all +zetaDelta [knownList]

/-- The check of the modules a patch names passes when it may name all of them, and otherwise fails
at the first it may not name; it changes nothing. -/
theorem checkReferences_spec (p : ModulePatch) (shared : SharedModules) (known : List String)
    (s₀ : Resolution) (h₀ : Host) :
    ⦃fun s h => ⌜s = s₀ ∧ h = h₀⌝⦄ checkReferences p shared known
    ⦃post⟨fun _ s h => ⌜s = s₀ ∧ h = h₀ ∧ ∀ m ∈ declaredModules shared p, mayName known m = true⌝,
      fun e h => ⌜h = h₀ ∧ ∃ pre m post, declaredModules shared p = pre ++ m :: post ∧
        (∀ m' ∈ pre, mayName known m' = true) ∧ mayName known m = false ∧
        e = unknownModule p m⌝⟩⦄ := by
  mvcgen [checkReferences] invariants
  · post⟨fun ⟨xs, _⟩ s h => ⌜s = s₀ ∧ h = h₀ ∧ ∀ m ∈ xs.prefix, mayName known m = true⌝,
      fun e h => ⌜h = h₀ ∧ ∃ pre m post, declaredModules shared p = pre ++ m :: post ∧
        (∀ m' ∈ pre, mayName known m' = true) ∧ mayName known m = false ∧
        e = unknownModule p m⌝⟩
  -- a module the patch may name extends the prefix checked
  case vc1 =>
    rename_i _ cur _ _ _ hcur _ _ hinv
    obtain ⟨rfl, rfl, hpre⟩ := hinv
    refine ⟨rfl, rfl, fun m hm => ?_⟩
    rcases List.mem_append.mp hm with hm | hm
    · exact hpre m hm
    · exact (List.mem_singleton.mp hm) ▸ hcur
  -- the first module it may not name ends the check
  case vc2 =>
    rename_i pref cur suff hdecl _ hcur _ _ hinv
    obtain ⟨rfl, rfl, hpre⟩ := hinv
    exact ⟨rfl, pref, cur, suff, hdecl, hpre, by simpa using hcur, rfl⟩
  case vc3 =>
    rename_i hpre
    exact ⟨hpre.1, hpre.2, fun m hm => absurd hm List.not_mem_nil⟩

/-- Resolving a patch without simplification, as a triple: it returns the expanded options when the
check passes, and fails at the first module refused otherwise, with the host left as it was. -/
theorem resolve_spec (p : ModulePatch) (shared : SharedModules) (resolution : Option Resolution)
    (pm : List String) (s₀ : Resolution) (h₀ : Host)
    (hknows : ∀ d ∈ (resolution.getD {}).dependencies, s₀.Knows d)
    (hkeys : (Assoc.keys p.addExports).Nodup) :
    ⦃fun s h => ⌜s = s₀ ∧ h = h₀⌝⦄ p.resolve shared resolution pm false
    ⦃post⟨fun o _ h => ⌜h = h₀ ∧
        (∀ m ∈ declaredModules shared p, mayName (knownList p (resolution.getD {}) s₀ pm) m = true) ∧
        o = ⟨p.moduleName,
          expanded p shared pm (s₀.testModules (resolution.getD {}).dependencies false)
            (s₀.testUnnamed (resolution.getD {}).dependencies false),
          expanded p shared pm (s₀.testModules (resolution.getD {}).dependencies true)
            (s₀.testUnnamed (resolution.getD {}).dependencies true)⟩⌝,
      fun e h => ⌜h = h₀ ∧ ∃ pre m post, declaredModules shared p = pre ++ m :: post ∧
        (∀ m' ∈ pre, mayName (knownList p (resolution.getD {}) s₀ pm) m' = true) ∧
        mayName (knownList p (resolution.getD {}) s₀ pm) m = false ∧ e = unknownModule p m⌝⟩⦄ := by
  have hexp := fun tests unnamed b => addTests_expandSubprojects p shared pm tests unnamed b hkeys
  have hpkeys := keys_stage_expandSubprojects p shared pm hkeys
  cases resolution with
  | none =>
    mvcgen [ModulePatch.resolve, knownModules_spec, checkReferences_spec]
    case vc1 =>
      rename_i hpre
      exact hpre.1 ▸ hknows
    -- without dependencies the test module path stands for nothing
    case vc2 =>
      rename_i s₁ h₁ hpre known _ s₂ h₂ hknown _ s₃ h₃ hcheck
      obtain ⟨hs₁, hh₁⟩ := hpre
      obtain ⟨hk, -, hh₂⟩ := hknown
      obtain ⟨-, hh₃, hnames⟩ := hcheck
      subst s₁ h₁ h₂ h₃ known
      refine ⟨rfl, hnames, ?_⟩
      have hb := fun b => hexp [] false b
      simp only [Directives.addTests_nil, Bool.false_eq_true, ↓reduceIte] at hb
      congr 1
      · exact (hb false).trans (by simp [Resolution.testModules, Resolution.testUnnamed])
      · exact (hb true).trans (by simp [Resolution.testModules, Resolution.testUnnamed])
    case vc3 =>
      rename_i s₁ h₁ hpre known _ s₂ h₂ hknown _ h₃
      intro hh₃ hfail
      obtain ⟨hs₁, hh₁⟩ := hpre
      obtain ⟨hk, -, hh₂⟩ := hknown
      subst s₁ h₁ h₂ h₃ known
      exact ⟨rfl, hfail⟩
  | some r =>
    mvcgen [ModulePatch.resolve, knownModules_spec, expandTestPath_spec, checkReferences_spec]
    case vc1 =>
      rename_i hpre
      exact hpre.1 ▸ hknows
    case vc2 =>
      rename_i hpre _ _ _ _ _ _ hknown
      intro d hd
      exact hknown.2.1.knows (hpre.1 ▸ hknows d hd)
    case vc3 =>
      intro b
      rw [hpkeys b]
      exact hkeys
    case vc4 =>
      intro b x hx _
      rw [hpkeys b]
      exact List.mem_map_of_mem hx
    -- the test module path expanded over the dependencies
    case vc5 =>
      rename_i s₁ h₁ hpre known _ _ _ s₂ h₂ hknown e s₃ h₃ hexpand _ s₄ h₄ hcheck
      obtain ⟨hs₁, hh₁⟩ := hpre
      obtain ⟨hk, hext, hh₂⟩ := hknown
      obtain ⟨hstage, -, hh₃⟩ := hexpand
      obtain ⟨-, hh₄, hnames⟩ := hcheck
      subst s₁ h₁ h₂ h₃ h₄ known
      refine ⟨rfl, hnames, ?_⟩
      have hext : s₂.Extends s₀ := hext
      have hb : ∀ b, e.stage b = expanded p shared pm (s₀.testModules r.dependencies b)
          (s₀.testUnnamed r.dependencies b) := by
        intro b
        rw [hstage b, hext.testModules_eq, hext.testUnnamed_eq, hexp]
      exact congrArg₂ (Options.mk p.moduleName) (hb false) (hb true)
    case vc6 =>
      rename_i s₁ h₁ hpre known _ _ _ s₂ h₂ hknown _ s₃ h₃ hexpand _ h₄
      intro hh₄ hfail
      obtain ⟨hs₁, hh₁⟩ := hpre
      obtain ⟨hk, -, hh₂⟩ := hknown
      obtain ⟨-, -, hh₃⟩ := hexpand
      subst s₁ h₁ h₂ h₃ h₄ known
      exact ⟨rfl, hfail⟩
    -- no list names the test module path: nothing to expand
    case vc7 =>
      rename_i s₁ h₁ hpre known _ _ hcond s₂ h₂ hknown _ s₃ h₃ hcheck
      obtain ⟨hs₁, hh₁⟩ := hpre
      obtain ⟨hk, -, hh₂⟩ := hknown
      obtain ⟨-, hh₃, hnames⟩ := hcheck
      subst s₁ h₁ h₂ h₃ known
      refine ⟨rfl, hnames, ?_⟩
      simp only [Bool.or_eq_true, not_or, Bool.not_eq_true] at hcond
      obtain ⟨⟨hA, hR⟩, hX⟩ := hcond
      have hX : (p.addExports.any fun x => x.2.contains testModulePath) = false := hX
      have hnil : (p.addExports.filter fun x => x.2.contains testModulePath).map (·.1) = [] := by
        simpa [List.any_eq_false] using hX
      have hb := fun b => hexp (s₀.testModules r.dependencies b) (s₀.testUnnamed r.dependencies b) b
      simp only [hA, hR, hnil, Directives.addTests_none] at hb
      exact congrArg₂ (Options.mk p.moduleName) (hb false) (hb true)
    case vc8 =>
      rename_i s₁ h₁ hpre known _ _ _ s₂ h₂ hknown _ h₃
      intro hh₃ hfail
      obtain ⟨hs₁, hh₁⟩ := hpre
      obtain ⟨hk, -, hh₂⟩ := hknown
      subst s₁ h₁ h₂ h₃ known
      exact ⟨rfl, hfail⟩

/-- A module that a patch may name when the modules of the dependencies are known without reading
artifacts: a placeholder, a module of the project, the patched module, a system module, the
module of a dependency or a module its descriptor requires, or a `java.*` or `jdk.*` module. A
dependency whose module has no name, or an empty one, provides nothing, and neither does an empty
name of the patched module. -/
def Nameable (p : ModulePatch) (r s : Resolution) (pm : List String) (m : String) : Prop :=
  m ∈ placeholders ∨ m ∈ pm ∨ (p.moduleName = some m ∧ m ≠ "") ∨ m ∈ r.systemModules ∨
    (∃ d ∈ r.dependencies, ∃ n, s.knownName d = some n ∧ n ≠ "" ∧
      (m = n ∨ ∃ desc, s.knownDescriptor d = some desc ∧ m ∈ Assoc.keys desc.requires)) ∨
    m.startsWith "java." = true ∨ m.startsWith "jdk." = true

theorem mem_provided {s : Resolution} {d : Dependency} {m : String} :
    m ∈ s.provided d ↔ ∃ n, s.knownName d = some n ∧ n ≠ "" ∧
      (m = n ∨ ∃ desc, s.knownDescriptor d = some desc ∧ m ∈ Assoc.keys desc.requires) := by
  unfold Resolution.provided
  cases hn : s.knownName d with
  | none => simp
  | some n =>
    cases hd : s.knownDescriptor d <;> by_cases he : n = "" <;> simp [he, String.isEmpty_iff]

/-- The check of the modules named accepts exactly the modules a patch may name. -/
theorem mayName_knownList_iff (p : ModulePatch) (r s : Resolution) (pm : List String) (m : String) :
    mayName (knownList p r s pm) m = true ↔ Nameable p r s pm m := by
  have hpatched : m ∈ p.moduleName.toList.filter (!·.isEmpty) ↔ p.moduleName = some m ∧ m ≠ "" := by
    cases p.moduleName with
    | none => simp
    | some n =>
      simp only [Option.toList_some, List.filter_cons, List.filter_nil, Option.some.injEq]
      constructor
      · intro h
        by_cases hn : n.isEmpty <;> simp_all [String.isEmpty_iff]
      · rintro ⟨rfl, hm⟩
        simp [hm]
  simp only [mayName, knownList, Nameable, Bool.or_eq_true, List.contains_iff_mem, List.mem_append,
    List.mem_flatMap, mem_provided, hpatched, or_assoc]

/-- The first module that the check refuses is where the check fails. -/
theorem find?_not_mayName {known ds pre post : List String} {m : String}
    (hds : ds = pre ++ m :: post) (hpre : ∀ m' ∈ pre, mayName known m' = true)
    (hm : mayName known m = false) : ds.find? (fun m => !mayName known m) = some m :=
  List.find?_eq_some_iff_append.mpr ⟨by simp [hm], pre, post, hds, fun x hx => by simp [hpre x hx]⟩

/-- Resolving a patch without simplification, when the modules of its dependencies are known
without reading artifacts and the patch exports each package once. If every module the patch
names may be named, it gives at each stage the declared options with the placeholders expanded
(`expanded`) over the modules of the test dependencies that the stage sees and whether one of
them is in the unnamed module, and leaves the host as it was. Otherwise it fails with the error
of the first module named that may not be, and leaves the host as it was. -/
theorem resolve_unsimplified_eq_expanded (p : ModulePatch) (shared : SharedModules)
    (resolution : Option Resolution) (pm : List String) (s : Resolution) (h : Host)
    (hknows : ∀ d ∈ (resolution.getD {}).dependencies, s.Knows d)
    (hkeys : (Assoc.keys p.addExports).Nodup) :
    let r := resolution.getD {}
    ((∀ m ∈ declaredModules shared p, Nameable p r s pm m) →
      ∃ s', ((p.resolve shared resolution pm false).run s).run.run h =
        (.ok (⟨p.moduleName,
          expanded p shared pm (s.testModules r.dependencies false)
            (s.testUnnamed r.dependencies false),
          expanded p shared pm (s.testModules r.dependencies true)
            (s.testUnnamed r.dependencies true)⟩, s'), h)) ∧
    (∀ pre m post, declaredModules shared p = pre ++ m :: post →
      (∀ m' ∈ pre, Nameable p r s pm m') → ¬ Nameable p r s pm m →
      ((p.resolve shared resolution pm false).run s).run.run h = (.error (unknownModule p m), h)) := by
  intro r
  have hspec := resolve_spec p shared resolution pm s h hknows hkeys
  have hname := fun m => mayName_knownList_iff p (resolution.getD {}) s pm m
  constructor
  · intro hall
    rcases hrun : ((p.resolve shared resolution pm false).run s).run.run h with
      ⟨_ | ⟨o, s'⟩, h'⟩
    · -- a failure would name a module that may not be named
      obtain ⟨-, pre, m, post, hdecl, -, hbad, -⟩ := ResolveM.error_of_triple hspec ⟨rfl, rfl⟩ hrun
      have hgood := (hname m).mpr (hall m (by simp [hdecl]))
      simp [hgood] at hbad
    · obtain ⟨rfl, -, rfl⟩ := ResolveM.ok_of_triple hspec ⟨rfl, rfl⟩ hrun
      exact ⟨s', rfl⟩
  · intro pre m post hdecl hpre hm
    have hbad : mayName (knownList p (resolution.getD {}) s pm) m = false :=
      Bool.eq_false_iff.mpr fun hgood => hm ((hname m).mp hgood)
    rcases hrun : ((p.resolve shared resolution pm false).run s).run.run h with
      ⟨_ | ⟨o, s'⟩, h'⟩
    · -- the failure is at the first module that may not be named, which is `m`
      obtain ⟨rfl, pre', m', post', hdecl', hpre', hbad', rfl⟩ :=
        ResolveM.error_of_triple hspec ⟨rfl, rfl⟩ hrun
      have hfirst := find?_not_mayName hdecl (fun x hx => (hname x).mpr (hpre x hx)) hbad
      rw [find?_not_mayName hdecl' hpre' hbad'] at hfirst
      rw [Option.some.inj hfirst]
    · obtain ⟨-, hall, -⟩ := ResolveM.ok_of_triple hspec ⟨rfl, rfl⟩ hrun
      simp [hall m (by simp [hdecl])] at hbad

/-- A patch of `org.foo` that reads the test module path and exports a package to it and to the
other modules of the project. -/
def testReadingPatch : ModulePatch :=
  { moduleName := some "org.foo", addReads := [testModulePath],
    addExports := [("org.foo.internal", [testModulePath, subprojectModules])] }

/-- Test dependencies: `org.junit` at both stages, `org.mock` at compile time only, and an
artifact at run time that was read before and is in the unnamed module. -/
def testResolution : Resolution :=
  { dependencies :=
      [{ group := "g", artifact := "junit", version := "1", scope := .test, path := "junit.jar",
         moduleName := some "org.junit" },
       { group := "g", artifact := "mock", version := "1", scope := .testOnly, path := "mock.jar",
         moduleName := some "org.mock" },
       { group := "g", artifact := "util", version := "1", scope := .testRuntime,
         path := "util.jar" }],
    read := [("util.jar", none)] }

/-- The test dependencies of `testResolution` are known, and `testReadingPatch` exports one
package, so resolving it is described by `resolve_unsimplified_eq_expanded`. -/
theorem resolve_unsimplified_eq_expanded_of_test_dependencies :
    (∀ d ∈ testResolution.dependencies, testResolution.Knows d) ∧
    (Assoc.keys testReadingPatch.addExports).Nodup ∧
    let r := (some testResolution).getD {}
    ((∀ m ∈ declaredModules {} testReadingPatch, Nameable testReadingPatch r testResolution ["org.bar"] m) →
      ∃ s', ((testReadingPatch.resolve {} (some testResolution) ["org.bar"] false).run
          testResolution).run.run default =
        (.ok (⟨testReadingPatch.moduleName,
          expanded testReadingPatch {} ["org.bar"] (testResolution.testModules r.dependencies false)
            (testResolution.testUnnamed r.dependencies false),
          expanded testReadingPatch {} ["org.bar"] (testResolution.testModules r.dependencies true)
            (testResolution.testUnnamed r.dependencies true)⟩, s'), default)) ∧
    (∀ pre m post, declaredModules {} testReadingPatch = pre ++ m :: post →
      (∀ m' ∈ pre, Nameable testReadingPatch r testResolution ["org.bar"] m') →
      ¬ Nameable testReadingPatch r testResolution ["org.bar"] m →
      ((testReadingPatch.resolve {} (some testResolution) ["org.bar"] false).run
          testResolution).run.run default = (.error (unknownModule testReadingPatch m), default)) := by
  have hknows : ∀ d ∈ testResolution.dependencies, testResolution.Knows d := by
    intro d hd
    simp only [testResolution, List.mem_cons, List.not_mem_nil, or_false] at hd
    rcases hd with rfl | rfl | rfl <;> decide
  have hkeys : (Assoc.keys testReadingPatch.addExports).Nodup := by decide
  exact ⟨hknows, hkeys, resolve_unsimplified_eq_expanded testReadingPatch {} (some testResolution)
    ["org.bar"] testResolution default hknows hkeys⟩

/-- A patch of `org.foo` that reads `org.x`. -/
def readingPatch : ModulePatch := { moduleName := some "org.foo", addReads := ["org.x"] }

/-- The descriptor of a module with an empty name that requires `org.x`. -/
def namelessRequirer : Descriptor := { name := "", requires := [("org.x", [])] }

/-- A test dependency described by `namelessRequirer`. -/
def namelessDependency : Dependency :=
  { group := "g", artifact := "a", version := "1.0", scope := .test, path := "lib/none.jar",
    descriptor := some namelessRequirer }

/-- The resolution of `namelessDependency` alone. -/
def namelessResolution : Resolution := { dependencies := [namelessDependency] }

/-- A dependency whose module has an empty name provides nothing, not even the modules its
descriptor requires: a patch that reads such a module is refused. -/
theorem resolve_refuses_requirement_of_nameless_module :
    "org.x" ∈ Assoc.keys namelessRequirer.requires ∧
      ((readingPatch.resolve {} (some namelessResolution) [] false).run namelessResolution).run.run
        default = (.error (unknownModule readingPatch "org.x"), default) := by
  refine ⟨by decide, ?_⟩
  have hspec := resolve_spec readingPatch {} (some namelessResolution) [] namelessResolution default
    (by decide) (by decide)
  -- the patched module is the only module known
  have hknown : knownList readingPatch namelessResolution namelessResolution [] = ["org.foo"] := by
    decide +kernel
  have hdecl : declaredModules {} readingPatch = ["org.x"] := rfl
  rcases hrun : ((readingPatch.resolve {} (some namelessResolution) [] false).run
      namelessResolution).run.run default with ⟨_ | ⟨o, s'⟩, h'⟩
  · obtain ⟨rfl, pre, m, post, hsplit, -, -, rfl⟩ := ResolveM.error_of_triple hspec ⟨rfl, rfl⟩ hrun
    rw [hdecl] at hsplit
    cases pre with
    | nil => cases hsplit; rfl
    | cons x pre => simp at hsplit
  · obtain ⟨-, hall, -⟩ := ResolveM.ok_of_triple hspec ⟨rfl, rfl⟩ hrun
    have hx := hall "org.x" (by simp [hdecl])
    simp only [Option.getD_some, hknown] at hx
    exact absurd hx (by decide +kernel)

end Patch

end JavaBuild
