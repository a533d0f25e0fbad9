import JavaBuild.Change.Tracker
import JavaBuild.Proofs.Host
import JavaBuild.Proofs.Files.Move

/-!
# Deleting the class files of a removed source

When a source is removed, `deleteClassFiles` deletes the class files compiled from it. It does
not know them: it takes them by name. For a module declaration that is the module's class; for
any other source it is, in the directory of the source's class, `n.class` and every
`n$….class` there, for `n` the stem of the file and each type the scan found in it.

Whatever the outcome, the host after the deletion is the host before with some of those files
erased and nothing else changed (`deleteClassFiles_erases_only_class_files`), and a file that is
none of them keeps its entry (`deleteClassFiles_keeps_other_files`).

The scan finds nested and local types too, and a nested type is compiled to `Outer$Inner.class`,
not `Inner.class`. So a source declaring a nested type that another source of the same package
declares at top level takes that source's class with it when it is removed
(`removing_outer_deletes_class_of_other_source`).
-/

set_option mvcgen.warning false

namespace JavaBuild

open Std.Do

/-- The host with the entry at a path, and everything inside it, erased. -/
def Host.erasePath (h : Host) (c : String) : Host :=
  { h with disk := h.disk.erase (Path.absolute h.cwd c) }

@[simp] theorem Host.erasePath_cwd (h : Host) (c : String) : (h.erasePath c).cwd = h.cwd := rfl

/-- Erasing a path leaves every path that is not it and not inside it as it was. -/
theorem Disk.find?_erase_of_apart {d : Disk} {p q : String} (hne : q ≠ p)
    (hin : Disk.isInside p q = false) : (d.erase p).find? q = d.find? q := by
  unfold Disk.find? Disk.erase
  split
  · rfl
  · refine Disk.lookup_filter_of_forall fun e _ he => ?_
    subst he
    simp [hne, hin]

/-- A series of erasures leaves every path apart from all of them as it was. -/
theorem Host.find?_foldl_erasePath {q : String} :
    ∀ (cs : List String) (h : Host),
      (∀ c ∈ cs, Path.absolute h.cwd c ≠ q ∧ Disk.isInside (Path.absolute h.cwd c) q = false) →
      (cs.foldl Host.erasePath h).disk.find? q = h.disk.find? q
  | [], _, _ => rfl
  | c :: cs, h, hapart => by
    have hc := hapart c List.mem_cons_self
    have hrest : ∀ c' ∈ cs, Path.absolute (h.erasePath c).cwd c' ≠ q ∧
        Disk.isInside (Path.absolute (h.erasePath c).cwd c') q = false := fun c' hc' =>
      hapart c' (List.mem_cons_of_mem _ hc')
    rw [List.foldl_cons, Host.find?_foldl_erasePath cs _ hrest]
    exact Disk.find?_erase_of_apart (Ne.symm hc.1) hc.2

/-- A removal that succeeds erases the entry. -/
theorem Disk.removeFile_eq_ok {d d' : Disk} {p : String} (h : d.removeFile p = .ok d') :
    d' = d.erase p := by
  unfold Disk.removeFile at h
  cases hl : d.lookup p with
  | error e => simp [hl, bind, Except.bind] at h
  | ok e =>
    cases e <;>
      simp [hl, bind, Except.bind, pure, Except.pure, throw, throwThe, MonadExceptOf.throw] at h
    exact h.symm

namespace HostM

/-- Deleting a file erases it when it says so, and otherwise, failing or not, changes nothing. -/
theorem deleteFile_spec (c : String) (h₀ : Host) :
    ⦃fun h => ⌜h = h₀⌝⦄ deleteFile c
    ⦃post⟨fun b h => ⌜h = if b then h₀.erasePath c else h₀⌝, fun _ h => ⌜h = h₀⌝⟩⦄ := by
  mvcgen [deleteFile, removeFile, change, onDisk, checkWritable]
  rename_i hh _ _ _ _ hremove _
  subst hh
  obtain rfl := Disk.removeFile_eq_ok hremove
  rfl

/-- Listing a directory changes nothing. -/
theorem entryNames_spec (dir : String) (h₀ : Host) :
    ⦃fun h => ⌜h = h₀⌝⦄ entryNames dir
    ⦃post⟨fun _ h => ⌜h = h₀⌝, fun _ h => ⌜h = h₀⌝⟩⦄ := by
  mvcgen [entryNames, checkWritable]

end HostM

namespace Change

/-! ## The class files of a source -/

/-- The names under which the class files of the source `path` are looked for: the stem of its
file and each type its scan found. -/
def NamedIn (path : String) (st : FileStatus) (n : String) : Prop :=
  n = Path.stem path ∨ ∃ s, st.symbols = some s ∧ Json.str n ∈ s.types

/-- The class files of the name `n` in the directory `dir`: `n.class` and `n$….class`. -/
def IsClassOf (dir n c : String) : Prop :=
  c = Path.join dir (n ++ ".class") ∨
    ∃ e, c = Path.join dir e ∧ e.startsWith (n ++ "$") = true ∧ e.endsWith ".class" = true

/-- The class files that removing the source `path` may delete: the module's class for a module
declaration, else the class files of one of its names in the directory of its class. -/
def ClassFileOf (path : String) (st : FileStatus) (c : String) : Prop :=
  if Path.fileName path = moduleSource then c = Path.join st.output moduleClass
  else ∃ file, st.classFile path = .ok file ∧ ∃ n, NamedIn path st n ∧
    IsClassOf (Path.parent file) n c

/-- A name kept once by the fold of `classNames` was among the first names or the types. -/
theorem mem_foldl_keepNew {ts init : List Json} {n : Json}
    (h : n ∈ ts.foldl (fun names t => if names.any (Stored.same t) then names
      else names ++ [t]) init) : n ∈ init ∨ n ∈ ts := by
  induction ts generalizing init with
  | nil => exact .inl h
  | cons t ts ih =>
    rcases ih h with hinit | hts
    · dsimp only at hinit
      split at hinit
      · exact .inl hinit
      · rcases List.mem_append.mp hinit with hinit | ht
        · exact .inl hinit
        · exact .inr (by simp_all)
    · exact .inr (List.mem_cons_of_mem _ hts)

theorem namedIn_of_mem_classNames {path : String} {st : FileStatus} {n : String}
    (h : Json.str n ∈ classNames path st) : NamedIn path st n := by
  unfold classNames at h
  split at h
  · rename_i s hs
    rcases mem_foldl_keepNew h with h | h
    · exact .inl (by simpa using h)
    · exact .inr ⟨s, hs, h⟩
  · exact .inl (by simpa using h)

/-- Only a text has `.class` appended. -/
theorem Stored.plusText_eq_ok {j : Json} {suffix file : String}
    (h : Stored.plusText j suffix = .ok file) : ∃ n, j = .str n ∧ file = n ++ suffix := by
  unfold Stored.plusText at h
  split at h
  · exact ⟨_, rfl, (Except.ok.inj h).symm⟩
  all_goals cases h

theorem isClassOf_of_mem_nested {dir n c : String} {inside : List String}
    (h : c ∈ (inside.filter fun e => e.startsWith (n ++ "$") && e.endsWith ".class" &&
      decide (e.length ≥ n.length + 7)).map (Path.join dir ·)) : IsClassOf dir n c := by
  obtain ⟨e, he, rfl⟩ := List.mem_map.mp h
  simp only [List.mem_filter, Bool.and_eq_true, decide_eq_true_eq] at he
  exact .inr ⟨e, rfl, he.2.1.1, he.2.1.2⟩

/-- The candidates are class files of the source, found without changing the host. -/
theorem classFileCandidates_spec (path : String) (st : FileStatus) (h₀ : Host) :
    ⦃fun h => ⌜h = h₀⌝⦄ classFileCandidates path st
    ⦃post⟨fun cs h => ⌜h = h₀ ∧ ∀ c ∈ cs, ClassFileOf path st c⌝, fun _ h => ⌜h = h₀⌝⟩⦄ := by
  mvcgen -trivial [classFileCandidates, liftFault, HostM.entryNames_spec] invariants
  · post⟨fun ⟨_, found⟩ h => ⌜h = h₀ ∧ ∀ c ∈ found, ClassFileOf path st c⌝, fun _ h => ⌜h = h₀⌝⟩
  -- a module declaration has the module's class only
  case vc1 =>
    rename_i hmod _ hh
    refine ⟨hh, fun c hc => ?_⟩
    rw [List.mem_singleton.mp hc, ClassFileOf, if_pos (by simpa using hmod)]
  -- each name adds its class and the nested classes found beside it
  case vc2 =>
    rename_i hmod _ _ file hfile _ _ _ _ _ _ cur _ hcur found _ hinv _ hplus _ _
    obtain ⟨rfl, hfound⟩ := hinv
    obtain ⟨n, rfl, rfl⟩ := Stored.plusText_eq_ok hplus
    have hnamed : NamedIn path st n := namedIn_of_mem_classNames (by rw [hcur]; simp)
    refine ⟨rfl, fun c hc => ?_⟩
    rcases List.mem_append.mp hc with hc | hc
    · exact hfound c hc
    · have hmod' : Path.fileName path ≠ moduleSource := by simpa using hmod
      rw [ClassFileOf, if_neg hmod']
      refine ⟨file, hfile, n, hnamed, ?_⟩
      rcases List.mem_cons.mp hc with rfl | hc
      · exact .inl rfl
      · exact isClassOf_of_mem_nested hc
  case vc4 => exact ⟨by simp_all, fun c hc => absurd hc List.not_mem_nil⟩
  case vc5 => assumption
  all_goals simp_all

/-- The files deleted are some of those asked for, in order, and the host loses exactly them,
also when a deletion fails. -/
theorem deleteFiles_spec (cs : List String) (h₀ : Host) :
    ⦃fun h => ⌜h = h₀⌝⦄ deleteFiles cs
    ⦃post⟨fun ds h => ⌜h = ds.foldl Host.erasePath h₀ ∧ ds.Sublist cs⌝,
      fun _ h => ⌜∃ ds : List String, h = ds.foldl Host.erasePath h₀ ∧ ds.Sublist cs⌝⟩⦄ := by
  mvcgen [deleteFiles, HostM.deleteFile_spec] invariants
  · post⟨fun ⟨xs, deleted⟩ h => ⌜h = deleted.foldl Host.erasePath h₀ ∧
        deleted.Sublist xs.prefix⌝,
      fun _ h => ⌜∃ ds : List String, h = ds.foldl Host.erasePath h₀ ∧ ds.Sublist cs⌝⟩
  -- a file deleted: the host loses it, and the list gains it
  case vc1 =>
    rename_i cur _ _ ds _ hinv _ hr _ _ hstep
    obtain ⟨rfl, hsub⟩ := hinv
    simp only [hr, ↓reduceIte] at hstep
    subst hstep
    show _ = List.foldl Host.erasePath h₀ (ds ++ [cur]) ∧ (ds ++ [cur]).Sublist _
    exact ⟨by rw [List.foldl_append]; rfl, hsub.append (List.Sublist.refl _)⟩
  -- no file there: nothing changes
  case vc2 =>
    rename_i ds _ hinv _ hr _ hstep
    obtain ⟨rfl, hsub⟩ := hinv
    simp only [hr] at hstep
    exact ⟨hstep, hsub.trans (List.sublist_append_left _ _)⟩
  -- a failure keeps the deletions made so far
  case vc3 =>
    rename_i hcs ds _ hinv _
    intro h hh
    subst hcs
    exact ⟨ds, hh ▸ hinv.1, hinv.2.trans (List.sublist_append_left _ _)⟩

/-- Removing a source erases some of its class files, in every outcome, and nothing else. -/
theorem deleteClassFiles_spec (path : String) (st : FileStatus) (h₀ : Host) :
    ⦃fun h => ⌜h = h₀⌝⦄ deleteClassFiles path st
    ⦃post⟨fun ds h => ⌜h = ds.foldl Host.erasePath h₀ ∧ ∀ c ∈ ds, ClassFileOf path st c⌝,
      fun _ h => ⌜∃ ds : List String, h = ds.foldl Host.erasePath h₀ ∧
        ∀ c ∈ ds, ClassFileOf path st c⌝⟩⦄ := by
  mvcgen [deleteClassFiles, classFileCandidates_spec, deleteFiles_spec]
  -- the files deleted are among the candidates, each a class file of the source
  case vc1 =>
    rename_i h0 _ _ hcands ds _
    obtain ⟨rfl, hcands⟩ := hcands
    rintro rfl hsub
    exact ⟨by rw [h0], fun c hc => hcands c (hsub.subset hc)⟩
  case vc2 =>
    rename_i h0 _ _ hcands _ _
    obtain ⟨rfl, hcands⟩ := hcands
    rintro ⟨ds, rfl, hsub⟩
    exact ⟨ds, by rw [h0], fun c hc => hcands c (hsub.subset hc)⟩
  -- listing the candidates fails: nothing deleted
  case vc3 =>
    rename_i h0 _ _
    rintro rfl
    exact ⟨[], h0, fun c hc => absurd hc List.not_mem_nil⟩

/-- Removing a source, whatever the outcome, changes the host only by erasing some of its class
files: those it gives back when it returns. -/
theorem deleteClassFiles_erases_only_class_files (path : String) (st : FileStatus) (h : Host) :
    ∃ ds, (∀ c ∈ ds, ClassFileOf path st c) ∧
      ((deleteClassFiles path st).run.run h).2 = ds.foldl Host.erasePath h ∧
      ∀ deleted, ((deleteClassFiles path st).run.run h).1 = .ok deleted → deleted = ds := by
  have hwp := deleteClassFiles_spec path st h h rfl
  rw [wp_apply] at hwp
  split at hwp
  · rename_i deleted h' hrun
    obtain ⟨hh', hclass⟩ := hwp
    refine ⟨deleted, hclass, by rw [hrun, hh'], fun ds hds => ?_⟩
    rw [hrun] at hds
    exact (Except.ok.inj hds).symm
  · rename_i e h' hrun
    obtain ⟨ds, hh', hclass⟩ := hwp
    refine ⟨ds, hclass, by rw [hrun, hh'], fun deleted hds => ?_⟩
    rw [hrun] at hds
    cases hds

/-- A file that is none of the class files of the removed source, and lies inside none of them,
keeps its entry. -/
theorem deleteClassFiles_keeps_other_files (path : String) (st : FileStatus) (h : Host)
    {q : String} (hq : ∀ c, ClassFileOf path st c →
      Path.absolute h.cwd c ≠ q ∧ Disk.isInside (Path.absolute h.cwd c) q = false) :
    ((deleteClassFiles path st).run.run h).2.disk.find? q = h.disk.find? q := by
  have hwp := deleteClassFiles_spec path st h h rfl
  rw [wp_apply] at hwp
  split at hwp
  · rename_i hrun
    obtain ⟨hh', hclass⟩ := hwp
    rw [hrun]
    simp only
    rw [hh']
    exact Host.find?_foldl_erasePath _ _ fun c hc => hq c (hclass c hc)
  · rename_i hrun
    obtain ⟨ds, hh', hclass⟩ := hwp
    rw [hrun]
    simp only
    rw [hh']
    exact Host.find?_foldl_erasePath _ _ fun c hc => hq c (hclass c hc)

/-! ## A nested type named as another source's class -/

/-- The status of a source in the default package compiled to `/out`, declaring `types`. -/
def defaultPackageStatus (types : List String) : FileStatus :=
  let symbols : StoredSymbols :=
    { package := .null, types := types.map .str, imports := [], references := [] }
  { mtime := Binary64.ofInt 0, digest := "d", output := "/out", symbols := some symbols }

/-- A host where `/src/B.java` is compiled to `/out/B.class`. -/
def classOfBHost : Host :=
  { disk := ⟨[("/out", .dir), ("/out/B.class", .file ⟨#[202]⟩ 0 false), ("/src", .dir),
      ("/src/B.java", .file ⟨#[66]⟩ 0 false)]⟩,
    cwd := "/", clock := 0 }

/-- `B.java` declares a top-level `B`, compiled to `/out/B.class`. The removed `A.java`
declared `A` with a nested `B`, whose class is `A$B.class`; yet removing `A.java` deletes
`/out/B.class`. -/
theorem removing_outer_deletes_class_of_other_source :
    (defaultPackageStatus ["B"]).classFile "/src/B.java" = .ok "/out/B.class" ∧
    ∃ h', (deleteClassFiles "/src/A.java" (defaultPackageStatus ["A", "B"])).run.run
        classOfBHost = (.ok ["/out/B.class"], h') ∧ (h'.disk.find? "/out/B.class").isNone := by
  have hrun := run_eq_ok_of_toOption (x := deleteClassFiles "/src/A.java"
    (defaultPackageStatus ["A", "B"])) (s := classOfBHost) (a := ["/out/B.class"])
    (by decide +kernel)
  refine ⟨by decide +kernel, _, hrun, ?_⟩
  decide +kernel

end Change

end JavaBuild
