import Mathlib
import JavaBuild.Proofs.Host
import JavaBuild.Proofs.Build.Substitution
import JavaBuild.Proofs.Patch.Load
import JavaBuild.Source.Layout

/-!
# The units of a resolved scope

`Layout.resolve` finds the existing source directories of a scope, groups them by release and
makes one unit per release. Each step of it only reads the files of the host: listing, looking
for declarations and logging leave the disk and the working directory as they are
(`Host.SameFiles`). So every run that returns gives units that are a function of the host it
started on (`resolve_spec`, read through `Resolves`):

- the units are by strictly ascending release, one for each release of an existing directory,
  and the default release only stands alone;
- the lowest release writes into the output directory of the scope, each other one into
  `META-INF/versions/<release>` below it, so no two units share an output directory;
- a unit holds the existing directories of its release in configuration order, and the files
  their patterns select, directory by directory in walking order, each path once;
- no configured root of either scope is an output directory or lies inside one.

The last holds as the check reads "inside": a root that starts with the output directory and a
slash. An output directory that is the root of the file system is therefore never seen to hold a
source root (`resolve_accepts_sources_inside_root_output`).
-/

set_option mvcgen.warning false

namespace JavaBuild

open Std.Do

/-! ## Lists that grow by their new elements -/

section AddNew

variable {α : Type} [BEq α] [LawfulBEq α]

/-- Appending the elements that a list does not hold yet appends the rest, without repeats. -/
theorem foldl_addNew_eq (acc xs : List α) :
    xs.foldl (fun acc x => if acc.contains x then acc else acc ++ [x]) acc =
      acc ++ (xs.removeAll acc).eraseDups := by
  induction xs generalizing acc with
  | nil => simp [List.removeAll]
  | cons x xs ih =>
    rw [List.foldl_cons]
    by_cases hx : x ∈ acc
    · rw [if_pos (List.contains_iff_mem.mpr hx), ih]
      simp [List.removeAll, hx]
    · -- a new element stays, and the later ones are compared with it too
      have hrest : xs.removeAll (acc ++ [x]) = (xs.removeAll acc).filter (fun b => !b == x) := by
        simp only [List.removeAll, List.filter_filter]
        congr 1
        funext b
        by_cases hb : b = x <;> simp [hb, hx]
      have hcons : (x :: xs).removeAll acc = x :: xs.removeAll acc := by
        simp [List.removeAll, hx]
      rw [if_neg (by simpa using hx), ih, List.append_assoc, hrest, hcons, List.eraseDups_cons]
      rfl

theorem nodup_foldl_addNew {acc : List α} (h : acc.Nodup) (xs : List α) :
    (xs.foldl (fun acc x => if acc.contains x then acc else acc ++ [x]) acc).Nodup := by
  induction xs generalizing acc with
  | nil => exact h
  | cons x xs ih =>
    rw [List.foldl_cons]
    apply ih
    split
    · exact h
    · rename_i hx
      exact List.Nodup.append h (List.nodup_singleton x) (by simpa using hx)

end AddNew

/-! ## Releases in order -/

namespace Release

theorem not_precedes_trans {a b c : Release} (hab : b.precedes a = false)
    (hbc : c.precedes b = false) : c.precedes a = false := by
  cases a <;> cases b <;> cases c <;> simp_all [precedes]
  omega

theorem not_precedes_total (a b : Release) : b.precedes a = false ∨ a.precedes b = false := by
  cases a <;> cases b <;> simp [precedes]
  omega

theorem precedes_of_not_precedes_of_ne {a b : Release} (hba : b.precedes a = false) (hne : a ≠ b) :
    a.precedes b = true := by
  cases a <;> cases b <;> simp_all [precedes]
  omega

theorem sort_perm (rs : List Release) : (sort rs).Perm rs := List.mergeSort_perm _ _

/-- Sorting distinct releases orders them strictly. -/
theorem pairwise_lt_sort {rs : List Release} (h : rs.Nodup) : (sort rs).Pairwise (· < ·) := by
  -- the order that sorting uses is total and transitive, so the sorted list respects it
  have htrans : ∀ a b c : Release, (!(b.precedes a)) = true → (!(c.precedes b)) = true →
      (!(c.precedes a)) = true := fun a b c hab hbc => by
    simpa using not_precedes_trans (by simpa using hab) (by simpa using hbc)
  have htotal : ∀ a b : Release, ((!(b.precedes a)) || !(a.precedes b)) = true := fun a b => by
    rcases not_precedes_total a b with h | h <;> simp [h]
  have hle : (sort rs).Pairwise fun a b => (!(b.precedes a)) = true :=
    @List.pairwise_mergeSort Release (fun a b => !(b.precedes a)) htrans htotal rs
  have hnd : (sort rs).Nodup := (sort_perm rs).nodup_iff.mpr h
  exact (List.pairwise_and_iff.mpr ⟨hle, hnd⟩).imp fun ⟨hba, hne⟩ =>
    precedes_of_not_precedes_of_ne (by simpa using hba) hne

theorem ne_of_lt {a b : Release} (h : a < b) : a ≠ b := by
  rintro rfl
  exact absurd h (by simp [LT.lt, precedes_irrefl])

/-- Numbered releases are written apart. -/
theorem toText_injective {m n : Nat} (h : (number m).toText = (number n).toText) : m = n := by
  simpa [toText, Nat.toString_eq_repr, Nat.repr_inj] using h

/-- A numbered release is written with digits, so as a path it is relative. -/
theorem isAbsolute_toText_number (n : Nat) : Path.isAbsolute (number n).toText = false := by
  have hdigits : ∀ c ∈ (toString n).toList, c.isDigit = true := by
    intro c hc
    rw [Nat.toString_eq_repr, Nat.toList_repr] at hc
    exact Nat.isDigit_of_mem_toDigits (by decide) (by decide) hc
  rw [Bool.eq_false_iff]
  intro habs
  obtain ⟨rest, hrest⟩ := String.startsWith_string_iff.mp habs
  have hlist : (toString n).toList = '/' :: rest := by simpa [toText] using hrest.symm
  have hslash := hdigits '/' (by rw [hlist]; exact List.mem_cons_self)
  exact absurd hslash (by decide)

end Release

/-! ## Paths below an output directory -/

namespace Path

theorem join_of_relative {p q : String} (hq : isAbsolute q = false) :
    join p q = if p.isEmpty || p.endsWith "/" then p ++ q else p ++ "/" ++ q := by
  simp [join, hq]

/-- Joining a relative path gives a longer path. -/
theorem length_lt_join {p q : String} (hq : isAbsolute q = false) (hne : q ≠ "") :
    p.length < (join p q).length := by
  have hpos : 0 < q.length := by
    rcases Nat.eq_zero_or_pos q.length with h | h
    · exact absurd (String.length_eq_zero_iff.mp h) hne
    · exact h
  rw [join_of_relative hq]
  split <;> simp [String.length_append] <;> omega

theorem length_le_join (p : String) {q : String} (hq : isAbsolute q = false) :
    p.length ≤ (join p q).length := by
  rw [join_of_relative hq]
  split <;> simp only [String.length_append] <;> omega

/-- From one directory, different relative paths lead to different paths. -/
theorem join_left_cancel {p q₁ q₂ : String} (h₁ : isAbsolute q₁ = false)
    (h₂ : isAbsolute q₂ = false) (h : join p q₁ = join p q₂) : q₁ = q₂ := by
  rw [join_of_relative h₁, join_of_relative h₂] at h
  rw [← String.toList_inj] at h ⊢
  split at h <;> simpa [String.toList_append] using h

end Path

namespace Source

/-! ## Reading source directories -/

theorem SourceDirectory.declaredModule_sameFiles (d : SourceDirectory) (h₀ : Host) :
    ⦃fun h => ⌜Host.SameFiles h₀ h⌝⦄ d.declaredModule ⦃⇓? _ h => ⌜Host.SameFiles h₀ h⌝⦄ := by
  mvcgen [SourceDirectory.declaredModule, HostM.pathExists_sameFiles, HostM.readText_sameFiles]
  -- the declaration is read on a host that already shows the files of `h₀`
  all_goals simp_all [Host.SameFiles]

/-- The files of a source directory of a host that its patterns select, as paths inside its
root, in walking order. -/
def SourceDirectory.selectedOn (d : SourceDirectory) (h : Host) : List String :=
  let root := Path.absolute h.cwd d.root
  ((h.filesIn root).filter (PathFilter.make d.includes d.excludes).selects).map (Path.join root)

theorem SourceDirectory.selectedOn_eq {h₀ h : Host} (hs : Host.SameFiles h₀ h)
    (d : SourceDirectory) : d.selectedOn h = d.selectedOn h₀ := by
  simp only [SourceDirectory.selectedOn, hs.filesIn_eq, hs.2]

namespace Layout

variable (l : Layout)

/-- The directories of a scope whose roots exist on a host, in configuration order. -/
def existingOn (h : Host) (scope : Stage) : List SourceDirectory :=
  l.directories.filter fun d => d.scope == scope && h.dirExists d.root

theorem existingOn_eq {h₀ h : Host} (hs : Host.SameFiles h₀ h) (scope : Stage) :
    l.existingOn h scope = l.existingOn h₀ scope := by
  simp only [existingOn, hs.dirExists_eq]

/-! ## Grouping by release -/

theorem keys_foldl_modify (t : List (Release × List SourceDirectory)) (ds : List SourceDirectory) :
    Assoc.keys (ds.foldl (fun t d => Assoc.modify t (l.releaseOf d) [] (· ++ [d])) t) =
      (ds.map l.releaseOf).foldl (fun acc x => if acc.contains x then acc else acc ++ [x])
        (Assoc.keys t) := by
  induction ds generalizing t with
  | nil => rfl
  | cons d ds ih =>
    rw [List.foldl_cons, ih, Assoc.keys_modify, List.map_cons, List.foldl_cons]
    congr 1
    by_cases h : l.releaseOf d ∈ Assoc.keys t <;> simp [h]

theorem lookup_foldl_modify (t : List (Release × List SourceDirectory)) (ds : List SourceDirectory)
    (r : Release) :
    ((ds.foldl (fun t d => Assoc.modify t (l.releaseOf d) [] (· ++ [d])) t).lookup r).getD [] =
      (t.lookup r).getD [] ++ ds.filter (fun d => l.releaseOf d = r) := by
  induction ds generalizing t with
  | nil => simp
  | cons d ds ih =>
    rw [List.foldl_cons, ih, Assoc.lookup_modify, List.filter_cons]
    by_cases h : l.releaseOf d = r
    · rw [if_pos (beq_iff_eq.mpr h.symm), if_pos (decide_eq_true h), h]
      simp
    · rw [if_neg (by simpa using Ne.symm h), if_neg (by simpa using h)]

/-- Each release appears once among the groups. -/
theorem nodup_keys_groupByRelease (ds : List SourceDirectory) :
    (Assoc.keys (l.groupByRelease ds)).Nodup := by
  rw [groupByRelease, keys_foldl_modify]
  exact nodup_foldl_addNew List.nodup_nil _

/-- The groups are those of the releases of the directories. -/
theorem mem_keys_groupByRelease (ds : List SourceDirectory) (r : Release) :
    r ∈ Assoc.keys (l.groupByRelease ds) ↔ ∃ d ∈ ds, l.releaseOf d = r := by
  rw [groupByRelease, keys_foldl_modify, foldl_addNew_eq]
  simp [Assoc.keys, List.removeAll]

/-- A release's group holds its directories, in their order. -/
theorem lookup_groupByRelease (ds : List SourceDirectory) (r : Release) :
    ((l.groupByRelease ds).lookup r).getD [] = ds.filter (fun d => l.releaseOf d = r) := by
  rw [groupByRelease, lookup_foldl_modify]
  rfl

theorem addRoots_nil (xs : List String) : addRoots [] xs = xs.eraseDups := by
  rw [addRoots, foldl_addNew_eq]
  simp [List.removeAll]

theorem addRoots_append (known xs ys : List String) :
    addRoots (addRoots known xs) ys = addRoots known (xs ++ ys) := by
  simp only [addRoots, List.foldl_append]

/-! ## One specification for each step -/

theorem existingOf_spec (scope : Stage) (ds : List SourceDirectory) (h₀ : Host) :
    ⦃fun h => ⌜Host.SameFiles h₀ h⌝⦄ existingOf scope ds
    ⦃⇓ r h => ⌜r = ds.filter (fun d => d.scope == scope && h₀.dirExists d.root) ∧
      Host.SameFiles h₀ h⌝⦄ := by
  induction ds with
  | nil => mvcgen [existingOf]
  | cons d ds ih =>
    mvcgen [existingOf, ih, HostM.isDir_sameFiles, HostM.logDebug_sameFiles]
    -- a directory is kept exactly when it is of the scope and exists on `h₀`
    all_goals simp_all [Host.SameFiles, Host.dirExists]

theorem selectFiles_spec (files : List String) (ds : List SourceDirectory) (h₀ : Host) :
    ⦃fun h => ⌜Host.SameFiles h₀ h⌝⦄ selectFiles h₀.cwd files ds
    ⦃⇓ r h => ⌜r = addRoots files (ds.flatMap (·.selectedOn h₀)) ∧ Host.SameFiles h₀ h⌝⦄ := by
  induction ds generalizing files with
  | nil => mvcgen [selectFiles]
  | cons d ds ih =>
    mvcgen [selectFiles, ih, HostM.listFiles_sameFiles]
    case vc2 =>
      rename_i hs _ _ hl
      exact hs.trans hl.2
    case vc3 =>
      -- the files of the first directory come before those of the others
      rename_i hs _ _ hl _ _
      rintro rfl hs'
      refine ⟨?_, hs'⟩
      rw [hl.1, hs.filesIn_eq, addRoots_append, List.flatMap_cons]
      rfl

theorem unitModules_sameFiles (cwd : String) (scope : Stage) (roots : List SourceDirectory)
    (h₀ : Host) :
    ⦃fun h => ⌜Host.SameFiles h₀ h⌝⦄ unitModules cwd scope roots
    ⦃⇓? _ h => ⌜Host.SameFiles h₀ h⌝⦄ := by
  mvcgen [unitModules, SourceDirectory.declaredModule_sameFiles, HostM.pathExists_sameFiles]
    invariants
  · ⇓? _ h => ⌜Host.SameFiles h₀ h⌝
  all_goals simp_all [Host.SameFiles]

theorem unitOf_spec (scope : Stage) (mainModule : Option String) (overwrite : Option Overwrite)
    (base release : Release) (roots : List SourceDirectory) (h₀ : Host) :
    ⦃fun h => ⌜Host.SameFiles h₀ h⌝⦄ l.unitOf h₀.cwd scope mainModule overwrite base release roots
    ⦃⇓? u h => ⌜u.release = release ∧ u.roots = roots ∧
      u.files = addRoots [] (roots.flatMap (·.selectedOn h₀)) ∧
      l.outputFor scope release base = .ok u.output ∧ Host.SameFiles h₀ h⌝⦄ := by
  mvcgen [unitOf, selectFiles_spec, unitModules_sameFiles, HostM.ofExcept]
  rename_i hfiles _ _ hs _ hout _
  have hsame : Host.SameFiles h₀ _ := hfiles.2.trans hs
  -- a test unit under a main module may patch it: only its modules change
  split
  · split <;> exact ⟨rfl, rfl, hfiles.1, hout, hsame⟩
  · exact ⟨rfl, rfl, hfiles.1, hout, hsame⟩

theorem unitsOf_spec (scope : Stage) (mainModule : Option String) (overwrite : Option Overwrite)
    (byRelease : List (Release × List SourceDirectory)) (releases : List Release) (h₀ : Host) :
    ⦃fun h => ⌜Host.SameFiles h₀ h⌝⦄ l.unitsOf h₀.cwd scope mainModule overwrite byRelease releases
    ⦃⇓? us h => ⌜us.map (·.release) = releases ∧
      (∀ u ∈ us, u.roots = (byRelease.lookup u.release).getD [] ∧
        u.files = addRoots [] (u.roots.flatMap (·.selectedOn h₀)) ∧
        l.outputFor scope u.release (releases.headD u.release) = .ok u.output) ∧
      Host.SameFiles h₀ h⌝⦄ := by
  mvcgen [unitsOf, unitOf_spec] invariants
  · ⇓? ⟨cur, us⟩ h => ⌜us.map (·.release) = cur.prefix ∧
      (∀ u ∈ us, u.roots = (byRelease.lookup u.release).getD [] ∧
        u.files = addRoots [] (u.roots.flatMap (·.selectedOn h₀)) ∧
        l.outputFor scope u.release (releases.headD u.release) = .ok u.output) ∧
      Host.SameFiles h₀ h⌝
  case vc1 =>
    rename_i hinv
    exact hinv.2.2
  case vc2 =>
    -- the unit of the next release joins the units of the releases before it
    rename_i hinv u _ _ hu
    obtain ⟨hrel, hunits, -⟩ := hinv
    obtain ⟨hr, hroots, hfiles, hout, hs⟩ := hu
    refine ⟨by simp +zetaDelta [hrel, hr], fun v hv => ?_, hs⟩
    rcases List.mem_append.mp hv with hv | hv
    · exact hunits v hv
    · obtain rfl := List.mem_singleton.mp hv
      exact ⟨hr ▸ hroots, hroots ▸ hfiles, hr ▸ hout⟩
  case vc4 =>
    rename_i hs
    exact ⟨rfl, by simp +zetaDelta, hs⟩

theorem overwriteOf_sameFiles (cwd : String) (scope : Stage) (mainModule : Option String)
    (h₀ : Host) :
    ⦃fun h => ⌜Host.SameFiles h₀ h⌝⦄ l.overwriteOf cwd scope mainModule
    ⦃⇓ _ h => ⌜Host.SameFiles h₀ h⌝⦄ := by
  mvcgen [overwriteOf, HostM.isDir_sameFiles, HostM.pathExists_sameFiles] invariants
  · ⇓ _ h => ⌜Host.SameFiles h₀ h⌝
  all_goals simp_all [Host.SameFiles]

theorem checkCollisions_spec (cwd : String) (units : List SourceUnit) :
    ⦃fun _ => ⌜True⌝⦄ l.checkCollisions cwd units
    ⦃⇓? _ _ => ⌜firstCollision cwd (l.outputsOf units) l.directories = none⌝⦄ := by
  mvcgen [checkCollisions, SourceDirectory.declaredModule_sameFiles] invariants
  · ⇓? _ _ => ⌜firstCollision cwd (l.outputsOf units) l.directories = none⌝
  -- the claims are checked only once no root collides
  rename_i found hnone hfound _ _
  rw [hfound]
  cases found with
  | none => rfl
  | some c => exact (hnone c.1 c.2 rfl).elim

theorem mainModuleName_sameFiles (h₀ : Host) :
    ⦃fun s => ⌜Host.SameFiles h₀ s.host⌝⦄ l.mainModuleName
    ⦃⇓? _ s => ⌜Host.SameFiles h₀ s.host⌝⦄ := by
  have hdecl := fun (d : SourceDirectory) (h₁ : Host) =>
    BuildM.monadLift_post_spec (d.declaredModule_sameFiles h₁)
  have hlog := fun (line : String) (h₁ : Host) =>
    BuildM.monadLift_post_spec (HostM.logVerbose_sameFiles h₁ line)
  mvcgen [mainModuleName, BuildM.context, BuildM.state, BuildM.modifyContext, hdecl, hlog]
    invariants
  · ⇓? _ s => ⌜Host.SameFiles h₀ s.host⌝
  all_goals simp_all +zetaDelta [Host.SameFiles]

theorem registerModules_sameFiles (units : List SourceUnit) (h₀ : Host) :
    ⦃fun s => ⌜Host.SameFiles h₀ s.host⌝⦄ registerModules units
    ⦃⇓ _ s => ⌜Host.SameFiles h₀ s.host⌝⦄ := by
  mvcgen [registerModules, BuildM.modifyContext] invariants
  · ⇓ _ s => ⌜Host.SameFiles h₀ s.host⌝
  · ⇓ _ s => ⌜Host.SameFiles h₀ s.host⌝

/-! ## What a resolution gives -/

/-- The units that resolving a scope gives against the files of `h`: by the sorted releases of the
existing directories, the default not mixed with others; each with the directories of its release,
the files they select and the output directory of its release, the lowest being the first; and no
root collides with an output directory. -/
structure Resolves (scope : Stage) (h : Host) (units : List SourceUnit) : Prop where
  releases_eq : units.map (·.release) =
    Release.sort (Assoc.keys (l.groupByRelease (l.existingOn h scope)))
  not_mixed :
    ¬ ((units.map (·.release)).length > 1 && (units.map (·.release)).any (·.isDefault)) = true
  unit_eq : ∀ u ∈ units,
    u.roots = ((l.groupByRelease (l.existingOn h scope)).lookup u.release).getD [] ∧
    u.files = addRoots [] (u.roots.flatMap (·.selectedOn h)) ∧
    l.outputFor scope u.release ((units.map (·.release)).headD u.release) = .ok u.output
  no_collision : firstCollision h.cwd (l.outputsOf units) l.directories = none

variable {l}

theorem Resolves.congr {scope : Stage} {h₀ h : Host} {units : List SourceUnit}
    (hs : Host.SameFiles h₀ h) (hr : l.Resolves scope h units) : l.Resolves scope h₀ units where
  releases_eq := l.existingOn_eq hs scope ▸ hr.releases_eq
  not_mixed := hr.not_mixed
  unit_eq u hu := by
    obtain ⟨hroots, hfiles, hout⟩ := hr.unit_eq u hu
    refine ⟨l.existingOn_eq hs scope ▸ hroots, ?_, hout⟩
    simp only [hfiles, SourceDirectory.selectedOn_eq hs]
  no_collision := hs.2 ▸ hr.no_collision

variable (l)

/-- Every run of `resolve` that returns resolves the scope against the files it started on. -/
theorem resolve_spec (scope : Stage) (h₀ : Host) :
    ⦃fun s => ⌜Host.SameFiles h₀ s.host⌝⦄ l.resolve scope
    ⦃⇓? set _ => ⌜l.Resolves scope h₀ set.units⌝⦄ := by
  have hexist := fun h₁ => BuildM.ofHost_post_spec (existingOf_spec scope l.directories h₁)
  have hunits := fun mm ow byRelease releases h₁ =>
    BuildM.ofHost_post_spec (l.unitsOf_spec scope mm ow byRelease releases h₁)
  have hover := fun cwd mm h₁ => BuildM.ofHost_post_spec (l.overwriteOf_sameFiles cwd scope mm h₁)
  have hcheck := fun cwd units => BuildM.ofHost_post_spec (l.checkCollisions_spec cwd units)
  mvcgen [resolve, BuildM.state, hexist, mainModuleName_sameFiles, hover, hunits,
    registerModules_sameFiles, hcheck]
  case vc5 =>
    -- the units are made on a host that shows the files the directories were found on
    rename_i hexisting _ _ hmain _ _ hover
    exact (hexisting.2.trans hmain).trans hover
  case vc7 =>
    rename_i hs₀ _ existing _ _ _ hmix _ hexisting _ _ _ _ _ _ units _ hunits _ _ _ _ _ hcoll
    -- the directories grouped are the existing ones, as the resolution reads them
    obtain ⟨rfl, -⟩ := hexisting
    obtain ⟨hrel, hunit, -⟩ := hunits
    refine Resolves.congr hs₀ ⟨hrel, ?_, ?_, hcoll⟩
    · rw [hrel]
      exact hmix
    · intro u hu
      rw [hrel]
      exact hunit u hu

theorem resolves_of_run {scope : Stage} {s s' : BuildState} {set : SourceSet}
    (hrun : (l.resolve scope).run.run s = (.ok set, s')) : l.Resolves scope s.host set.units :=
  ok_of_triple (l.resolve_spec scope s.host) ⟨rfl, rfl⟩ hrun

/-! ## Where units write and what they hold -/

theorem outputFor_eq_ok {scope : Stage} {release base : Release} {out : String}
    (h : l.outputFor scope release base = .ok out) :
    ∃ root, l.outputRoot scope = .ok root ∧
      out = if release = base ∨ release = .default then root
        else Path.join (Path.join (Path.join root "META-INF") "versions") release.toText := by
  unfold outputFor at h
  have hdef : release.isDefault = true ↔ release = .default := by
    cases release <;> simp [Release.isDefault]
  cases hroot : l.outputRoot scope with
  | error e => simp [hroot, bind, Except.bind] at h
  | ok root =>
    refine ⟨root, rfl, ?_⟩
    simp only [hroot, bind, Except.bind, pure, Except.pure] at h
    split at h
    · rename_i hc
      rw [if_pos (by simpa [hdef] using hc)]
      exact (Except.ok.inj h).symm
    · rename_i hc
      rw [if_neg (by simpa [hdef] using hc)]
      exact (Except.ok.inj h).symm

/-- A release's directory below an output root is longer than the root. -/
theorem length_lt_versions (root : String) (n : Nat) :
    root.length <
      (Path.join (Path.join (Path.join root "META-INF") "versions") (Release.number n).toText).length := by
  have hrel : ∀ q : String, q = "META-INF" ∨ q = "versions" → Path.isAbsolute q = false := by
    rintro q (rfl | rfl) <;> simp [Path.isAbsolute]
  calc root.length
      < (Path.join root "META-INF").length := Path.length_lt_join (hrel _ (.inl rfl)) (by decide)
    _ ≤ (Path.join (Path.join root "META-INF") "versions").length :=
        Path.length_le_join _ (hrel _ (.inr rfl))
    _ ≤ _ := Path.length_le_join _ (Release.isAbsolute_toText_number n)

theorem firstCollision_eq_none_iff {cwd : String} {outputs : List String}
    {ds : List SourceDirectory} :
    firstCollision cwd outputs ds = none ↔
      ∀ d ∈ ds, ∀ out ∈ outputs, collides (Path.absolute cwd d.root) out = false := by
  simp [firstCollision, List.findSome?_eq_none_iff, List.find?_eq_none]

/-- A root that passes the check is no output directory, and lies inside none other than the
root of the file system. -/
theorem not_inside_of_collides_eq_false {root out : String} (h : collides root out = false) :
    root ≠ out ∧ (out ≠ "/" → Disk.isInside out root = false) := by
  simp only [collides, Bool.or_eq_false_iff, beq_eq_false_iff_ne] at h
  refine ⟨h.1, fun hout => ?_⟩
  simp [Disk.isInside, hout, h.2]

namespace Resolves

variable {l} {scope : Stage} {h : Host} {units : List SourceUnit} (hr : l.Resolves scope h units)
include hr

theorem pairwise_lt : (units.map (·.release)).Pairwise (· < ·) := by
  rw [hr.releases_eq]
  exact Release.pairwise_lt_sort (l.nodup_keys_groupByRelease _)

/-- The default release is never one of several. -/
theorem eq_singleton_of_default {u : SourceUnit} (hu : u ∈ units) (hdef : u.release = .default) :
    units = [u] := by
  have hany : (units.map (·.release)).any (·.isDefault) = true :=
    List.any_eq_true.mpr ⟨u.release, List.mem_map_of_mem hu, by simp [hdef, Release.isDefault]⟩
  have hlen : units.length ≤ 1 := by
    have hnm := hr.not_mixed
    simp only [hany, Bool.and_true, decide_eq_true_eq, List.length_map] at hnm
    omega
  rcases units with _ | ⟨v, _ | ⟨w, ws⟩⟩
  · simp at hu
  · rw [List.mem_singleton.mp hu]
  · simp at hlen

theorem mem_releases_iff (r : Release) :
    r ∈ units.map (·.release) ↔ ∃ d ∈ l.existingOn h scope, l.releaseOf d = r := by
  rw [hr.releases_eq, (Release.sort_perm _).mem_iff, mem_keys_groupByRelease]

theorem roots_eq {u : SourceUnit} (hu : u ∈ units) :
    u.roots = (l.existingOn h scope).filter (fun d => l.releaseOf d = u.release) :=
  (hr.unit_eq u hu).1.trans (l.lookup_groupByRelease _ _)

theorem files_eq {u : SourceUnit} (hu : u ∈ units) :
    u.files = (u.roots.flatMap (·.selectedOn h)).eraseDups :=
  (hr.unit_eq u hu).2.1.trans (addRoots_nil _)

theorem files_nodup {u : SourceUnit} (hu : u ∈ units) : u.files.Nodup := by
  rw [(hr.unit_eq u hu).2.1]
  exact nodup_foldl_addNew List.nodup_nil _

/-- The first unit writes into the output root, the others into their release's directory
below it. -/
theorem output_eq (hne : units ≠ []) :
    ∃ root, l.outputRoot scope = .ok root ∧
      ∀ (i : Nat) (hi : i < units.length), units[i].output =
        if i = 0 then root
        else Path.join (Path.join (Path.join root "META-INF") "versions") units[i].release.toText := by
  obtain ⟨u₀, rest, rfl⟩ := List.exists_cons_of_ne_nil hne
  obtain ⟨root, hroot, -⟩ := l.outputFor_eq_ok (hr.unit_eq u₀ List.mem_cons_self).2.2
  refine ⟨root, hroot, fun i hi => ?_⟩
  have hu := List.getElem_mem hi
  obtain ⟨root', hroot', hout⟩ := l.outputFor_eq_ok (hr.unit_eq _ hu).2.2
  obtain rfl : root' = root := Except.ok.inj (hroot'.symm.trans hroot)
  rw [hout]
  rcases i with _ | i
  · simp
  · -- a later unit has a higher release than the first, and the default one is never one of
    -- several
    have hi' : i < rest.length := by simpa using hi
    have hlt : u₀.release < rest[i].release := by
      have hpw := hr.pairwise_lt
      rw [List.map_cons, List.pairwise_cons] at hpw
      exact hpw.1 _ (List.mem_map_of_mem (List.getElem_mem hi'))
    have hnd : rest[i].release ≠ .default := fun hd => by
      have hone := hr.eq_singleton_of_default hu (by simpa using hd)
      simp only [List.getElem_cons_succ, List.cons.injEq] at hone
      simp [hone.2] at hi'
    simp [(Release.ne_of_lt hlt).symm, hnd]

/-- With two units or more, every release is numbered. -/
theorem exists_number {k : Nat} (hk : k < units.length) (htwo : 2 ≤ units.length) :
    ∃ n, units[k].release = .number n := by
  cases hrk : units[k].release with
  | number n => exact ⟨n, rfl⟩
  | default =>
    have hone := hr.eq_singleton_of_default (List.getElem_mem hk) hrk
    have hlen : units.length = 1 := by rw [hone]; rfl
    omega

/-- No two units write into one directory: the first writes into the output root, which is
shorter than any release's directory, and two releases' directories differ where the releases
are written. -/
theorem output_ne {i j : Nat} (hi : i < units.length) (hj : j < units.length) (hij : i < j) :
    units[i].output ≠ units[j].output := by
  obtain ⟨root, -, hout⟩ := hr.output_eq (List.ne_nil_of_length_pos (by omega))
  have hrel : units[i].release < units[j].release := by
    have hpw := List.pairwise_iff_getElem.mp hr.pairwise_lt i j (by simpa using hi)
      (by simpa using hj) hij
    simpa only [List.getElem_map] using hpw
  obtain ⟨m, hm⟩ := hr.exists_number hj (by omega)
  rw [hout i hi, hout j hj, if_neg (show j ≠ 0 by omega), hm]
  by_cases hi0 : i = 0
  · rw [if_pos hi0]
    intro heq
    have hlen := length_lt_versions root m
    rw [← heq] at hlen
    exact lt_irrefl _ hlen
  · obtain ⟨n, hn⟩ := hr.exists_number hi (by omega)
    rw [if_neg hi0, hn]
    intro heq
    have hnm := Release.toText_injective (Path.join_left_cancel
      (Release.isAbsolute_toText_number n) (Release.isAbsolute_toText_number m) heq)
    rw [hn, hm, hnm] at hrel
    exact Release.ne_of_lt hrel rfl

theorem nodup_outputs : (units.map (·.output)).Nodup := by
  rw [List.Nodup, List.pairwise_iff_getElem]
  intro i j hi hj hij
  simpa only [List.getElem_map] using
    hr.output_ne (by simpa using hi) (by simpa using hj) hij

theorem not_inside : ∀ d ∈ l.directories, ∀ out ∈ l.outputsOf units,
    Path.absolute h.cwd d.root ≠ out ∧
      (out ≠ "/" → Disk.isInside out (Path.absolute h.cwd d.root) = false) :=
  fun d hd out hout =>
    not_inside_of_collides_eq_false (firstCollision_eq_none_iff.mp hr.no_collision d hd out hout)

end Resolves

/-- The units that a resolution of a scope returns, against the files of the host it started on:
by strictly ascending release, the default one only alone, one unit for each release of an
existing directory of the scope; the lowest release writes into the output directory of the
scope and every other into `META-INF/versions/<release>` below it, so that no two units share
an output directory; a unit holds the existing directories of its release, in configuration
order, and the files that their patterns select, each path once; and no configured root of either
scope is an output directory, nor lies inside one other than the root of the file system. -/
theorem resolve_units_by_ascending_release (scope : Stage) (s s' : BuildState) (set : SourceSet)
    (hrun : (l.resolve scope).run.run s = (.ok set, s')) :
    (set.units.map (·.release)).Pairwise (· < ·) ∧
    (∀ u ∈ set.units, u.release = .default → set.units = [u]) ∧
    (∀ r, r ∈ set.units.map (·.release) ↔ ∃ d ∈ l.existingOn s.host scope, l.releaseOf d = r) ∧
    (set.units ≠ [] → ∃ root, l.outputRoot scope = .ok root ∧
      ∀ (i : Nat) (hi : i < set.units.length), set.units[i].output =
        if i = 0 then root
        else Path.join (Path.join (Path.join root "META-INF") "versions")
          set.units[i].release.toText) ∧
    (set.units.map (·.output)).Nodup ∧
    (∀ u ∈ set.units,
      u.roots = (l.existingOn s.host scope).filter (fun d => l.releaseOf d = u.release) ∧
      u.files = (u.roots.flatMap (·.selectedOn s.host)).eraseDups ∧ u.files.Nodup) ∧
    (∀ d ∈ l.directories, ∀ out ∈ l.outputsOf set.units,
      Path.absolute s.host.cwd d.root ≠ out ∧
      (out ≠ "/" → Disk.isInside out (Path.absolute s.host.cwd d.root) = false)) := by
  have hr := l.resolves_of_run hrun
  exact ⟨hr.pairwise_lt, fun u hu => hr.eq_singleton_of_default hu, hr.mem_releases_iff,
    hr.output_eq, hr.nodup_outputs,
    fun u hu => ⟨hr.roots_eq hu, hr.files_eq hu, hr.files_nodup hu⟩, hr.not_inside⟩

/-- A host whose working directory `/w` holds the empty directories `a` and `b`. -/
def sampleHost : Host where
  disk := { entries := [("/w", .dir), ("/w/a", .dir), ("/w/b", .dir)] }
  cwd := "/w"
  clock := 0

/-- The directories `a` and `b`, of no release, compiled into `/w/out`. -/
def sharedReleaseLayout : Layout where
  directories := [{ root := "a" }, { root := "b" }]
  output := "/w/out"
  testOutput := none
  release := none

theorem resolve_units_by_ascending_release_of_shared_release :
    ∃ set s', (sharedReleaseLayout.resolve .main).run.run { host := sampleHost } = (.ok set, s') ∧
      set.units.map (·.roots.length) = [2] ∧
      ∀ u ∈ set.units, u.roots = sharedReleaseLayout.existingOn sampleHost .main := by
  have hroots : ((sharedReleaseLayout.resolve .main).run.run { host := sampleHost }).1.toOption.map
      (·.units.map (·.roots.length)) = some [2] := by
    decide +kernel
  obtain ⟨set, hset, hroots⟩ := Option.map_eq_some_iff.mp hroots
  have hrun := run_eq_ok_of_toOption hset
  obtain ⟨-, -, hreleases, -, -, hunits, -⟩ :=
    resolve_units_by_ascending_release sharedReleaseLayout .main _ _ set hrun
  -- both directories are of the default release, so its unit holds both
  have hdefault : ∀ d ∈ sharedReleaseLayout.existingOn sampleHost .main,
      sharedReleaseLayout.releaseOf d = .default := by
    intro d hd
    have hmem := (List.mem_filter.mp hd).1
    simp only [sharedReleaseLayout, List.mem_cons, List.not_mem_nil, or_false] at hmem
    rcases hmem with rfl | rfl <;> rfl
  refine ⟨set, _, hrun, hroots, fun u hu => (hunits u hu).1.trans (List.filter_eq_self.mpr ?_)⟩
  intro d hd
  obtain ⟨e, he, hrel⟩ := (hreleases u.release).mp (List.mem_map_of_mem hu)
  simp [hdefault d hd, ← hrel, hdefault e he]

/-- The directory `a`, compiled into the root of the file system. -/
def rootOutputLayout : Layout where
  directories := [{ root := "a" }]
  output := "/"
  testOutput := none
  release := none

/-- A source root inside an output directory that is the root of the file system passes the
check: the root does not start with `//`. -/
theorem resolve_accepts_sources_inside_root_output :
    ∃ set s', (rootOutputLayout.resolve .main).run.run { host := sampleHost } = (.ok set, s') ∧
      "/" ∈ rootOutputLayout.outputsOf set.units ∧
      Disk.isInside "/" (Path.absolute sampleHost.cwd "a") = true := by
  have hout : ((rootOutputLayout.resolve .main).run.run { host := sampleHost }).1.toOption.map
      (fun set => decide ("/" ∈ rootOutputLayout.outputsOf set.units)) = some true := by
    decide +kernel
  obtain ⟨set, hset, hmem⟩ := Option.map_eq_some_iff.mp hout
  have hinside : Disk.isInside "/" (Path.absolute sampleHost.cwd "a") = true := by
    decide +kernel
  exact ⟨set, _, run_eq_ok_of_toOption hset, of_decide_eq_true hmem, hinside⟩

end Layout

end Source

end JavaBuild
