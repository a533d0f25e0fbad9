import JavaBuild.Module.Closure

/-!
# What the closure of a module graph reaches

The walk of `reach` enters a module once by name. Read as a graph search, it collects the names
of the modules reachable from the roots (`Reaches`): the module of each root, and the observable
module of each name that a reachable module requires along a requirement it follows. A name that
no observable module has is asked for (`Unobservable`) when a root names it or a reachable
module requires it so.

Two facts hold of every walk. It is sound: every name it gives is reachable, and a strict walk
fails only on an unobservable name, a lenient one never (`walk_sound_of_asked`, `reach_sound`). And, once
done, what it reached is closed: each module entered had its followed requirements looked up
(`walk_done`, `reach_done`). Closure gives completeness only where the module entered under a
name requires what every reachable module of that name requires. That holds between two
observable modules found by one name, but a root given as a descriptor may differ from the
observable module of its name, or from another root of that name (`NamesAgree`). Where they
agree, the names of the closure are exactly the reachable names, and a strict closure fails
exactly when some name asked for is unobservable (`closureNames_eq_reachable`). Where they do not,
the root entered first hides the requirements of the others
(`closureNames_hides_requirements_of_later_root`).
-/

namespace JavaBuild.Module

/-- The observable module of a name is the last one of that name. -/
theorem lookup_eq_some_iff {mods : List Descriptor} {n : String} {d : Descriptor} :
    lookup mods n = some d ↔
      ∃ pre post, mods = pre ++ d :: post ∧ d.name = n ∧ ∀ e ∈ post, e.name ≠ n := by
  unfold lookup
  rw [List.find?_eq_some_iff_append]
  constructor
  · rintro ⟨hd, as, bs, hrev, has⟩
    refine ⟨bs.reverse, as.reverse, ?_, by simpa using hd, fun e he => ?_⟩
    · rw [← List.reverse_reverse mods, hrev]
      simp
    · simpa using has e (List.mem_reverse.1 he)
  · rintro ⟨pre, post, rfl, hd, hpost⟩
    refine ⟨by simpa using hd, post.reverse, pre.reverse, by simp, fun e he => ?_⟩
    simpa using hpost e (List.mem_reverse.1 he)

/-- A name is not observable when no module has it. -/
theorem lookup_eq_none_iff {mods : List Descriptor} {n : String} :
    lookup mods n = none ↔ ∀ d ∈ mods, d.name ≠ n := by
  simp [lookup]

/-! ## The walk, one step at a time -/

section Steps

variable {mods : List Descriptor} {follow : List String → Bool} {strict : Bool}
  {reached rest : List String} {name : String}

theorem walk_cons_of_lookup_eq_none (h : lookup mods name = none) :
    walk mods follow strict reached (name :: rest) =
      if strict then .error ⟨name, sortedSet (mods.map (·.name))⟩
      else walk mods follow strict reached rest := by
  rw [walk.eq_2]
  split
  · rfl
  · rename_i d hd
    rw [h] at hd
    cases hd

theorem walk_cons_of_lookup_eq_some {d : Descriptor} (h : lookup mods name = some d) :
    walk mods follow strict reached (name :: rest) =
      if d.name ∈ reached then walk mods follow strict reached rest
      else walk mods follow strict (reached ++ [d.name]) (followed follow d ++ rest) := by
  rw [walk.eq_2]
  split
  · rename_i hd
    rw [h] at hd
    cases hd
  · rename_i d' hd
    rw [h] at hd
    cases hd
    rfl

end Steps

section Graph

variable (mods : List Descriptor) (follow : List String → Bool) (roots : List Root)

/-- The modules reachable from the roots: the module of each root, and the observable module of
each name that a reachable module requires along a requirement it follows. -/
inductive Reaches : Descriptor → Prop
  | named {n : String} {d : Descriptor} : Root.named n ∈ roots → lookup mods n = some d → Reaches d
  | given {d : Descriptor} : Root.given d ∈ roots → Reaches d
  | step {d e : Descriptor} {n : String} :
      Reaches d → n ∈ followed follow d → lookup mods n = some e → Reaches e

/-- A name the closure looks up: one that a root names, or that a reachable module requires along
a requirement it follows. -/
def Asked (n : String) : Prop :=
  Root.named n ∈ roots ∨ ∃ d, Reaches mods follow roots d ∧ n ∈ followed follow d

/-- A name that the closure looks up and that no observable module has. -/
def Unobservable (n : String) : Prop :=
  Asked mods follow roots n ∧ lookup mods n = none

/-- A module the walk may enter under its name: a root given as a descriptor, or the observable
module of its name. -/
def Enterable (d : Descriptor) : Prop :=
  Root.given d ∈ roots ∨ lookup mods d.name = some d

/-- Descriptors of one name require the same names along the requirements followed: each root
given as a descriptor agrees with the observable module of its name and with every other such
root of its name. -/
def NamesAgree : Prop :=
  ∀ d, Root.given d ∈ roots → ∀ e, (lookup mods d.name = some e ∨ (Root.given e ∈ roots ∧ e.name = d.name)) →
    ∀ n, n ∈ followed follow d ↔ n ∈ followed follow e

end Graph

variable {mods : List Descriptor} {follow : List String → Bool} {roots : List Root} {strict : Bool}

theorem Asked.reaches {n : String} {d : Descriptor} (h : Asked mods follow roots n)
    (hl : lookup mods n = some d) : Reaches mods follow roots d := by
  rcases h with h | ⟨e, he, hn⟩
  · exact .named h hl
  · exact .step he hn hl

theorem Reaches.enterable {d : Descriptor} (h : Reaches mods follow roots d) :
    Enterable mods roots d := by
  cases h with
  | named _ hl => exact .inr (lookup_name hl ▸ hl)
  | given hg => exact .inl hg
  | step _ _ hl => exact .inr (lookup_name hl ▸ hl)

/-- Two enterable modules of one name follow the same requirements, when the names agree. -/
theorem NamesAgree.followed_iff (hagree : NamesAgree mods follow roots) {d e : Descriptor}
    (hd : Enterable mods roots d) (he : Enterable mods roots e) (hname : d.name = e.name)
    (n : String) : n ∈ followed follow d ↔ n ∈ followed follow e := by
  rcases hd with hd | hd
  · rcases he with he | he
    · exact hagree d hd e (.inr ⟨he, hname.symm⟩) n
    · exact hagree d hd e (.inl (hname ▸ he)) n
  · rcases he with he | he
    · exact (hagree e he d (.inl (hname ▸ hd)) n).symm
    · -- two observable modules of one name are the same one
      obtain rfl : d = e := Option.some.inj ((hname ▸ hd).symm.trans he)
      exact Iff.rfl

/-! ## Soundness -/

/-- What a walk may give: names of reachable modules, or, walking strictly, the failure on an
unobservable name, which lists the observable names. -/
def Sound (mods : List Descriptor) (follow : List String → Bool) (roots : List Root)
    (strict : Bool) : Except NotObservable (List String) → Prop
  | .ok R => ∀ x ∈ R, ∃ d, Reaches mods follow roots d ∧ d.name = x
  | .error e => strict = true ∧ Unobservable mods follow roots e.name ∧
      e.known = sortedSet (mods.map (·.name))

/-- Walking from reachable names and names asked for gives only reachable names, and fails only
strictly on an unobservable name. -/
theorem walk_sound_of_asked {reached pending : List String}
    (hreached : ∀ x ∈ reached, ∃ d, Reaches mods follow roots d ∧ d.name = x)
    (hpending : ∀ n ∈ pending, Asked mods follow roots n) :
    Sound mods follow roots strict (walk mods follow strict reached pending) := by
  fun_induction walk mods follow strict reached pending with
  | case1 reached => simpa [Sound] using hreached
  | case2 reached name rest hlook hstrict =>
    exact ⟨hstrict, ⟨hpending name List.mem_cons_self, hlook⟩, rfl⟩
  | case3 reached name rest _ _ ih =>
    exact ih hreached fun n hn => hpending n (List.mem_cons_of_mem _ hn)
  | case4 reached name rest d _ _ ih =>
    exact ih hreached fun n hn => hpending n (List.mem_cons_of_mem _ hn)
  | case5 reached name rest d hlook _ ih =>
    -- the module entered is reachable, and so are the names it requires
    have hd : Reaches mods follow roots d := (hpending name List.mem_cons_self).reaches hlook
    refine ih (fun x hx => ?_) (fun n hn => ?_)
    · rcases List.mem_append.1 hx with hx | hx
      · exact hreached x hx
      · exact ⟨d, hd, (List.mem_singleton.1 hx).symm⟩
    · rcases List.mem_append.1 hn with hn | hn
      · exact .inr ⟨d, hd, hn⟩
      · exact hpending n (List.mem_cons_of_mem _ hn)

theorem enterRoot_sound {acc : List String} {r : Root} (hr : r ∈ roots)
    (hacc : ∀ x ∈ acc, ∃ d, Reaches mods follow roots d ∧ d.name = x) :
    Sound mods follow roots strict (enterRoot mods follow strict acc r) := by
  cases r with
  | named n => exact walk_sound_of_asked hacc fun m hm => .inl (List.mem_singleton.1 hm ▸ hr)
  | given d =>
    have hd : Reaches mods follow roots d := .given hr
    simp only [enterRoot]
    split
    · exact hacc
    · refine walk_sound_of_asked (fun x hx => ?_) fun n hn => .inr ⟨d, hd, hn⟩
      rcases List.mem_append.1 hx with hx | hx
      · exact hacc x hx
      · exact ⟨d, hd, (List.mem_singleton.1 hx).symm⟩

theorem foldlM_enterRoot_sound (rs : List Root) (hrs : ∀ r ∈ rs, r ∈ roots) {acc : List String}
    (hacc : ∀ x ∈ acc, ∃ d, Reaches mods follow roots d ∧ d.name = x) :
    Sound mods follow roots strict (rs.foldlM (enterRoot mods follow strict) acc) := by
  induction rs generalizing acc with
  | nil => exact hacc
  | cons r rs ih =>
    rw [List.foldlM_cons]
    have hstep : Sound mods follow roots strict (enterRoot mods follow strict acc r) :=
      enterRoot_sound (hrs r List.mem_cons_self) hacc
    cases h : enterRoot mods follow strict acc r with
    | error e => rw [h] at hstep; exact hstep
    | ok acc' =>
      rw [h] at hstep
      exact ih (fun r hr => hrs r (List.mem_cons_of_mem _ hr)) hstep

/-- The closure gives only reachable names, and fails only strictly, on an unobservable name. -/
theorem reach_sound : Sound mods follow roots strict (reach mods roots follow strict) :=
  foldlM_enterRoot_sound roots (fun _ h => h) (by simp)

/-! ## Closure of what the walk reached -/

section Done

variable (mods follow roots strict)

/-- A name whose lookup the walk has still to make, or has made: it is pending, or its observable
module was entered, or, walking leniently, it has none. -/
def Handled (reached pending : List String) (m : String) : Prop :=
  m ∈ pending ∨ (∃ e, lookup mods m = some e ∧ e.name ∈ reached) ∨
    (strict = false ∧ lookup mods m = none)

/-- Every name reached is that of an enterable module whose followed requirements are handled. -/
def Done (reached pending : List String) : Prop :=
  ∀ x ∈ reached, ∃ d, d.name = x ∧ Enterable mods roots d ∧
    ∀ m ∈ followed follow d, Handled mods strict reached pending m

end Done

theorem Handled.mono {reached reached' pending pending' : List String} {m : String}
    (h : Handled mods strict reached pending m) (hr : reached ⊆ reached')
    (hp : pending ⊆ pending') : Handled mods strict reached' pending' m := by
  rcases h with h | ⟨e, he, hin⟩ | h
  · exact .inl (hp h)
  · exact .inr (.inl ⟨e, he, hr hin⟩)
  · exact .inr (.inr h)

/-- Popping a pending name that is handled otherwise keeps every name handled. -/
theorem Handled.pop {reached reached' : List String} {name m : String} {rest : List String}
    (h : Handled mods strict reached (name :: rest) m) (hr : reached ⊆ reached')
    (hname : Handled mods strict reached' [] name) : Handled mods strict reached' rest m := by
  rcases h with h | ⟨e, he, hin⟩ | h
  · rcases List.mem_cons.1 h with rfl | h
    · exact hname.mono (fun _ h => h) (List.nil_subset _)
    · exact .inl h
  · exact .inr (.inl ⟨e, he, hr hin⟩)
  · exact .inr (.inr h)

theorem Done.mono {reached pending pending' : List String} (h : Done mods follow roots strict reached pending)
    (hp : pending ⊆ pending') : Done mods follow roots strict reached pending' := by
  intro x hx
  obtain ⟨d, hd, hen, hall⟩ := h x hx
  exact ⟨d, hd, hen, fun m hm => (hall m hm).mono (fun _ h => h) hp⟩

theorem Done.pop {reached reached' : List String} {name : String} {rest : List String}
    (h : Done mods follow roots strict reached (name :: rest)) (hr : reached ⊆ reached')
    (hname : Handled mods strict reached' [] name) (x : String) (hx : x ∈ reached) :
    ∃ d, d.name = x ∧ Enterable mods roots d ∧
      ∀ m ∈ followed follow d, Handled mods strict reached' rest m := by
  obtain ⟨d, hd, hen, hall⟩ := h x hx
  exact ⟨d, hd, hen, fun m hm => (hall m hm).pop hr hname⟩

/-- Once done, a walk has entered every name it reached, with their followed requirements and
every name it was asked for handled. -/
theorem walk_done {reached pending R : List String}
    (hw : walk mods follow strict reached pending = .ok R)
    (hdone : Done mods follow roots strict reached pending) :
    Done mods follow roots strict R [] ∧ reached ⊆ R ∧
      ∀ n ∈ pending, Handled mods strict R [] n := by
  revert hw hdone
  fun_induction walk mods follow strict reached pending with
  | case1 reached =>
    intro hw hdone
    cases hw
    exact ⟨hdone, fun _ h => h, by simp⟩
  | case2 => intro hw; cases hw
  | case3 reached name rest hlook hstrict ih =>
    intro hw hdone
    have hname : Handled mods strict reached [] name := .inr (.inr ⟨by simpa using hstrict, hlook⟩)
    obtain ⟨hR, hsub, hrest⟩ := ih hw (hdone.pop (fun _ h => h) hname)
    refine ⟨hR, hsub, fun n hn => ?_⟩
    rcases List.mem_cons.1 hn with rfl | hn
    · exact hname.mono hsub (fun _ h => h)
    · exact hrest n hn
  | case4 reached name rest d hlook hin ih =>
    intro hw hdone
    have hname : Handled mods strict reached [] name := .inr (.inl ⟨d, hlook, hin⟩)
    obtain ⟨hR, hsub, hrest⟩ := ih hw (hdone.pop (fun _ h => h) hname)
    refine ⟨hR, hsub, fun n hn => ?_⟩
    rcases List.mem_cons.1 hn with rfl | hn
    · exact hname.mono hsub (fun _ h => h)
    · exact hrest n hn
  | case5 reached name rest d hlook _ ih =>
    intro hw hdone
    -- the module entered joins the reached names with its requirements pending
    have hsub : reached ⊆ reached ++ [d.name] := List.subset_append_left _ _
    have hname : Handled mods strict (reached ++ [d.name]) [] name :=
      .inr (.inl ⟨d, hlook, List.mem_append_right _ (List.mem_singleton_self _)⟩)
    have hdone' : Done mods follow roots strict (reached ++ [d.name]) (followed follow d ++ rest) := by
      intro x hx
      rcases List.mem_append.1 hx with hx | hx
      · obtain ⟨e, he, hen, hall⟩ := hdone.pop hsub hname x hx
        exact ⟨e, he, hen, fun m hm => (hall m hm).mono (fun _ h => h) (List.subset_append_right _ _)⟩
      · refine ⟨d, (List.mem_singleton.1 hx).symm, .inr (lookup_name hlook ▸ hlook), fun m hm => ?_⟩
        exact .inl (List.mem_append_left _ hm)
    obtain ⟨hR, hsub', hpend⟩ := ih hw hdone'
    refine ⟨hR, fun x hx => hsub' (hsub hx), fun n hn => ?_⟩
    rcases List.mem_cons.1 hn with rfl | hn
    · exact hname.mono hsub' (fun _ h => h)
    · exact hpend n (List.mem_append_right _ hn)

/-- What a root leaves behind once entered: a named root is handled, a given one reached. -/
def RootHandled (mods : List Descriptor) (strict : Bool) (R : List String) : Root → Prop
  | .named n => Handled mods strict R [] n
  | .given d => d.name ∈ R

theorem RootHandled.mono {R R' : List String} {r : Root} (h : RootHandled mods strict R r)
    (hR : R ⊆ R') : RootHandled mods strict R' r := by
  cases r with
  | named n => exact Handled.mono h hR (fun _ h => h)
  | given d => exact hR h

theorem enterRoot_done {acc acc' : List String} {r : Root} (hr : r ∈ roots)
    (h : enterRoot mods follow strict acc r = .ok acc')
    (hdone : Done mods follow roots strict acc []) :
    Done mods follow roots strict acc' [] ∧ acc ⊆ acc' ∧ RootHandled mods strict acc' r := by
  cases r with
  | named n =>
    obtain ⟨hR, hsub, hn⟩ := walk_done h (hdone.mono (by simp))
    exact ⟨hR, hsub, hn n List.mem_cons_self⟩
  | given d =>
    simp only [enterRoot] at h
    split at h
    · cases h
      exact ⟨hdone, fun _ h => h, show d.name ∈ acc by simpa using ‹acc.contains d.name = true›⟩
    · have hsub : acc ⊆ acc ++ [d.name] := List.subset_append_left _ _
      have hdone' : Done mods follow roots strict (acc ++ [d.name]) (followed follow d) := by
        intro x hx
        rcases List.mem_append.1 hx with hx | hx
        · obtain ⟨e, he, hen, hall⟩ := hdone x hx
          exact ⟨e, he, hen, fun m hm => (hall m hm).mono hsub (by simp)⟩
        · exact ⟨d, (List.mem_singleton.1 hx).symm, .inl hr, fun m hm => .inl hm⟩
      obtain ⟨hR, hsub', -⟩ := walk_done h hdone'
      exact ⟨hR, fun x hx => hsub' (hsub hx), hsub' (List.mem_append_right _ (List.mem_singleton_self _))⟩

theorem foldlM_enterRoot_done (rs : List Root) (hrs : ∀ r ∈ rs, r ∈ roots) {acc R : List String}
    (h : rs.foldlM (enterRoot mods follow strict) acc = .ok R)
    (hdone : Done mods follow roots strict acc []) :
    Done mods follow roots strict R [] ∧ acc ⊆ R ∧ ∀ r ∈ rs, RootHandled mods strict R r := by
  induction rs generalizing acc with
  | nil =>
    cases h
    exact ⟨hdone, fun _ h => h, by simp⟩
  | cons r rs ih =>
    rw [List.foldlM_cons] at h
    cases hr : enterRoot mods follow strict acc r with
    | error e => rw [hr] at h; cases h
    | ok acc' =>
      rw [hr] at h
      obtain ⟨hdone', hsub, hroot⟩ := enterRoot_done (hrs r List.mem_cons_self) hr hdone
      obtain ⟨hR, hsub', hrest⟩ := ih (fun r' h' => hrs r' (List.mem_cons_of_mem _ h')) h hdone'
      refine ⟨hR, fun x hx => hsub' (hsub hx), fun r' hr' => ?_⟩
      rcases List.mem_cons.1 hr' with rfl | hr'
      · exact hroot.mono hsub'
      · exact hrest r' hr'

/-- A finished closure is closed: its names are those of enterable modules whose followed
requirements are handled, and every root is handled. -/
theorem reach_done {R : List String} (h : reach mods roots follow strict = .ok R) :
    Done mods follow roots strict R [] ∧ ∀ r ∈ roots, RootHandled mods strict R r := by
  obtain ⟨hR, -, hroots⟩ := foldlM_enterRoot_done roots (fun _ h => h) h (by simp [Done])
  exact ⟨hR, hroots⟩

/-- Where names agree, a finished closure holds every reachable module's name. -/
theorem reach_complete (hagree : NamesAgree mods follow roots) {R : List String}
    (h : reach mods roots follow strict = .ok R) {d : Descriptor}
    (hd : Reaches mods follow roots d) : d.name ∈ R := by
  obtain ⟨hdone, hroots⟩ := reach_done h
  induction hd with
  | named hr hl =>
    rcases (hroots _ hr : Handled mods strict R [] _) with h | ⟨e, he, hin⟩ | ⟨-, hnone⟩
    · simp at h
    · rwa [Option.some.inj (hl.symm.trans he)]
    · simp [hl] at hnone
  | given hr => exact hroots _ hr
  | @step d e n hd hn hl ih =>
    -- the module entered under `d`'s name follows what `d` follows
    obtain ⟨E, hE, hen, hall⟩ := hdone _ ih
    have hnE : n ∈ followed follow E :=
      (hagree.followed_iff hd.enterable hen hE.symm n).1 hn
    rcases hall n hnE with h | ⟨e', he', hin⟩ | ⟨-, hnone⟩
    · simp at h
    · rwa [Option.some.inj (hl.symm.trans he')]
    · simp [hl] at hnone

/-- Where names agree, a strict closure that finishes asked for no unobservable name. -/
theorem reach_strict_observable (hagree : NamesAgree mods follow roots) {R : List String}
    (h : reach mods roots follow true = .ok R) {n : String}
    (hn : Unobservable mods follow roots n) : False := by
  obtain ⟨hdone, hroots⟩ := reach_done h
  obtain ⟨hasked, hnone⟩ := hn
  -- an asked name is handled, and walking strictly a handled name has a module
  have hfound : ∀ {R' : List String}, Handled mods true R' [] n → False := by
    rintro R' (h | ⟨e, he, -⟩ | ⟨h, -⟩)
    · simp at h
    · simp [hnone] at he
    · cases h
  rcases hasked with hr | ⟨d, hd, hnd⟩
  · exact hfound (hroots _ hr)
  · obtain ⟨E, hE, hen, hall⟩ := hdone _ (reach_complete hagree h hd)
    exact hfound (hall n ((hagree.followed_iff hd.enterable hen hE.symm n).1 hnd))

/-! ## The closure -/

theorem closureNames_eq_ok {names : List String}
    (h : closureNames mods roots follow strict = .ok names) :
    ∃ R, reach mods roots follow strict = .ok R ∧ names = sortedSet R := by
  unfold closureNames at h
  cases hr : reach mods roots follow strict with
  | error e => simp [hr, Functor.map, Except.map] at h
  | ok R =>
    simp only [hr, Functor.map, Except.map, Except.ok.injEq] at h
    exact ⟨R, rfl, h.symm⟩

theorem closureNames_eq_error {e : NotObservable} :
    closureNames mods roots follow strict = .error e ↔ reach mods roots follow strict = .error e := by
  unfold closureNames
  cases reach mods roots follow strict <;> simp [Functor.map, Except.map]

/-- The closure of the roots, when every two descriptors of one name follow the same
requirements. Its names are exactly the names of the modules reachable from the roots; a lenient
closure always gives them, skipping unobservable names; a strict one fails exactly when a root or
a requirement followed out of a reachable module names an unobservable module, and then it names
one such module and lists the observable names. -/
theorem closureNames_eq_reachable (hagree : NamesAgree mods follow roots) :
    (∀ names, closureNames mods roots follow strict = .ok names →
        ∀ n, n ∈ names ↔ ∃ d, Reaches mods follow roots d ∧ d.name = n) ∧
      (strict = false → ∃ names, closureNames mods roots follow strict = .ok names) ∧
      (strict = true → ((∃ e, closureNames mods roots follow strict = .error e) ↔
        ∃ n, Unobservable mods follow roots n)) ∧
      (∀ e, closureNames mods roots follow strict = .error e →
        Unobservable mods follow roots e.name ∧ e.known = sortedSet (mods.map (·.name))) := by
  have hsound : Sound mods follow roots strict (reach mods roots follow strict) := reach_sound
  refine ⟨fun names h n => ?_, fun hstrict => ?_, fun hstrict => ⟨?_, ?_⟩, fun e h => ?_⟩
  · obtain ⟨R, hR, rfl⟩ := closureNames_eq_ok h
    rw [hR] at hsound
    simp only [sortedSet, List.mem_eraseDups, List.mem_mergeSort]
    exact ⟨hsound n, fun ⟨d, hd, hdn⟩ => hdn ▸ reach_complete hagree hR hd⟩
  · cases hr : reach mods roots follow strict with
    | ok R => exact ⟨sortedSet R, by simp [closureNames, hr, Functor.map, Except.map]⟩
    | error e =>
      rw [hr] at hsound
      exact absurd (hsound.1.symm.trans hstrict) (by simp)
  · rintro ⟨e, he⟩
    rw [closureNames_eq_error.1 he] at hsound
    exact ⟨e.name, hsound.2.1⟩
  · rintro ⟨n, hn⟩
    subst hstrict
    cases hr : reach mods roots follow true with
    | ok R => exact (reach_strict_observable hagree hr hn).elim
    | error e => exact ⟨e, closureNames_eq_error.2 hr⟩
  · rw [closureNames_eq_error.1 h] at hsound
    exact hsound.2

/-- `a` requires `b`, and `c` statically; `b` requires `a` back. -/
def cyclicModules : List Descriptor :=
  [{ name := "a", requires := [("b", []), ("c", ["static"])] }, { name := "b", requires := [("a", [])] },
   { name := "c" }]

/-- The name `b`, and the observable `a` given as a descriptor. -/
def cyclicRoots : List Root :=
  [.named "b", .given { name := "a", requires := [("b", []), ("c", ["static"])] }]

/-- Follows the requirements that are not static. -/
def followsNonStatic (modifiers : List String) : Bool := !modifiers.contains "static"

/-- The lenient closure of the roots on the cyclic graph, along requirements that are not
static: the descriptor root agrees with the observable module of its name. -/
theorem closureNames_eq_reachable_of_cycle :
    NamesAgree cyclicModules followsNonStatic cyclicRoots ∧
      ((∀ names, closureNames cyclicModules cyclicRoots followsNonStatic false = .ok names →
          ∀ n, n ∈ names ↔ ∃ d, Reaches cyclicModules followsNonStatic cyclicRoots d ∧ d.name = n) ∧
        (false = false → ∃ names, closureNames cyclicModules cyclicRoots followsNonStatic false = .ok names) ∧
        (false = true → ((∃ e, closureNames cyclicModules cyclicRoots followsNonStatic false = .error e) ↔
          ∃ n, Unobservable cyclicModules followsNonStatic cyclicRoots n)) ∧
        (∀ e, closureNames cyclicModules cyclicRoots followsNonStatic false = .error e →
          Unobservable cyclicModules followsNonStatic cyclicRoots e.name ∧
          e.known = sortedSet (cyclicModules.map (·.name)))) := by
  have hagree : NamesAgree cyclicModules followsNonStatic cyclicRoots := by
    intro d hd e he n
    simp only [cyclicRoots, List.mem_cons, reduceCtorEq, Root.given.injEq, List.not_mem_nil,
      or_false, false_or] at hd
    subst hd
    -- the root agrees with the observable `a`, the only module of its name
    have hlook : lookup cyclicModules "a" =
        some { name := "a", requires := [("b", []), ("c", ["static"])] } := rfl
    rcases he with he | ⟨he, -⟩
    · rw [hlook] at he
      cases he
      exact Iff.rfl
    · simp only [cyclicRoots, List.mem_cons, reduceCtorEq, Root.given.injEq, List.not_mem_nil,
        or_false, false_or] at he
      subst he
      exact Iff.rfl
  exact ⟨hagree, closureNames_eq_reachable hagree⟩

/-- A root given as a descriptor of `a` that requires `c`, after the observable `a` that requires
nothing: `c` is reachable from the second root, but the closure holds `a` alone, the second root
counting as entered already. -/
theorem closureNames_hides_requirements_of_later_root :
    closureNames [{ name := "a" }, { name := "c" }]
        [.named "a", .given { name := "a", requires := [("c", [])] }] (fun _ => true) false =
        .ok ["a"] ∧
      Reaches [{ name := "a" }, { name := "c" }] (fun _ => true)
        [.named "a", .given { name := "a", requires := [("c", [])] }] { name := "c" } := by
  have ha : lookup [{ name := "a" }, { name := "c" }] "a" = some { name := "a" } := rfl
  constructor
  · simp [closureNames, reach, enterRoot, walk_cons_of_lookup_eq_some ha, walk.eq_1, followed,
      Functor.map, Except.map, bind, Except.bind, pure, Except.pure, sortedSet, List.eraseDups_cons]
  · have hroot : Reaches [{ name := "a" }, { name := "c" }] (fun _ => true)
        [.named "a", .given { name := "a", requires := [("c", [])] }]
        { name := "a", requires := [("c", [])] } := .given (by simp)
    have hc : "c" ∈ followed (fun _ => true) { name := "a", requires := [("c", [])] } := by
      simp [followed]
    exact .step hroot hc rfl

end JavaBuild.Module
