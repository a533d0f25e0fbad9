import JavaBuild.Files.Disk

/-!
# Moving entries on the disk

A move (`Disk.rename`) that succeeds carries the entry at its source, and everything inside it, to
its target (`Disk.moveTree`). Seen through `find?`, the target then holds what the source held
(`find?_moveTree_dst`), the source holds nothing (`find?_moveTree_src`), and every path that is
neither of them nor lies inside either is left as it was (`find?_moveTree_of_apart`).

Whether a move can be made depends only on what the disk holds at its two paths and at the
directories on the way to them. So among paths that lie apart (`Apart`), a move can be undone on
any disk that agrees with its outcome on those paths and directories (`Apart.rename_back`),
whatever else changed in between.
-/

namespace JavaBuild.Disk

/-! ## Lookups among filtered entries -/

theorem lookup_filter_of_forall {l : List (String × Entry)} {p : String × Entry → Bool}
    {x : String} (h : ∀ e ∈ l, e.1 = x → p e = true) : (l.filter p).lookup x = l.lookup x := by
  induction l with
  | nil => rfl
  | cons e l ih =>
    have ih' := ih fun e' he' => h e' (List.mem_cons_of_mem _ he')
    by_cases hx : e.1 = x
    · rw [List.filter_cons_of_pos (h e List.mem_cons_self hx)]
      obtain ⟨k, v⟩ := e
      simp only at hx
      subst hx
      rw [List.lookup_cons_self, List.lookup_cons_self]
    · obtain ⟨k, v⟩ := e
      have hkx : (x == k) = false := beq_false_of_ne fun h => hx h.symm
      rw [List.filter_cons]
      split
      · rw [List.lookup_cons, List.lookup_cons, hkx]
        exact ih'
      · rw [ih', List.lookup_cons, hkx]

theorem lookup_filter_of_forall_not {l : List (String × Entry)} {p : String × Entry → Bool}
    {x : String} (h : ∀ e ∈ l, e.1 = x → p e = false) : (l.filter p).lookup x = none := by
  rw [List.lookup_eq_none_iff]
  intro e he
  rw [List.mem_filter] at he
  rw [bne_iff_ne]
  rintro rfl
  rw [h e he.1 rfl] at he
  exact Bool.false_ne_true he.2

/-! ## Paths carried along -/

/-- No path lies inside itself. -/
theorem isInside_self (p : String) : isInside p p = false := by
  unfold isInside
  split
  · rename_i h
    rw [beq_iff_eq] at h
    simp [h]
  · rw [String.startsWith_string_eq_false_iff]
    intro h
    have hl := h.length_le
    rw [String.toList_append, List.length_append] at hl
    have hslash : ("/" : String).toList.length = 1 := rfl
    omega

/-- A path inside the source is carried to a path inside the target. -/
theorem isInside_carried {src dst q : String} (hs : src ≠ "/") (hq : isInside src q = true) :
    isInside dst (dst ++ String.ofList (q.toList.drop src.length)) = true := by
  unfold isInside at hq ⊢
  have hs' : (src == "/") = false := by simpa using hs
  rw [hs', if_neg (by simp)] at hq
  rw [String.startsWith_string_iff] at hq
  obtain ⟨t, ht⟩ := hq
  have hdrop : q.toList.drop src.length = '/' :: t := by
    rw [← ht, String.toList_append]
    simp [String.length]
  split
  · rename_i hd
    rw [beq_iff_eq] at hd
    subst hd
    rw [bne_iff_ne]
    intro h
    have hl := congrArg String.toList h
    simp [hdrop] at hl
  · rw [String.startsWith_string_iff]
    exact ⟨t, by simp [hdrop]⟩

/-- An entry inside the source is carried to somewhere other than the target itself. -/
theorem carried_ne {src dst q : String} (hs : src ≠ "/") (hq : isInside src q = true) :
    dst ++ String.ofList (q.toList.drop src.length) ≠ dst := by
  intro h
  have hin : isInside dst (dst ++ String.ofList (q.toList.drop src.length)) = true :=
    isInside_carried hs hq
  rw [h, isInside_self] at hin
  exact Bool.false_ne_true hin

/-- Among the entries carried, the target holds what the source held. -/
theorem lookup_carried_dst {src dst : String} (hs : src ≠ "/") (l : List (String × Entry)) :
    (l.filterMap fun (q, f) =>
      if q == src then some (dst, f)
      else if isInside src q then some (dst ++ String.ofList (q.toList.drop src.length), f)
      else none).lookup dst = l.lookup src := by
  induction l with
  | nil => rfl
  | cons e l ih =>
    obtain ⟨q, f⟩ := e
    rw [List.filterMap_cons]
    by_cases hq : q = src
    · subst hq
      simp
    · have hqs : (src == q) = false := beq_false_of_ne fun h => hq h.symm
      by_cases hin : isInside src q = true
      · simp only [beq_false_of_ne hq, hin, Bool.false_eq_true, ↓reduceIte, List.lookup_cons,
          beq_false_of_ne (carried_ne hs hin).symm, hqs]
        exact ih
      · simp only [beq_false_of_ne hq, hin, Bool.false_eq_true, ↓reduceIte, List.lookup_cons,
          hqs]
        exact ih

/-- Every entry carried lands at the target or inside it. -/
theorem lookup_carried_of_apart {src dst x : String} (hs : src ≠ "/") (hxd : x ≠ dst)
    (hin : isInside dst x = false) (l : List (String × Entry)) :
    (l.filterMap fun (q, f) =>
      if q == src then some (dst, f)
      else if isInside src q then some (dst ++ String.ofList (q.toList.drop src.length), f)
      else none).lookup x = none := by
  rw [List.lookup_eq_none_iff]
  intro e he
  obtain ⟨⟨q, f⟩, -, hqe⟩ := List.mem_filterMap.mp he
  rw [bne_iff_ne]
  by_cases hq : q = src
  · simp only [hq, beq_self_eq_true, ↓reduceIte, Option.some.injEq] at hqe
    subst hqe
    exact hxd
  · by_cases hqin : isInside src q = true
    · simp only [beq_false_of_ne hq, hqin, Bool.false_eq_true, ↓reduceIte,
        Option.some.injEq] at hqe
      subst hqe
      rintro rfl
      rw [isInside_carried hs hqin] at hin
      exact Bool.false_ne_true hin.symm
    · simp [beq_false_of_ne hq, hqin] at hqe

/-! ## What a move does -/

/-- What a successful move did: the source was there, the target's directories too, and the
entries were moved unless source and target are one path. -/
theorem rename_eq_ok {d d' : Disk} {src dst : String} (h : d.rename src dst = .ok d') :
    (∃ e, d.lookup src = .ok e) ∧ d.checkAncestors dst = .ok () ∧
      (src = dst ∧ d' = d ∨ src ≠ dst ∧ d' = d.moveTree src dst) := by
  unfold rename at h
  cases hl : d.lookup src with
  | error e => simp [hl] at h; cases h
  | ok e =>
    cases hc : d.checkAncestors dst with
    | error e' => simp [hl, hc] at h; cases h
    | ok u =>
      refine ⟨⟨e, rfl⟩, rfl, ?_⟩
      simp only [hl, hc] at h
      by_cases hs : src = dst
      · subst hs
        simp only [bind, Except.bind, beq_self_eq_true, ↓reduceIte, pure, Except.pure,
          Except.ok.injEq] at h
        exact .inl ⟨rfl, h.symm⟩
      · refine .inr ⟨hs, ?_⟩
        simp only [bind, Except.bind, beq_iff_eq, hs, ↓reduceIte] at h
        -- every refusal is an error, so the move went through
        split at h <;> (try split at h) <;> (try split at h) <;>
          simp_all [pure, Except.pure, throw, throwThe, MonadExceptOf.throw]

theorem rename_eq_moveTree_of_ne {d d' : Disk} {src dst : String}
    (h : d.rename src dst = .ok d') (hne : src ≠ dst) : d' = d.moveTree src dst :=
  ((rename_eq_ok h).2.2.resolve_left fun h => hne h.1).2

/-- After a move the target holds what the source held. -/
theorem find?_moveTree_dst (d : Disk) {src dst : String} (hs : src ≠ "/") (hd : dst ≠ "/") :
    (d.moveTree src dst).find? dst = d.find? src := by
  simp only [find?, beq_false_of_ne hs, beq_false_of_ne hd, Bool.false_eq_true, ↓reduceIte,
    moveTree, erase, List.filter_filter, List.lookup_append, lookup_carried_dst hs]
  rw [lookup_filter_of_forall_not]
  · rfl
  · rintro ⟨q, f⟩ - rfl
    simp

/-- After a move the source holds nothing, unless it lies inside the target. -/
theorem find?_moveTree_src (d : Disk) {src dst : String} (hs : src ≠ "/") (hne : src ≠ dst)
    (hin : isInside dst src = false) : (d.moveTree src dst).find? src = none := by
  simp only [find?, beq_false_of_ne hs, Bool.false_eq_true, ↓reduceIte, moveTree, erase,
    List.filter_filter, List.lookup_append, lookup_carried_of_apart hs hne hin]
  rw [lookup_filter_of_forall_not]
  · rfl
  · rintro ⟨q, f⟩ - rfl
    simp

/-- A move leaves every path apart from its source and its target. -/
theorem find?_moveTree_of_apart (d : Disk) {src dst x : String} (hs : src ≠ "/")
    (hxs : x ≠ src) (hxd : x ≠ dst) (hins : isInside src x = false)
    (hind : isInside dst x = false) : (d.moveTree src dst).find? x = d.find? x := by
  unfold find?
  split
  · rfl
  · simp only [moveTree, erase, List.filter_filter, List.lookup_append,
      lookup_carried_of_apart hs hxd hind, Option.or_none]
    apply lookup_filter_of_forall
    rintro ⟨q, f⟩ - rfl
    simp [hxs, hxd, hins, hind]

/-! ## When a move can be made -/

/-- Whether the directories on the way to a path are there depends on those directories only. -/
theorem checkAncestors_congr {d d' : Disk} {p : String}
    (h : ∀ a ∈ ancestors p, d'.find? a = d.find? a) :
    d'.checkAncestors p = d.checkAncestors p := by
  unfold checkAncestors
  generalize ancestors p = l at h
  induction l with
  | nil => rfl
  | cons a as ih =>
    simp only [List.forM_eq_forM, List.forM_cons] at ih ⊢
    rw [h a List.mem_cons_self, ih fun b hb => h b (List.mem_cons_of_mem _ hb)]

theorem lookup_eq_ok_iff {d : Disk} {p : String} {e : Entry} :
    d.lookup p = .ok e ↔ d.checkAncestors p = .ok () ∧ d.find? p = some e := by
  unfold lookup
  cases hc : d.checkAncestors p with
  | error x => simp [bind, Except.bind]
  | ok u =>
    cases hf : d.find? p <;> simp [bind, Except.bind, pure, Except.pure, throw, throwThe,
      MonadExceptOf.throw]

/-- A move that succeeds onto a path that does not exist finds nothing there: the directories on
the way to it are there. -/
theorem find?_eq_none_of_rename {d d' : Disk} {src dst : String} (h : d.rename src dst = .ok d')
    (hx : d.exists? dst = false) : d.find? dst = none := by
  obtain ⟨-, hc, -⟩ := rename_eq_ok h
  cases hf : d.find? dst with
  | none => rfl
  | some e =>
    have hl : d.lookup dst = .ok e := lookup_eq_ok_iff.mpr ⟨hc, hf⟩
    simp [exists?, hl, Except.toBool] at hx

/-- A move succeeds only from a path that exists. -/
theorem exists?_of_rename {d d' : Disk} {src dst : String} (h : d.rename src dst = .ok d') :
    d.exists? src = true := by
  obtain ⟨⟨e, hl⟩, -⟩ := rename_eq_ok h
  simp [exists?, hl, Except.toBool]

theorem exists?_eq_false_of_find? {d : Disk} {p : String} (h : d.find? p = none) :
    d.exists? p = false := by
  cases hc : d.checkAncestors p <;> simp [exists?, lookup, hc, h, bind, Except.bind, throw,
    throwThe, MonadExceptOf.throw, Except.toBool]

/-- A move onto a free path, from a path that is there and not a directory holding the target,
succeeds. -/
theorem rename_eq_moveTree {d : Disk} {src dst : String} {e : Entry}
    (hl : d.lookup src = .ok e) (hc : d.checkAncestors dst = .ok ()) (hne : src ≠ dst)
    (hfree : d.find? dst = none) (hin : isInside src dst = false) :
    d.rename src dst = .ok (d.moveTree src dst) := by
  unfold rename
  rw [hl, hc]
  cases e <;> simp [bind, Except.bind, pure, Except.pure, hne, hfree, hin]

/-! ## Moves among paths that lie apart -/

/-- Paths that lie apart: none is the root, no two are one, none lies inside another, and no
directory on the way to one of them is one of them or lies inside one. -/
structure Apart (ps : List String) : Prop where
  nodup : ps.Nodup
  not_root : ∀ p ∈ ps, p ≠ "/"
  not_inside : ∀ p ∈ ps, ∀ q ∈ ps, isInside p q = false
  ancestors_apart : ∀ a ∈ ps.flatMap ancestors, ∀ p ∈ ps, a ≠ p ∧ isInside p a = false

/-- Paths and the directories on the way to them: what decides whether they can be moved. -/
def watched (ps : List String) : List String := ps ++ ps.flatMap ancestors

/-- Two disks hold the same entries at the paths `ps`. -/
def SameOn (ps : List String) (d d' : Disk) : Prop := ∀ x ∈ ps, d.find? x = d'.find? x

theorem SameOn.refl (ps : List String) (d : Disk) : SameOn ps d d := fun _ _ => rfl

theorem SameOn.trans {ps : List String} {d₁ d₂ d₃ : Disk} (h₁ : SameOn ps d₁ d₂)
    (h₂ : SameOn ps d₂ d₃) : SameOn ps d₁ d₃ :=
  fun x hx => (h₁ x hx).trans (h₂ x hx)

theorem ancestors_sub_watched {ps : List String} {p : String} (hp : p ∈ ps) :
    ∀ a ∈ ancestors p, a ∈ watched ps :=
  fun _ ha => List.mem_append_right _ (List.mem_flatMap.mpr ⟨p, hp, ha⟩)

namespace Apart

variable {ps : List String} (hA : Apart ps)
include hA

/-- Moving one of the paths onto another leaves every other watched path. -/
theorem find?_moveTree (d : Disk) {src dst x : String} (hs : src ∈ ps) (hd : dst ∈ ps)
    (hx : x ∈ watched ps) (hxs : x ≠ src) (hxd : x ≠ dst) :
    (d.moveTree src dst).find? x = d.find? x := by
  apply find?_moveTree_of_apart d (hA.not_root src hs) hxs hxd
  all_goals
    rcases List.mem_append.mp hx with hx | hx
    · first
        | exact hA.not_inside _ hs x hx
        | exact hA.not_inside _ hd x hx
    · first
        | exact (hA.ancestors_apart x hx _ hs).2
        | exact (hA.ancestors_apart x hx _ hd).2

/-- A move between two of the paths can be undone on any disk that agrees with its outcome on
the watched paths. -/
theorem rename_back {src dst : String} (hs : src ∈ ps) (hd : dst ∈ ps) (hne : src ≠ dst)
    {d d' d'' : Disk} (h : d.rename src dst = .ok d') (hagree : SameOn (watched ps) d'' d') :
    d''.rename dst src = .ok (d''.moveTree dst src) := by
  obtain ⟨⟨e, hl⟩, hc, -⟩ := rename_eq_ok h
  obtain rfl := rename_eq_moveTree_of_ne h hne
  obtain ⟨hcs, hfs⟩ := lookup_eq_ok_iff.mp hl
  -- the directories on the way to either path are as they were before the move
  have hanc : ∀ p ∈ ps, ∀ a ∈ ancestors p, d''.find? a = d.find? a := by
    intro p hp a ha
    have hw := ancestors_sub_watched hp a ha
    have hap := hA.ancestors_apart a (List.mem_flatMap.mpr ⟨p, hp, ha⟩)
    rw [hagree a hw, hA.find?_moveTree d hs hd hw (hap src hs).1 (hap dst hd).1]
  have hdst : d''.find? dst = some e := by
    rw [hagree dst (List.mem_append_left _ hd),
      find?_moveTree_dst d (hA.not_root src hs) (hA.not_root dst hd), hfs]
  have hsrc : d''.find? src = none := by
    rw [hagree src (List.mem_append_left _ hs)]
    exact find?_moveTree_src d (hA.not_root src hs) hne (hA.not_inside dst hd src hs)
  apply rename_eq_moveTree (e := e)
  · rw [lookup_eq_ok_iff, checkAncestors_congr (hanc dst hd), hc]
    exact ⟨rfl, hdst⟩
  · rw [checkAncestors_congr (hanc src hs), hcs]
  · exact Ne.symm hne
  · exact hsrc
  · exact hA.not_inside dst hd src hs

/-- Undoing a move onto a free path, on a disk that agrees with its outcome, brings back what
the paths and their directories held before it. -/
theorem sameOn_moveTree_back {src dst : String} (hs : src ∈ ps) (hd : dst ∈ ps) (hne : src ≠ dst)
    {d d' d'' : Disk} (h : d.rename src dst = .ok d') (hfree : d.find? dst = none)
    (hagree : SameOn (watched ps) d'' d') : SameOn (watched ps) (d''.moveTree dst src) d := by
  obtain rfl := rename_eq_moveTree_of_ne h hne
  have hsr := hA.not_root src hs
  have hdr := hA.not_root dst hd
  intro x hx
  by_cases hxs : x = src
  · subst hxs
    rw [find?_moveTree_dst d'' hdr hsr, hagree dst (List.mem_append_left _ hd),
      find?_moveTree_dst d hsr hdr]
  by_cases hxd : x = dst
  · subst hxd
    rw [find?_moveTree_src d'' hdr (Ne.symm hne) (hA.not_inside _ hs _ hd), hfree]
  rw [hA.find?_moveTree d'' hd hs hx hxd hxs, hagree x hx, hA.find?_moveTree d hs hd hx hxs hxd]

end Apart

end JavaBuild.Disk
