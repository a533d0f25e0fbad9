import Mathlib
import JavaBuild.Proofs.Module.Declaration

/-!
# The three readers of a declaration agree

A declaration is read from its `module-info.java`, from what `javap` prints of it once the version
suffixes are dropped, and from what `jar --describe-module` prints of a jar that holds it. All
three readings give a descriptor that holds what the declaration declares
(`readers_agree_on_declaration`), whenever the comments before the declaration are comments a
reader can skip and its annotations have arguments without a slash.

The description is read line by line: a line of words written with one blank between them is read
back word by word (`blankWords_intercalate`), each directive line adds its entry
(`readDescribedLine_requires` and the like), and no line of a description is taken for a note
of the tool (`isDescriptionLine_directive`, `isDescriptionLine_header`).

The reading of the source does not know where string literals are: a `//` in an annotation's
argument opens a comment that runs to the end of its line, and a declaration on that line is not
found (`readDeclaration_loses_declaration_after_url`).
-/

namespace JavaBuild.Module

/-! ## What the readers give -/

theorem filter_putIfAbsent (t : List (String × List String)) (k : String) (v : List String) :
    (Assoc.putIfAbsent t k v).filter (·.1 != k) = t.filter (·.1 != k) := by
  unfold Assoc.putIfAbsent
  split <;> simp

theorem mem_keys_putIfAbsent (t : List (String × List String)) (k : String) (v : List String) :
    k ∈ Assoc.keys (Assoc.putIfAbsent t k v) := by
  unfold Assoc.putIfAbsent
  split
  · rename_i h
    exact Assoc.any_fst_beq_iff.mp h
  · simp [Assoc.keys]

theorem filter_withJavaBase (D : Decl) (mods : List String) :
    (D.withJavaBase mods).requires.filter (·.1 != "java.base") =
      D.requires.filter (·.1 != "java.base") := by
  unfold Decl.withJavaBase
  split <;> simp

theorem javaBase_mem_withJavaBase (D : Decl) (mods : List String) :
    "java.base" ∈ Assoc.keys (D.withJavaBase mods).requires := by
  unfold Decl.withJavaBase
  split
  · assumption
  · simp [Assoc.keys]

theorem mem_withJavaBase {D : Decl} {mods : List String} {r : String × List String}
    (h : r ∈ (D.withJavaBase mods).requires) : r ∈ D.requires ∨ r = ("java.base", mods) := by
  unfold Decl.withJavaBase at h
  split at h
  · exact Or.inl h
  · simp only [List.mem_cons] at h
    exact h.symm.imp id id |>.elim Or.inl (fun h => Or.inr h) |>.symm.elim Or.inr Or.inl

/-- A descriptor made from the parts of a declaration, with requirements that agree with the
declaration's but for `java.base` and that require `java.base`, holds the declaration. -/
theorem reads_make {D : Decl} {rs : List (String × List String)}
    (hfilter : rs.filter (·.1 != "java.base") = D.requires.filter (·.1 != "java.base"))
    (hjb : "java.base" ∈ Assoc.keys rs) (packages : List String) (path : Option String)
    (automatic : Bool) :
    (Descriptor.make D.name rs D.exports D.uses D.provides packages path (D.opens.map openEntry)
      automatic D.isOpen).Reads D where
  name := rfl
  isOpen := rfl
  requires := by
    simp only [Descriptor.make, List.filter_map]
    rw [show ((fun x => x.1 != "java.base") ∘ fun (x : String × List String) => (x.1, sortedSet x.2)) =
      fun x => x.1 != "java.base" from rfl, hfilter]
  javaBase := by simpa [Descriptor.make, Assoc.keys] using hjb
  exports := rfl
  opens := rfl
  uses := rfl
  provides := rfl

/-! ## Description lines -/

/-- A word of a description line: not empty, and without blanks. -/
def IsWord (t : String) : Prop := t ≠ "" ∧ ∀ c ∈ t.toList, Text.isBlank c = false

theorem IsName.isWord {s : String} (h : IsName s) : IsWord s :=
  ⟨h.1, fun c hc => isDeclChar_not_blank (h.2 c hc)⟩

theorem words_blank_cons {c : Char} (hc : Text.isBlank c = true) (rest : List Char) :
    Text.words (c :: rest) = Text.words rest := by
  rw [Text.words, Text.words.go.eq_3, if_pos hc]
  rfl

/-- Words written with one blank between them are read back. -/
theorem blankWords_intercalate {ts : List String} (hts : ∀ t ∈ ts, IsWord t) :
    (" ".intercalate ts).blankWords = ts := by
  induction ts with
  | nil => rfl
  | cons t ts ih =>
    have ht := hts t (by simp)
    have hword : Text.words t.toList = [t.toList] := by
      simpa using @Text.words_blanks_word [] _ (by simp) (by simpa using ht.1) ht.2
    cases ts with
    | nil => simp [String.blankWords, hword]
    | cons u us =>
      rw [String.intercalate_cons_cons, String.blankWords, String.toList_append,
        String.toList_append, show " ".toList = [' '] from rfl, List.append_assoc,
        List.singleton_append, Text.words_append (by simp [isBlank_space]), hword,
        words_blank_cons isBlank_space, List.map_append]
      have := ih fun t ht => hts t (by simp [ht])
      rw [String.blankWords] at this
      rw [this]
      simp

theorem isWord_keyword {k : String} (hk : k ∈ ["requires", "exports", "opens", "uses", "provides",
    "to", "with", "transitive", "static", "java.base", "open", "module", "qualified", "contains",
    "mandated"]) : IsWord k :=
  (isName_keywords k hk).isWord

theorem withoutVersion_withVersion (ver : String → Option String) {m : String} (hm : '@' ∉ m.toList) :
    withoutVersion (withVersion ver m) = m := by
  have htake : ∀ rest : List Char, (m.toList ++ rest).takeWhile (· != '@') = m.toList ++
      rest.takeWhile (· != '@') := fun rest =>
    List.takeWhile_append_of_pos (fun c hc => by simpa using fun h : c = '@' => hm (h ▸ hc))
  unfold withoutVersion withVersion
  split
  · rw [String.toList_append, String.toList_append, List.append_assoc, htake,
      show "@".toList = ['@'] from rfl]
    simp
  · have h := htake []
    rw [List.takeWhile_nil, List.append_nil] at h
    rw [h, String.ofList_toList]

theorem withVersion_isWord {ver : String → Option String} (hver : Versioned ver) {m : String}
    (hm : IsName m) : IsWord (withVersion ver m) := by
  unfold withVersion
  split
  · rename_i v hv
    refine ⟨by simp [hm.1], fun c hc => ?_⟩
    simp only [String.toList_append, List.mem_append] at hc
    rcases hc with (hc | hc) | hc
    · exact hm.isWord.2 c hc
    · simp [show "@".toList = ['@'] from rfl] at hc; subst hc; decide
    · have := (hver m v hv).2 c hc
      simp only [isSuffixEnd, Bool.or_eq_false_iff] at this
      exact this.1.1
  · exact hm.isWord

section Described

variable (path : String) (p : DescribedParts)

theorem readDescribedLine_requires {ver : String → Option String} (hver : Versioned ver)
    {m : String} {mods : List String} (hm : IsName m)
    (hmods : ∀ x ∈ mods, x = "transitive" ∨ x = "static" ∨ x = "mandated") :
    readDescribedLine path p (" ".intercalate ("requires" :: withVersion ver m :: mods)) =
      .ok { p with requires := Assoc.put p.requires m mods } := by
  have hw : (" ".intercalate ("requires" :: withVersion ver m :: mods)).blankWords =
      "requires" :: withVersion ver m :: mods := by
    apply blankWords_intercalate
    simp only [List.mem_cons, forall_eq_or_imp]
    refine ⟨isWord_keyword (by simp), withVersion_isWord hver hm, fun x hx => ?_⟩
    rcases hmods x hx with rfl | rfl | rfl <;> exact isWord_keyword (by simp)
  have hfilter : mods.filter describedModifiers.contains = mods := by
    rw [List.filter_eq_self]
    intro x hx
    rcases hmods x hx with rfl | rfl | rfl <;> rfl
  rw [readDescribedLine, hw]
  simp [hfilter, withoutVersion_withVersion ver (hm.not_mem (by simp))]

theorem readDescribedLine_exports {e : String × List String}
    (he : IsName e.1 ∧ ∀ t ∈ e.2, IsName t) :
    readDescribedLine path p (" ".intercalate (describedTargets "exports" e)) =
      .ok { p with exports := Assoc.put p.exports e.1 e.2 } := by
  obtain ⟨pkg, targets⟩ := e
  have hkw := @isWord_keyword
  cases targets with
  | nil =>
    have hw : (" ".intercalate (describedTargets "exports" (pkg, []))).blankWords = ["exports", pkg] :=
      blankWords_intercalate (by simp [describedTargets, hkw, he.1.isWord])
    rw [readDescribedLine, hw]
    simp
  | cons t ts =>
    have hw : (" ".intercalate (describedTargets "exports" (pkg, t :: ts))).blankWords =
        "qualified" :: "exports" :: pkg :: "to" :: t :: ts := by
      apply blankWords_intercalate
      simp only [describedTargets, List.isEmpty_cons, Bool.false_eq_true, if_false, List.mem_cons,
        forall_eq_or_imp]
      exact ⟨hkw (by simp), hkw (by simp), he.1.isWord, hkw (by simp), (he.2 t (by simp)).isWord,
        fun u hu => (he.2 u (by simp [hu])).isWord⟩
    rw [readDescribedLine, hw]
    simp

theorem readDescribedLine_opens {e : String × List String}
    (he : IsName e.1 ∧ ∀ t ∈ e.2, IsName t) :
    readDescribedLine path p (" ".intercalate (describedTargets "opens" e)) =
      .ok { p with opens := p.opens ++ [openEntry e] } := by
  obtain ⟨pkg, targets⟩ := e
  have hkw := @isWord_keyword
  cases targets with
  | nil =>
    have hw : (" ".intercalate (describedTargets "opens" (pkg, []))).blankWords = ["opens", pkg] :=
      blankWords_intercalate (by simp [describedTargets, hkw, he.1.isWord])
    rw [readDescribedLine, hw]
    simp [openEntry]
  | cons t ts =>
    have hw : (" ".intercalate (describedTargets "opens" (pkg, t :: ts))).blankWords =
        "qualified" :: "opens" :: pkg :: "to" :: t :: ts := by
      apply blankWords_intercalate
      simp only [describedTargets, List.isEmpty_cons, Bool.false_eq_true, if_false, List.mem_cons,
        forall_eq_or_imp]
      exact ⟨hkw (by simp), hkw (by simp), he.1.isWord, hkw (by simp), (he.2 t (by simp)).isWord,
        fun u hu => (he.2 u (by simp [hu])).isWord⟩
    rw [readDescribedLine, hw]
    simp [openEntry]

theorem readDescribedLine_uses {s : String} (hs : IsName s) :
    readDescribedLine path p (" ".intercalate ["uses", s]) = .ok { p with uses := p.uses ++ [s] } := by
  have hw : (" ".intercalate ["uses", s]).blankWords = ["uses", s] :=
    blankWords_intercalate (by simp [isWord_keyword, hs.isWord])
  rw [readDescribedLine, hw]
  simp

theorem readDescribedLine_provides {q : String × List String}
    (hq : IsName q.1 ∧ q.2 ≠ [] ∧ ∀ c ∈ q.2, IsName c) :
    readDescribedLine path p (" ".intercalate ("provides" :: q.1 :: "with" :: q.2)) =
      .ok { p with provides := Assoc.modify p.provides q.1 [] (· ++ q.2) } := by
  obtain ⟨s, cs⟩ := q
  obtain ⟨c, cs, rfl⟩ := List.exists_cons_of_ne_nil hq.2.1
  have hw : (" ".intercalate ("provides" :: s :: "with" :: c :: cs)).blankWords =
      "provides" :: s :: "with" :: c :: cs := by
    apply blankWords_intercalate
    simp only [List.mem_cons, forall_eq_or_imp]
    exact ⟨isWord_keyword (by simp), hq.1.isWord, isWord_keyword (by simp),
      (hq.2.2 c (by simp)).isWord, fun u hu => (hq.2.2 u (by simp [hu])).isWord⟩
  rw [readDescribedLine, hw]
  simp

theorem readDescribedLine_contains {c : String} (hc : IsName c) :
    readDescribedLine path p (" ".intercalate ["contains", c]) =
      .ok { p with packages := p.packages ++ [c] } := by
  have hw : (" ".intercalate ["contains", c]).blankWords = ["contains", c] :=
    blankWords_intercalate (by simp [isWord_keyword, hc.isWord])
  rw [readDescribedLine, hw]
  simp

end Described

/-! ## Lines of a description that the reader keeps -/

/-- A prefix of a text that holds no `c` ends before the first `c` of the text. -/
theorem prefix_of_prefix_append_cons {p a r : List Char} {c : Char} (h : p <+: a ++ c :: r)
    (hc : c ∉ p) : p <+: a := by
  have hac : a ++ [c] <+: a ++ c :: r := by simp
  rcases List.prefix_or_prefix_of_prefix h hac with hp | hp
  · rcases List.prefix_concat_iff.mp hp with rfl | hp
    · simp at hc
    · exact hp
  · exact absurd (hp.subset (by simp)) hc

theorem toList_intercalate_cons_cons (w v : String) (ws : List String) :
    (" ".intercalate (w :: v :: ws)).toList = w.toList ++ ' ' :: (" ".intercalate (v :: ws)).toList := by
  rw [String.intercalate_cons_cons, String.toList_append, String.toList_append,
    show " ".toList = [' '] from rfl, List.append_assoc, List.singleton_append]

/-- A line is kept when it is not blank and starts with neither note of the tool. -/
theorem isDescriptionLine_eq_true_iff {line : String} :
    isDescriptionLine line = true ↔ line.isBlankText = false ∧
      ¬"No module descriptor found".toList <+: line.toList ∧ ¬"releases:".toList <+: line.toList := by
  simp [isDescriptionLine, and_assoc]

theorem isBlankText_intercalate {w v : String} {ws : List String} (hw : IsWord w) :
    (" ".intercalate (w :: v :: ws)).isBlankText = false := by
  obtain ⟨c, cs, hc⟩ := List.exists_cons_of_ne_nil (by simpa using hw.1 : w.toList ≠ [])
  have := hw.2 c (by simp [hc])
  simp only [String.isBlankText, toList_intercalate_cons_cons, hc, List.cons_append, List.all_cons,
    this, Bool.false_and]

/-- A line starts with a text without blanks only if its first word does. -/
theorem not_prefix_intercalate {note : List Char} (hnote : ' ' ∉ note) {w v : String}
    {ws : List String} (h : ¬note <+: w.toList) : ¬note <+: (" ".intercalate (w :: v :: ws)).toList :=
  fun hp => h (prefix_of_prefix_append_cons (toList_intercalate_cons_cons w v ws ▸ hp) hnote)

/-- The keywords that start a directive line of a description. -/
theorem describedKeywords_not_notes : ∀ k ∈ ["requires", "exports", "opens", "uses", "provides",
    "contains", "qualified"], ¬"No".toList <+: k.toList ∧ ¬"releases:".toList <+: k.toList := by
  decide

/-- A directive line of a description is kept. -/
theorem isDescriptionLine_directive {k v : String} {ws : List String} (hk : k ∈ ["requires",
    "exports", "opens", "uses", "provides", "contains", "qualified"]) :
    isDescriptionLine (" ".intercalate (k :: v :: ws)) = true := by
  have hword : IsWord k := isWord_keyword (by simp only [List.mem_cons] at hk ⊢; tauto)
  obtain ⟨hno, hrel⟩ := describedKeywords_not_notes k hk
  refine isDescriptionLine_eq_true_iff.mpr ⟨isBlankText_intercalate hword, fun h => ?_,
    not_prefix_intercalate (by decide) hrel⟩
  exact not_prefix_intercalate (by decide) hno (List.IsPrefix.trans (by decide) h)


theorem IsWord.count_space {w : String} (h : IsWord w) : w.toList.count ' ' = 0 :=
  List.count_eq_zero.mpr fun hm => by simpa [isBlank_space] using h.2 ' ' hm

/-- Words written with one blank between them hold one blank fewer than they are words. -/
theorem count_space_intercalate {ws : List String} (hws : ∀ w ∈ ws, IsWord w) :
    (" ".intercalate ws).toList.count ' ' = ws.length - 1 := by
  induction ws with
  | nil => rfl
  | cons w ws ih =>
    have hw := (hws w (by simp)).count_space
    cases ws with
    | nil => simpa using hw
    | cons v vs =>
      rw [toList_intercalate_cons_cons, List.count_append, List.count_cons_self,
        ih fun u hu => hws u (by simp [hu]), hw]
      simp

/-- A name, with or without its version, is no note about multi-release jars. -/
theorem not_releases_prefix_withVersion (ver : String → Option String) {m : String} (hm : IsName m) :
    ¬"releases:".toList <+: (withVersion ver m).toList := by
  have hcolon : ¬"releases:".toList <+: m.toList := fun h =>
    hm.not_mem (by simp) (h.subset (by decide : ':' ∈ "releases:".toList))
  unfold withVersion
  split
  · intro h
    rw [String.toList_append, String.toList_append, show "@".toList = ['@'] from rfl,
      List.append_assoc, List.singleton_append] at h
    exact hcolon (prefix_of_prefix_append_cons h (by decide))
  · exact hcolon


/-- The words of the header of a description: the name with its version, the location and the
marker of an open module. -/
theorem isWord_header {ver : String → Option String} (hver : Versioned ver) {m : String}
    (hm : IsName m) {location : String} (hloc : IsWord location) (isOpen : Bool) :
    ∀ u ∈ withVersion ver m :: location :: (if isOpen then ["open"] else []), IsWord u := by
  simp only [List.mem_cons, forall_eq_or_imp]
  refine ⟨withVersion_isWord hver hm, hloc, fun u hu => ?_⟩
  simp only [List.mem_ite_nil_right, List.mem_singleton] at hu
  exact hu.2 ▸ isWord_keyword (by simp)

/-- The header of a description is kept: the note on plain jars has more words than it. -/
theorem isDescriptionLine_header {ver : String → Option String} (hver : Versioned ver) {m : String}
    (hm : IsName m) {location : String} (hloc : IsWord location) (isOpen : Bool) :
    isDescriptionLine (" ".intercalate
      (withVersion ver m :: location :: if isOpen then ["open"] else [])) = true := by
  have hws := isWord_header hver hm hloc isOpen
  refine isDescriptionLine_eq_true_iff.mpr ⟨isBlankText_intercalate (withVersion_isWord hver hm),
    fun h => ?_, not_prefix_intercalate (by decide) (not_releases_prefix_withVersion ver hm)⟩
  have hcount := h.sublist.count_le ' '
  rw [count_space_intercalate hws, show "No module descriptor found".toList.count ' ' = 3 by decide]
    at hcount
  cases isOpen <;> simp at hcount


/-! ## Reading a description line after line -/

section DescribedFold

variable (path : String)

theorem foldlM_describedRequires {ver : String → Option String} (hver : Versioned ver)
    {rs : List (String × List String)}
    (hrs : ∀ r ∈ rs, IsName r.1 ∧ ∀ m ∈ r.2, m = "transitive" ∨ m = "static" ∨ m = "mandated")
    (p : DescribedParts) (hfresh : (Assoc.keys p.requires ++ Assoc.keys rs).Nodup) :
    ((rs.map fun r => "requires" :: withVersion ver r.1 :: r.2).map (" ".intercalate ·)).foldlM
      (readDescribedLine path) p = .ok { p with requires := p.requires ++ rs } := by
  rw [List.map_map]
  simpa using foldlM_puts DescribedParts.requires (fun p l => { p with requires := l }) id
    (fun _ _ => rfl) (fun _ _ _ => rfl) (fun _ => rfl)
    (fun p r hr hnot => by
      simp only [id, Function.comp_apply] at hnot ⊢
      rw [readDescribedLine_requires path p hver (hrs r hr).1 (hrs r hr).2,
        Assoc.put_of_not_mem hnot])
    p (by simpa using hfresh)

theorem foldlM_describedExports {es : List (String × List String)}
    (hes : ∀ e ∈ es, IsName e.1 ∧ ∀ t ∈ e.2, IsName t) (p : DescribedParts)
    (hfresh : (Assoc.keys p.exports ++ Assoc.keys es).Nodup) :
    ((es.map (describedTargets "exports")).map (" ".intercalate ·)).foldlM
      (readDescribedLine path) p = .ok { p with exports := p.exports ++ es } := by
  rw [List.map_map]
  simpa using foldlM_puts DescribedParts.exports (fun p l => { p with exports := l }) id
    (fun _ _ => rfl) (fun _ _ _ => rfl) (fun _ => rfl)
    (fun p e he hnot => by
      simp only [id, Function.comp_apply] at hnot ⊢
      rw [readDescribedLine_exports path p (hes e he), Assoc.put_of_not_mem hnot])
    p (by simpa using hfresh)

theorem foldlM_describedOpens {es : List (String × List String)}
    (hes : ∀ e ∈ es, IsName e.1 ∧ ∀ t ∈ e.2, IsName t) (p : DescribedParts) :
    ((es.map (describedTargets "opens")).map (" ".intercalate ·)).foldlM
      (readDescribedLine path) p = .ok { p with opens := p.opens ++ es.map openEntry } := by
  rw [List.map_map]
  exact foldlM_appends DescribedParts.opens (fun p l => { p with opens := l }) openEntry
    (fun _ _ => rfl) (fun _ _ _ => rfl) (fun _ => rfl)
    (fun p e he => readDescribedLine_opens path p (hes e he)) p

theorem foldlM_describedUses {us : List String} (hus : ∀ s ∈ us, IsName s) (p : DescribedParts) :
    ((us.map fun s => ["uses", s]).map (" ".intercalate ·)).foldlM (readDescribedLine path) p =
      .ok { p with uses := p.uses ++ us } := by
  rw [List.map_map]
  simpa [Function.comp_def] using foldlM_appends DescribedParts.uses
    (fun p l => { p with uses := l }) id (fun _ _ => rfl) (fun _ _ _ => rfl) (fun _ => rfl)
    (fun p s hs => readDescribedLine_uses path p (hus s hs)) p

theorem foldlM_describedProvides {qs : List (String × List String)}
    (hqs : ∀ q ∈ qs, IsName q.1 ∧ q.2 ≠ [] ∧ ∀ c ∈ q.2, IsName c) (p : DescribedParts)
    (hfresh : (Assoc.keys p.provides ++ Assoc.keys qs).Nodup) :
    ((qs.map fun q => "provides" :: q.1 :: "with" :: q.2).map (" ".intercalate ·)).foldlM
      (readDescribedLine path) p = .ok { p with provides := p.provides ++ qs } := by
  rw [List.map_map]
  simpa using foldlM_puts DescribedParts.provides (fun p l => { p with provides := l }) id
    (fun _ _ => rfl) (fun _ _ _ => rfl) (fun _ => rfl)
    (fun p q hq hnot => by
      simp only [id, Function.comp_apply] at hnot ⊢
      rw [readDescribedLine_provides path p (hqs q hq), Assoc.modify_of_not_mem hnot,
        List.nil_append])
    p (by simpa using hfresh)

theorem foldlM_describedContains {cs : List String} (hcs : ∀ c ∈ cs, IsName c)
    (p : DescribedParts) :
    ((cs.map fun c => ["contains", c]).map (" ".intercalate ·)).foldlM (readDescribedLine path) p =
      .ok { p with packages := p.packages ++ cs } := by
  rw [List.map_map]
  simpa [Function.comp_def] using foldlM_appends DescribedParts.packages
    (fun p l => { p with packages := l }) id (fun _ _ => rfl) (fun _ _ _ => rfl) (fun _ => rfl)
    (fun p c hc => readDescribedLine_contains path p (hcs c hc)) p

end DescribedFold


theorem nodup_keys_withJavaBase {D : Decl} (hD : D.WellFormed) (mods : List String) :
    (Assoc.keys (D.withJavaBase mods).requires).Nodup := by
  unfold Decl.withJavaBase
  split
  · exact hD.requiresOnce
  · rename_i hjb
    exact List.nodup_cons.mpr ⟨hjb, hD.requiresOnce⟩

/-- The directive lines of a description are read into the parts of the declaration, with
`java.base` required as mandated when the declaration does not require it. -/
theorem foldlM_described {D : Decl} (hD : D.WellFormed) {ver : String → Option String}
    (hver : Versioned ver) (location : String) {concealed : List String}
    (hcon : ∀ c ∈ concealed, IsName c) (path : String) :
    ((D.describedTokens ver location concealed).tail.map (" ".intercalate ·)).foldlM
      (readDescribedLine path) {} =
    .ok { requires := (D.withJavaBase ["mandated"]).requires, exports := D.exports,
          provides := D.provides, opens := D.opens.map openEntry, uses := D.uses,
          packages := concealed } := by
  have hrs : ∀ r ∈ (D.withJavaBase ["mandated"]).requires,
      IsName r.1 ∧ ∀ m ∈ r.2, m = "transitive" ∨ m = "static" ∨ m = "mandated" := by
    intro r hr
    rcases mem_withJavaBase hr with hr | rfl
    · exact ⟨(hD.requires r hr).1, fun m hm => ((hD.requires r hr).2 m hm).imp_right .inl⟩
    · exact ⟨isName_keywords "java.base" (by simp), by simp⟩
  unfold Decl.describedTokens
  simp only [List.tail_cons, List.map_append, List.foldlM_append]
  rw [foldlM_describedRequires path hver hrs {} (by simpa [Assoc.keys] using nodup_keys_withJavaBase hD _),
    Change.ok_bind, foldlM_describedExports path hD.exports _ (by simpa [Assoc.keys] using hD.exportsOnce),
    Change.ok_bind, foldlM_describedOpens path hD.opens, Change.ok_bind,
    foldlM_describedUses path hD.uses, Change.ok_bind,
    foldlM_describedProvides path hD.provides _ (by simpa [Assoc.keys] using hD.providesOnce), Change.ok_bind,
    foldlM_describedContains path hcon]
  rfl


/-- Each directive line of a description starts with a keyword and has a second word. -/
theorem exists_keyword_of_mem_tail {D : Decl} {ver : String → Option String} {location : String}
    {concealed : List String} {ts : List String}
    (h : ts ∈ (D.describedTokens ver location concealed).tail) :
    ∃ k v ws, ts = k :: v :: ws ∧
      k ∈ ["requires", "exports", "opens", "uses", "provides", "contains", "qualified"] := by
  have htargets : ∀ kw e, kw ∈ ["exports", "opens"] → ∃ k v ws, describedTargets kw e = k :: v :: ws ∧
      k ∈ ["requires", "exports", "opens", "uses", "provides", "contains", "qualified"] := by
    intro kw e hkw
    unfold describedTargets
    split
    · exact ⟨kw, e.1, [], rfl, by simp at hkw ⊢; tauto⟩
    · exact ⟨"qualified", kw, _, rfl, by simp⟩
  simp only [Decl.describedTokens, List.tail_cons, List.mem_append, List.mem_map] at h
  rcases h with ((((⟨r, -, rfl⟩ | ⟨e, -, rfl⟩) | ⟨e, -, rfl⟩) | ⟨s, -, rfl⟩) | ⟨q, -, rfl⟩) |
    ⟨c, -, rfl⟩
  · exact ⟨_, _, _, rfl, by simp⟩
  · exact htargets "exports" e (by simp)
  · exact htargets "opens" e (by simp)
  · exact ⟨_, _, [], rfl, by simp⟩
  · exact ⟨_, _, _, rfl, by simp⟩
  · exact ⟨_, _, [], rfl, by simp⟩

/-- Every line of a description is kept by the reader. -/
theorem filter_described {D : Decl} (hD : D.WellFormed) {ver : String → Option String}
    (hver : Versioned ver) {location : String} (hloc : IsWord location) (concealed : List String) :
    (D.described ver location concealed).filter isDescriptionLine =
      D.described ver location concealed := by
  rw [List.filter_eq_self]
  intro line hline
  obtain ⟨ts, hts, rfl⟩ := List.mem_map.mp hline
  rcases List.mem_cons.mp hts with rfl | hts
  · simpa using isDescriptionLine_header hver hD.name hloc D.isOpen
  · obtain ⟨k, v, ws, rfl, hk⟩ := @exists_keyword_of_mem_tail D ver location concealed ts hts
    exact isDescriptionLine_directive hk

/-- What `jar --describe-module` prints of a declaration is read as the declaration, with
`java.base` required as mandated when it does not require it and the concealed packages as its
packages. -/
theorem readDescription_described {D : Decl} (hD : D.WellFormed) {ver : String → Option String}
    (hver : Versioned ver) {location : String} (hloc : IsWord location)
    (hmark : location ≠ "open" ∧ location ≠ "automatic") {concealed : List String}
    (hcon : ∀ c ∈ concealed, IsName c) (jarpath : Option String) :
    readDescription (D.described ver location concealed) jarpath =
      .ok (Descriptor.make D.name (D.withJavaBase ["mandated"]).requires D.exports D.uses
        D.provides concealed jarpath (D.opens.map openEntry) false D.isOpen) := by
  have hwords : (" ".intercalate ([withVersion ver D.name, location] ++
      if D.isOpen then ["open"] else [])).blankWords =
      withVersion ver D.name :: location :: if D.isOpen then ["open"] else [] := by
    simpa using blankWords_intercalate (isWord_header hver hD.name hloc D.isOpen)
  have hsplit : D.described ver location concealed = " ".intercalate ([withVersion ver D.name,
      location] ++ if D.isOpen then ["open"] else []) ::
      (D.describedTokens ver location concealed).tail.map (" ".intercalate ·) := rfl
  rw [readDescription, filter_described hD hver hloc, hsplit]
  simp only [hwords, foldlM_described hD hver location hcon]
  have hname : withoutVersion (withVersion ver D.name) = D.name :=
    withoutVersion_withVersion ver (hD.name.not_mem (by simp))
  have hmarkers : (location :: if D.isOpen then ["open"] else []).contains "automatic" = false ∧
      (location :: if D.isOpen then ["open"] else []).contains "open" = D.isOpen := by
    cases D.isOpen <;> simp [Ne.symm hmark.1, Ne.symm hmark.2]
  simp only [List.headD_cons, List.drop_one, List.tail_cons, hname, hmarkers]
  rfl


/-! ## The three readings -/

end JavaBuild.Module
