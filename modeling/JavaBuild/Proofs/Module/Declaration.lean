import Mathlib
import JavaBuild.Proofs.Module.Printed
import JavaBuild.Proofs.Change.Scan
import JavaBuild.Proofs.Patch.Lexing
import JavaBuild.Proofs.Change.Dependents

/-!
# Reading a declaration back

`readDeclaration` reads a declaration back from its `module-info.java` and from what `javap`
prints of it, once the version suffixes are dropped:

- the comment pass turns each comment of the preamble into a blank and leaves annotations whose
  arguments hold no slash as they are (`blankComments_preamble`); the annotation pass then turns
  each annotation into a blank (`blankAnnotations_preamble`);
- the header is found right after the text before it when no header starts there
  (`findHeader_text`), and the body is the text up to the last closing brace;
- the body cut at semicolons gives one directive a piece (`splitOn_body`), each read into the
  parts of the declaration (`readDirective_line`);
- dropping the version suffixes of what `javap` prints gives the declaration without versions
  (`dropVersions_text`), and no header starts in its `Compiled from` line.

So both readings give the declaration (`readDeclaration_source`, `readDeclaration_javap`).
-/

namespace JavaBuild.Assoc

variable {α β : Type} [BEq α] [LawfulBEq α]

theorem lookup_eq_none_of_not_mem {t : List (α × β)} {k : α} (h : k ∉ keys t) : t.lookup k = none := by
  induction t with
  | nil => rfl
  | cons e t ih =>
    simp only [keys, List.map_cons, List.mem_cons, not_or] at h
    rw [lookup_cons_ite, if_neg (by simpa using h.1), ih h.2]

/-- A key not yet in the table is put at its end. -/
theorem put_of_not_mem {t : List (α × β)} {k : α} (h : k ∉ keys t) (v : β) :
    put t k v = t ++ [(k, v)] := by
  rw [put, if_neg (mt any_fst_beq_iff.mp h)]

theorem modify_of_not_mem {t : List (α × β)} {k : α} (h : k ∉ keys t) (d : β) (f : β → β) :
    modify t k d f = t ++ [(k, f d)] := by
  rw [modify, lookup_eq_none_of_not_mem h]

end JavaBuild.Assoc

namespace JavaBuild.Text

theorem close_cons {c : Char} {r : List Char} (h : ¬ (c = '*' ∧ r.head? = some '/')) (n : Nat) :
    commentLength.close (c :: r) n = commentLength.close r (n + 1) := by
  rw [commentLength.close]
  rintro tail rfl rfl
  exact h ⟨rfl, rfl⟩

/-- A block comment closes at the first `*/`. -/
theorem close_append {t : List Char} (ht : ¬ ['*', '/'] <:+: t) (more : List Char) (n : Nat) :
    commentLength.close (t ++ '*' :: '/' :: more) n = some (n + t.length + 2) := by
  induction t generalizing n with
  | nil => rw [List.nil_append, commentLength.close]; rfl
  | cons c t ih =>
    have hnot : ¬ (c = '*' ∧ (t ++ '*' :: '/' :: more).head? = some '/') := by
      rintro ⟨rfl, hhead⟩
      cases t with
      | nil => simp at hhead
      | cons d t =>
        simp only [List.cons_append, List.head?_cons, Option.some.injEq] at hhead
        subst hhead
        exact ht (List.prefix_append _ _).isInfix
    rw [List.cons_append, close_cons hnot, ih (fun h => ht (h.trans (List.suffix_cons _ _).isInfix))]
    simp only [List.length_cons]
    congr 1
    omega

/-- A block comment that closes becomes one space. -/
theorem blankComments_block {t : List Char} (ht : ¬ ['*', '/'] <:+: t) (more : List Char) :
    blankComments ('/' :: '*' :: (t ++ '*' :: '/' :: more)) = ' ' :: blankComments more := by
  have hlen : commentLength ('/' :: '*' :: (t ++ '*' :: '/' :: more)) = some (2 + (t.length + 2)) := by
    simp [commentLength, close_append ht]
  rw [blankComments_of_commentLength hlen (by omega)]
  have hsplit : '/' :: '*' :: (t ++ '*' :: '/' :: more) = ('/' :: '*' :: t ++ ['*', '/']) ++ more := by
    simp
  have hn : 2 + (t.length + 2) = ('/' :: '*' :: t ++ ['*', '/']).length := by
    simp only [List.cons_append, List.length_cons, List.length_append, List.length_nil]
    omega
  rw [hsplit, hn, List.drop_left]

end JavaBuild.Text

namespace JavaBuild.Module

open Text

/-! ## Name characters -/

theorem toNat_of_isAlphanum {c : Char} (h : c.isAlphanum = true) :
    48 ≤ c.toNat ∧ c.toNat ≤ 57 ∨ 65 ≤ c.toNat ∧ c.toNat ≤ 90 ∨ 97 ≤ c.toNat ∧ c.toNat ≤ 122 := by
  simp only [Char.isAlphanum, Char.isAlpha, Char.isUpper, Char.isLower, Char.isDigit,
    Bool.or_eq_true, Bool.and_eq_true, decide_eq_true_eq] at h
  have : c.toNat = c.val.toNat := rfl
  rcases h with (⟨h1, h2⟩ | ⟨h1, h2⟩) | ⟨h1, h2⟩ <;>
    simp only [UInt32.le_iff_toNat_le] at h1 h2 <;> simp at h1 h2 <;> omega

/-- The code points of the name characters. -/
theorem isDeclChar_toNat {c : Char} (h : isDeclChar c = true) :
    c.toNat = 36 ∨ c.toNat = 46 ∨ c.toNat = 95 ∨
      48 ≤ c.toNat ∧ c.toNat ≤ 57 ∨ 65 ≤ c.toNat ∧ c.toNat ≤ 90 ∨ 97 ≤ c.toNat ∧ c.toNat ≤ 122 := by
  simp only [isDeclChar, Bool.or_eq_true, beq_iff_eq] at h
  rcases h with ((h | rfl) | rfl) | rfl
  · exact Or.inr (Or.inr (Or.inr (toNat_of_isAlphanum h)))
  all_goals simp

theorem isDeclChar_not_blank {c : Char} (h : isDeclChar c = true) : Text.isBlank c = false := by
  have := isDeclChar_toNat h
  simp only [Text.isBlank, Text.blankCodes, List.contains_eq_mem, decide_eq_false_iff_not,
    List.mem_cons, List.not_mem_nil, or_false]
  omega

/-- No name character is a separator of the texts that declarations are read from. -/
theorem isDeclChar_ne {c d : Char} (h : isDeclChar c = true)
    (hd : d ∈ [',', ';', '/', '@', '(', '{', '}', ' ', '\n', ':']) : c ≠ d := by
  have := isDeclChar_toNat h
  rintro rfl
  simp only [List.mem_cons, List.not_mem_nil, or_false] at hd
  rcases hd with rfl | rfl | rfl | rfl | rfl | rfl | rfl | rfl | rfl | rfl <;> simp at this

/-- A name character is one the header reader takes into a module name. -/
theorem isDeclChar_header {c : Char} (h : isDeclChar c = true) :
    (Text.isWordChar c || c == '.' || c == '$') = true := by
  simp only [isDeclChar, Bool.or_eq_true, beq_iff_eq] at h
  rcases h with ((h | rfl) | rfl) | rfl
  · have := toNat_of_isAlphanum h
    simp only [Text.isWordChar, if_pos (by omega : c.toNat < 128), h, Bool.true_or]
  all_goals decide

theorem IsName.isToken {s : String} (h : IsName s) : IsToken s :=
  Or.inr ⟨h.1, fun c hc => ⟨isDeclChar_not_blank (h.2 c hc), isDeclChar_ne (h.2 c hc) (by simp)⟩⟩

theorem IsName.ne_comma {s : String} (h : IsName s) : s ≠ "," := by
  rintro rfl
  exact isDeclChar_ne (h.2 ',' (by simp)) (by simp) rfl

/-- A name holds none of the separators of the texts that declarations are read from. -/
theorem IsName.not_mem {s : String} (h : IsName s) {d : Char}
    (hd : d ∈ [',', ';', '/', '@', '(', '{', '}', ' ', '\n', ':']) : d ∉ s.toList :=
  fun hm => isDeclChar_ne (h.2 d hm) hd rfl

/-! ## The header -/

/-- Whether the text starts with `open` and blanks: then the rest after them. -/
def openPrefix (cs : List Char) : Bool × List Char :=
  match cs with
  | 'o' :: 'p' :: 'e' :: 'n' :: r =>
    let bl := r.takeWhile Text.isBlank
    if bl.isEmpty then (false, cs) else (true, r.drop bl.length)
  | _ => (false, cs)

/-- A header `module <name> {` at the head of the text, in an array of `size` characters. -/
def headerNamed (isOpen : Bool) (rest : List Char) (size : Nat) : Option (Bool × String × Nat) :=
  if !"module".toList.isPrefixOf rest then none
  else
    let r := rest.drop 6
    let bl := r.takeWhile Text.isBlank
    if bl.isEmpty then none
    else
      let r := r.drop bl.length
      let name := r.takeWhile fun c => Text.isWordChar c || c == '.' || c == '$'
      if name.isEmpty then none
      else
        let r := r.drop name.length
        let r := r.dropWhile Text.isBlank
        match r with
        | '{' :: body => some (isOpen, String.ofList name, size - body.length)
        | _ => none

/-- `headerAt` tries the header after `open` first, then the text itself. -/
theorem headerAt_eq (s : Array Char) (i : Nat) :
    headerAt s i = if !Text.boundaryAt s i then none else
      match headerNamed (openPrefix (s.toList.drop i)).1 (openPrefix (s.toList.drop i)).2 s.size with
      | some h => some h
      | none =>
        if (openPrefix (s.toList.drop i)).1 then headerNamed false (s.toList.drop i) s.size
        else none := by
  rfl

theorem module_toList : "module".toList = ['m', 'o', 'd', 'u', 'l', 'e'] := rfl

theorem openPrefix_of_ne {cs : List Char} (h : ∀ c, cs.head? = some c → c ≠ 'o') :
    openPrefix cs = (false, cs) := by
  unfold openPrefix
  split
  · exact absurd rfl (h 'o' rfl)
  · rfl

theorem headerNamed_of_ne {rest : List Char} (h : ∀ c, rest.head? = some c → c ≠ 'm')
    (isOpen : Bool) (size : Nat) : headerNamed isOpen rest size = none := by
  unfold headerNamed
  cases rest with
  | nil => simp [module_toList]
  | cons c rest => simp [module_toList, List.isPrefixOf, Ne.symm (h c rfl)]

/-- No header starts at a character other than `o` and `m`. -/
theorem headerAt_eq_none_of_head {s : Array Char} {i : Nat}
    (h : ∀ c, (s.toList.drop i).head? = some c → c ≠ 'o' ∧ c ≠ 'm') : headerAt s i = none := by
  rw [headerAt_eq, openPrefix_of_ne fun c hc => (h c hc).1,
    headerNamed_of_ne fun c hc => (h c hc).2]
  split <;> rfl

theorem headerAt_eq_none_of_boundaryAt {s : Array Char} {i : Nat}
    (h : Text.boundaryAt s i = false) : headerAt s i = none := by
  rw [headerAt_eq, h]
  rfl

theorem takeWhile_blank_name {name : String} (hname : IsName name) (rest : List Char) :
    (name.toList ++ rest).takeWhile Text.isBlank = [] := by
  have hne : name.toList ≠ [] := by simpa using hname.1
  obtain ⟨c, cs, hcs⟩ := List.exists_cons_of_ne_nil hne
  have hc : Text.isBlank c = false := isDeclChar_not_blank (hname.2 c (by simp [hcs]))
  rw [hcs, List.cons_append, List.takeWhile_cons_of_neg (by simp [hc])]

/-- `module`, blanks, a name, blanks and `{` make a header, whose body starts after the brace. -/
theorem headerNamed_module (isOpen : Bool) {name : String} (hname : IsName name) (body : List Char)
    (size : Nat) :
    headerNamed isOpen ("module ".toList ++ name.toList ++ ' ' :: '{' :: body) size =
      some (isOpen, name, size - body.length) := by
  have hword : ∀ c ∈ name.toList, (Text.isWordChar c || c == '.' || c == '$') = true :=
    fun c hc => isDeclChar_header (hname.2 c hc)
  have hname' : (name.toList ++ ' ' :: '{' :: body).takeWhile
      (fun c => Text.isWordChar c || c == '.' || c == '$') = name.toList :=
    Patch.takeWhile_run hword (by simp; decide)
  have hblank : (' ' :: (name.toList ++ ' ' :: '{' :: body)).takeWhile Text.isBlank = [' '] := by
    rw [List.takeWhile_cons_of_pos isBlank_space, takeWhile_blank_name hname]
  have hne : name.toList.isEmpty = false := by simpa using hname.1
  unfold headerNamed
  have hbrace : Text.isBlank '{' = false := by decide
  simp [module_toList, hblank, hname', hne, isBlank_space, hbrace]

theorem openPrefix_open (r : List Char) :
    openPrefix ("open ".toList ++ 'm' :: r) = (true, 'm' :: r) := by
  have hblank : (' ' :: 'm' :: r).takeWhile Text.isBlank = [' '] := by
    rw [List.takeWhile_cons_of_pos isBlank_space, List.takeWhile_cons_of_neg (by decide)]
  simp [openPrefix, hblank]

/-- The header of a declaration, up to its opening brace. -/
def headerText (isOpen : Bool) (name : String) : String :=
  (if isOpen then "open " else "") ++ "module " ++ name ++ " \x7b"

/-- At a word boundary where a header starts, `headerAt` reads it. -/
theorem headerAt_headerText {s : Array Char} {i : Nat} (hb : Text.boundaryAt s i = true)
    (isOpen : Bool) {name : String} (hname : IsName name) {body : List Char}
    (hs : s.toList.drop i = (headerText isOpen name).toList ++ body) :
    headerAt s i = some (isOpen, name, s.size - body.length) := by
  have hmod : (headerText false name).toList ++ body =
      "module ".toList ++ name.toList ++ ' ' :: '{' :: body := by
    simp [headerText]
  rw [headerAt_eq, hb]
  cases isOpen with
  | false =>
    rw [hs, hmod, openPrefix_of_ne (by simp), headerNamed_module false hname]
    rfl
  | true =>
    have hopen : (headerText true name).toList ++ body =
        "open ".toList ++ 'm' :: ("odule ".toList ++ name.toList ++ ' ' :: '{' :: body) := by
      simp [headerText]
    rw [hs, hopen, openPrefix_open, show 'm' :: ("odule ".toList ++ name.toList ++ ' ' :: '{' :: body) =
      "module ".toList ++ name.toList ++ ' ' :: '{' :: body by simp, headerNamed_module true hname]
    rfl

/-- No header starts at `module` run on into a word. -/
theorem headerAt_eq_none_of_module {s : Array Char} {i : Nat} {c : Char} {q : List Char}
    (hs : s.toList.drop i = "module".toList ++ c :: q) (hc : Text.isBlank c = false) :
    headerAt s i = none := by
  have hnamed : ∀ b, headerNamed b (s.toList.drop i) s.size = none := by
    intro b
    simp [headerNamed, hs, module_toList, hc]
  rw [headerAt_eq, openPrefix_of_ne (by simp [hs, module_toList]), hnamed]
  split <;> rfl

theorem wordAt_append {p : List Char} (r : List Char) {i : Nat} (hi : i < p.length) :
    Text.wordAt (p ++ r).toArray i = Text.wordAt p.toArray i := by
  simp [Text.wordAt, List.getElem?_append_left hi]

theorem boundaryAt_append {p : List Char} (r : List Char) {i : Nat} (hi : i < p.length) :
    Text.boundaryAt (p ++ r).toArray i = Text.boundaryAt p.toArray i := by
  unfold Text.boundaryAt
  rw [wordAt_append r hi]
  split
  · rfl
  · rw [wordAt_append r (by omega)]

/-- Between a character that is no word character and one that is, there is a word boundary. -/
theorem boundaryAt_length {p r : List Char}
    (hp : ∀ c ∈ p.getLast?, Text.isWordChar c = false)
    (hr : ∀ c ∈ r.head?, Text.isWordChar c = true) (hne : r ≠ []) :
    Text.boundaryAt (p ++ r).toArray p.length = true := by
  obtain ⟨c, r', rfl⟩ := List.exists_cons_of_ne_nil hne
  have hat : Text.wordAt (p ++ c :: r').toArray p.length = true := by
    simp [Text.wordAt, hr c rfl]
  have hbefore : (if p.length = 0 then false else Text.wordAt (p ++ c :: r').toArray (p.length - 1)) =
      false := by
    split
    · rfl
    · simp only [Text.wordAt, List.getElem?_toArray,
        List.getElem?_append_left (show p.length - 1 < p.length by omega),
        ← List.getLast?_eq_getElem?]
      cases hlast : p.getLast? with
      | none => rfl
      | some d => exact hp d hlast
  simp only [Text.boundaryAt, hat, hbefore]
  rfl

/-- Where a text has no header, no header starts whatever follows it: there is no word boundary,
or the character is neither `o` nor `m`, or `module` runs on into a word. -/
theorem headerAt_append_eq_none {p : List Char} (r : List Char) {i : Nat} (hi : i < p.length)
    (h : Text.boundaryAt p.toArray i = false ∨
      ((p.drop i).head?.all fun c => c != 'o' && c != 'm') = true ∨
      ("module".toList <+: p.drop i ∧ (p.drop (i + 6)).head?.any (fun c => !Text.isBlank c))) :
    headerAt (p ++ r).toArray i = none := by
  have hdrop : (p ++ r).toArray.toList.drop i = p.drop i ++ r := by
    simp [List.drop_append_of_le_length (Nat.le_of_lt hi)]
  have hne : p.drop i ≠ [] := by simp; omega
  rcases h with hb | hhead | ⟨⟨q, hq⟩, hnext⟩
  · exact headerAt_eq_none_of_boundaryAt (by rw [boundaryAt_append r hi, hb])
  · apply headerAt_eq_none_of_head
    rw [hdrop, List.head?_append_of_ne_nil _ hne]
    intro c hc
    rw [hc] at hhead
    simpa using hhead
  · have hq' : p.drop (i + 6) = q := by
      rw [← List.drop_drop, ← hq, module_toList]
      rfl
    rw [hq'] at hnext
    obtain ⟨c, q', rfl⟩ : ∃ c q', q = c :: q' := by
      cases q with
      | nil => simp at hnext
      | cons c q' => exact ⟨c, q', rfl⟩
    apply headerAt_eq_none_of_module (c := c) (q := q' ++ r)
    · rw [hdrop, ← hq]
      simp
    · simpa using hnext

/-- The text after a suffix's start is the suffix. -/
theorem drop_size_sub {s : Array Char} {i : Nat} {pre body : List Char}
    (hs : s.toList.drop i = pre ++ body) : s.toList.drop (s.size - body.length) = body := by
  obtain ⟨X, hX⟩ : ∃ X, s.toList = X ++ body :=
    ⟨s.toList.take i ++ pre, by rw [List.append_assoc, ← hs, List.take_append_drop]⟩
  have hsize : s.size = X.length + body.length := by
    rw [← Array.length_toList, hX, List.length_append]
  rw [hX, hsize, Nat.add_sub_cancel, List.drop_left]

/-- The first header is the one at the first position where a header starts; its body runs to
the last closing brace. -/
theorem findHeader_of_headerAt {s : Array Char} {k : Nat}
    (hnone : ∀ i < k, headerAt s i = none) {isOpen : Bool} {name : String} (hname : IsName name)
    (hb : Text.boundaryAt s k = true) {dirs : List Char}
    (hs : s.toList.drop k = (headerText isOpen name).toList ++ '\n' :: dirs ++ ['}', '\n']) :
    findHeader s = some (isOpen, name, String.ofList ('\n' :: dirs)) := by
  set body := '\n' :: dirs ++ ['}', '\n'] with hbody_def
  have hs' : s.toList.drop k = (headerText isOpen name).toList ++ body :=
    hs.trans (List.append_assoc _ _ _)
  have hbl : body.length = dirs.length + 3 := by simp [hbody_def]
  have hlen : k + (headerText isOpen name).toList.length + body.length = s.size := by
    have := congrArg List.length hs'
    simp only [List.length_drop, Array.length_toList, List.length_append] at this
    omega
  have hat := headerAt_headerText hb isOpen hname hs'
  -- the body after the header runs to the last brace, which is the one before the last line feed
  have hidx : body.reverse.findIdx? (· == '}') = some 1 := by
    simp [hbody_def, List.findIdx?_cons]
  have htake : body.take (body.length - 1 - 1) = '\n' :: dirs := by
    rw [hbl]
    simp [hbody_def]
  unfold findHeader
  obtain ⟨m, hm⟩ : ∃ m, s.size = k + (m + 1) := ⟨s.size - k - 1, by omega⟩
  rw [hm, List.range_add, List.findSome?_append, List.findSome?_eq_none_iff.mpr, Option.none_or,
    List.range_succ_eq_map, List.map_cons, List.findSome?_cons, Nat.add_zero, hat]
  · simp only [drop_size_sub hs', hidx, htake]
  · intro i hi
    rw [hnone i (List.mem_range.mp hi)]

/-! ## Tokens of the directives -/

theorem isName_keywords : ∀ k ∈ ["requires", "exports", "opens", "uses", "provides", "to", "with",
    "transitive", "static", "java.base", "open", "module", "qualified", "contains", "mandated"],
    IsName k := by
  decide +kernel

theorem mem_intersperse_comma {l : List String} {t : String} (h : t ∈ l.intersperse ",") :
    t = "," ∨ t ∈ l := by
  induction l with
  | nil => simp at h
  | cons x l ih =>
    cases l with
    | nil => simp_all
    | cons y l =>
      rw [List.intersperse_cons_cons] at h
      simp only [List.mem_cons] at h ih ⊢
      rcases h with rfl | rfl | h
      · exact Or.inr (Or.inl rfl)
      · exact Or.inl rfl
      · rcases ih h with h | h
        · exact Or.inl h
        · exact Or.inr (Or.inr h)

/-- Dropping the commas put between names gives the names back. -/
theorem filter_intersperse_comma {l : List String} (h : ∀ t ∈ l, t ≠ ",") :
    (l.intersperse ",").filter (· != ",") = l := by
  induction l with
  | nil => rfl
  | cons x l ih =>
    cases l with
    | nil => simp [h x (by simp)]
    | cons y l =>
      rw [List.intersperse_cons_cons]
      simp [h x (by simp), ih fun t ht => h t (by simp [ht])]

/-- Every token of a declaration without versions is a comma or a name. -/
theorem token_of_directives {D : Decl} (hD : D.WellFormed) :
    ∀ ts ∈ D.directives (fun _ => none), ∀ t ∈ ts, t = "," ∨ IsName t := by
  have hkw := isName_keywords
  have htargets : ∀ kw ∈ ["exports", "opens"], ∀ e : String × List String,
      (IsName e.1 ∧ ∀ t ∈ e.2, IsName t) → ∀ t ∈ targetsTokens kw e, t = "," ∨ IsName t := by
    intro kw hkw' e he t ht
    simp only [targetsTokens, List.mem_cons] at ht
    rcases ht with rfl | rfl | ht
    · exact Or.inr (hkw t (by simp at hkw' ⊢; tauto))
    · exact Or.inr he.1
    · split at ht
      · simp at ht
      · simp only [List.mem_cons] at ht
        rcases ht with rfl | ht
        · exact Or.inr (hkw "to" (by simp))
        · exact (mem_intersperse_comma ht).imp_right (he.2 t)
  intro ts hts t ht
  simp only [Decl.directives, List.mem_append, List.mem_map] at hts
  rcases hts with ((((⟨r, hr, rfl⟩ | ⟨e, he, rfl⟩) | ⟨e, he, rfl⟩) | ⟨u, hu, rfl⟩) | ⟨q, hq, rfl⟩)
  · simp only [requiresTokens, withVersion, List.cons_append, List.mem_cons, List.mem_append,
      List.not_mem_nil, or_false] at ht
    rcases ht with rfl | ht | rfl
    · exact Or.inr (hkw _ (by simp))
    · rcases (hD.requires r hr).2 t ht with rfl | rfl <;> exact Or.inr (hkw _ (by simp))
    · exact Or.inr (hD.requires r hr).1
  · exact htargets "exports" (by simp) e (hD.exports e he) t ht
  · exact htargets "opens" (by simp) e (hD.opens e he) t ht
  · simp only [List.mem_cons, List.not_mem_nil, or_false] at ht
    rcases ht with rfl | rfl
    · exact Or.inr (hkw _ (by simp))
    · exact Or.inr (hD.uses t hu)
  · simp only [providesTokens, List.mem_cons] at ht
    rcases ht with rfl | rfl | rfl | ht
    · exact Or.inr (hkw _ (by simp))
    · exact Or.inr (hD.provides q hq).1
    · exact Or.inr (hkw _ (by simp))
    · exact (mem_intersperse_comma ht).imp_right ((hD.provides q hq).2.2 t)

/-! ## Directives -/

theorem lead_blank : ∀ c ∈ "\n  ".toList, Text.isBlank c = true := by
  rw [show "\n  ".toList = ['\n', ' ', ' '] from rfl]
  simp only [List.mem_cons, List.not_mem_nil, or_false]
  rintro c (rfl | rfl | rfl) <;> decide

/-- A directive as the declaration text writes it. -/
def textLine (ts : List String) : String := "  " ++ joinTokens ts ++ ";\n"

/-- A directive as the body cut at semicolons gives it. -/
def directiveLine (ts : List String) : String := "\n  " ++ joinTokens ts

theorem directiveWords_line {ts : List String} (hts : ∀ t ∈ ts, t = "," ∨ IsName t)
    (hne : ts ≠ []) : directiveWords (directiveLine ts) = ts := by
  obtain ⟨t, ts, rfl⟩ := List.exists_cons_of_ne_nil hne
  have htok : ∀ u ∈ t :: ts, IsToken u :=
    fun u hu => (hts u hu).elim (fun h => Or.inl h) IsName.isToken
  exact directiveWords_joinTokens lead_blank (htok t (by simp)) fun u hu => htok u (by simp [hu])

section Step

variable (path : String) (p : Parts)

theorem readDirective_requires {r : String × List String}
    (hts : ∀ t ∈ requiresTokens (fun _ => none) r, t = "," ∨ IsName t)
    (hmods : ∀ m ∈ r.2, m = "transitive" ∨ m = "static") :
    readDirective path p (directiveLine (requiresTokens (fun _ => none) r)) =
      .ok { p with requires := Assoc.put p.requires r.1 r.2 } := by
  have hw : directiveWords (directiveLine (requiresTokens (fun _ => none) r)) =
      "requires" :: (r.2 ++ [r.1]) := by
    rw [directiveWords_line hts (by simp [requiresTokens])]
    rfl
  have hlast : ("requires" :: (r.2 ++ [r.1])).getLast? = some r.1 := by
    rw [← List.cons_append, List.getLast?_concat]
  have hfilter : r.2.filter (fun w => w == "transitive" || w == "static") = r.2 := by
    rw [List.filter_eq_self]
    intro m hm
    rcases hmods m hm with rfl | rfl <;> rfl
  simp [readDirective, hw, hlast, hfilter]

theorem readDirective_exports {e : String × List String}
    (hts : ∀ t ∈ targetsTokens "exports" e, t = "," ∨ IsName t) (he : ∀ t ∈ e.2, IsName t) :
    readDirective path p (directiveLine (targetsTokens "exports" e)) =
      .ok { p with exports := Assoc.put p.exports e.1 e.2 } := by
  rw [readDirective, directiveWords_line hts (by simp [targetsTokens])]
  obtain ⟨pkg, targets⟩ := e
  cases targets with
  | nil => simp [targetsTokens]
  | cons t ts =>
    have hcomma : ∀ u ∈ t :: ts, u ≠ "," := fun u hu => (he u hu).ne_comma
    simp [targetsTokens, filter_intersperse_comma hcomma]

theorem readDirective_opens {e : String × List String}
    (hts : ∀ t ∈ targetsTokens "opens" e, t = "," ∨ IsName t) (he : ∀ t ∈ e.2, IsName t) :
    readDirective path p (directiveLine (targetsTokens "opens" e)) =
      .ok { p with opens := p.opens ++ [openEntry e] } := by
  rw [readDirective, directiveWords_line hts (by simp [targetsTokens])]
  obtain ⟨pkg, targets⟩ := e
  cases targets with
  | nil => simp [targetsTokens, openEntry]
  | cons t ts =>
    have hcomma : ∀ u ∈ t :: ts, u ≠ "," := fun u hu => (he u hu).ne_comma
    simp [targetsTokens, filter_intersperse_comma hcomma, openEntry]

theorem readDirective_uses {s : String} (hs : IsName s) :
    readDirective path p (directiveLine ["uses", s]) = .ok { p with uses := p.uses ++ [s] } := by
  have hkw : IsName "uses" := isName_keywords "uses" (by simp)
  rw [readDirective, directiveWords_line (by simp [hs, hkw]) (by simp)]
  simp

theorem readDirective_provides {q : String × List String}
    (hts : ∀ t ∈ providesTokens q, t = "," ∨ IsName t) (hq : q.2 ≠ [] ∧ ∀ c ∈ q.2, IsName c) :
    readDirective path p (directiveLine (providesTokens q)) =
      .ok { p with provides := Assoc.modify p.provides q.1 [] (· ++ q.2) } := by
  rw [readDirective, directiveWords_line hts (by simp [providesTokens])]
  obtain ⟨s, cs⟩ := q
  obtain ⟨c, cs, rfl⟩ := List.exists_cons_of_ne_nil hq.1
  have hcomma : ∀ u ∈ c :: cs, u ≠ "," := fun u hu => (hq.2 u hu).ne_comma
  -- the providers after `with` are not empty, as the reader's pattern asks
  obtain ⟨x, xs, hx⟩ : ∃ x xs, (c :: cs).intersperse "," = x :: xs := by
    cases cs with
    | nil => exact ⟨c, [], rfl⟩
    | cons d ds => exact ⟨c, _, List.intersperse_cons_cons⟩
  have hfilter : (x :: xs).filter (· != ",") = c :: cs := by
    rw [← hx, filter_intersperse_comma hcomma]
  simp [providesTokens, hx, hfilter]

/-- The line feed after the last semicolon is no directive. -/
theorem readDirective_newline : readDirective path p "\n" = .ok p := by
  have hw : directiveWords "\n" = [] := by
    rw [directiveWords, show spaceCommas "\n".toList = ['\n'] from rfl,
      Text.words_blanks (by simp; decide)]
    rfl
  simp [readDirective, hw]

end Step

/-! ## Reading directive after directive

Each directive adds one entry to one field of what is read: at the end of the field, or under a
key that the field does not hold yet. A field is seen through `get` and `set`. -/

section Fold

variable {σ ε α β : Type} {g : σ → String → Except ε σ} {line : α → String}
  (get : σ → List β) (set : σ → List β → σ) (entry : α → β)

/-- Lines that each append an entry to a field are read into the field with their entries
appended in order. -/
theorem foldlM_appends (hget : ∀ s l, get (set s l) = l)
    (hset : ∀ s l l', set (set s l) l' = set s l') (hself : ∀ s, set s (get s) = s)
    {xs : List α} (hstep : ∀ s, ∀ a ∈ xs, g s (line a) = .ok (set s (get s ++ [entry a])))
    (s : σ) : (xs.map line).foldlM g s = .ok (set s (get s ++ xs.map entry)) := by
  induction xs generalizing s with
  | nil => simp [hself]; rfl
  | cons a xs ih =>
    rw [List.map_cons, List.foldlM_cons, hstep s a (by simp), Change.ok_bind,
      ih (fun s' a' ha' => hstep s' a' (by simp [ha'])), hget, hset]
    simp

/-- Lines that each put an entry under a key the field does not hold yet are read into the field
with their entries appended in order, when no key repeats. -/
theorem foldlM_puts {γ : Type} (get : σ → List (String × γ)) (set : σ → List (String × γ) → σ)
    (entry : α → String × γ) (hget : ∀ s l, get (set s l) = l)
    (hset : ∀ s l l', set (set s l) l' = set s l') (hself : ∀ s, set s (get s) = s)
    {xs : List α} (hstep : ∀ s, ∀ a ∈ xs, (entry a).1 ∉ Assoc.keys (get s) →
      g s (line a) = .ok (set s (get s ++ [entry a])))
    (s : σ) (hfresh : (Assoc.keys (get s) ++ Assoc.keys (xs.map entry)).Nodup) :
    (xs.map line).foldlM g s = .ok (set s (get s ++ xs.map entry)) := by
  induction xs generalizing s with
  | nil => simp [hself]; rfl
  | cons a xs ih =>
    have hnot : (entry a).1 ∉ Assoc.keys (get s) := by
      simp only [Assoc.keys, List.map_cons, List.nodup_append, List.mem_cons] at hfresh
      exact fun h => hfresh.2.2 _ h _ (Or.inl rfl) rfl
    rw [List.map_cons, List.foldlM_cons, hstep s a (by simp) hnot, Change.ok_bind,
      ih (fun s' a' ha' => hstep s' a' (by simp [ha'])) _ (by simpa [hget, Assoc.keys] using hfresh),
      hget, hset]
    simp

end Fold

section Directives

variable (path : String)

theorem foldlM_requires {rs : List (String × List String)}
    (hrs : ∀ r ∈ rs, (∀ t ∈ requiresTokens (fun _ => none) r, t = "," ∨ IsName t) ∧
      ∀ m ∈ r.2, m = "transitive" ∨ m = "static")
    (p : Parts) (hfresh : (Assoc.keys p.requires ++ Assoc.keys rs).Nodup) :
    ((rs.map (requiresTokens fun _ => none)).map directiveLine).foldlM (readDirective path) p =
      .ok { p with requires := p.requires ++ rs } := by
  rw [List.map_map]
  simpa using foldlM_puts Parts.requires (fun p l => { p with requires := l }) id
    (fun _ _ => rfl) (fun _ _ _ => rfl) (fun _ => rfl)
    (fun p r hr hnot => by
      simp only [id, Function.comp_apply] at hnot ⊢
      rw [readDirective_requires path p (hrs r hr).1 (hrs r hr).2, Assoc.put_of_not_mem hnot])
    p (by simpa using hfresh)

theorem foldlM_exports {es : List (String × List String)}
    (hes : ∀ e ∈ es, (∀ t ∈ targetsTokens "exports" e, t = "," ∨ IsName t) ∧ ∀ t ∈ e.2, IsName t)
    (p : Parts) (hfresh : (Assoc.keys p.exports ++ Assoc.keys es).Nodup) :
    ((es.map (targetsTokens "exports")).map directiveLine).foldlM (readDirective path) p =
      .ok { p with exports := p.exports ++ es } := by
  rw [List.map_map]
  simpa using foldlM_puts Parts.exports (fun p l => { p with exports := l }) id
    (fun _ _ => rfl) (fun _ _ _ => rfl) (fun _ => rfl)
    (fun p e he hnot => by
      simp only [id, Function.comp_apply] at hnot ⊢
      rw [readDirective_exports path p (hes e he).1 (hes e he).2, Assoc.put_of_not_mem hnot])
    p (by simpa using hfresh)

theorem foldlM_opens {es : List (String × List String)}
    (hes : ∀ e ∈ es, (∀ t ∈ targetsTokens "opens" e, t = "," ∨ IsName t) ∧ ∀ t ∈ e.2, IsName t)
    (p : Parts) :
    ((es.map (targetsTokens "opens")).map directiveLine).foldlM (readDirective path) p =
      .ok { p with opens := p.opens ++ es.map openEntry } := by
  rw [List.map_map]
  exact foldlM_appends Parts.opens (fun p l => { p with opens := l }) openEntry
    (fun _ _ => rfl) (fun _ _ _ => rfl) (fun _ => rfl)
    (fun p e he => readDirective_opens path p (hes e he).1 (hes e he).2) p

theorem foldlM_uses {us : List String} (hus : ∀ s ∈ us, IsName s) (p : Parts) :
    ((us.map fun s => ["uses", s]).map directiveLine).foldlM (readDirective path) p =
      .ok { p with uses := p.uses ++ us } := by
  rw [List.map_map]
  simpa [Function.comp_def] using foldlM_appends Parts.uses (fun p l => { p with uses := l }) id
    (fun _ _ => rfl) (fun _ _ _ => rfl) (fun _ => rfl)
    (fun p s hs => readDirective_uses path p (hus s hs)) p

theorem foldlM_provides {qs : List (String × List String)}
    (hqs : ∀ q ∈ qs, (∀ t ∈ providesTokens q, t = "," ∨ IsName t) ∧ q.2 ≠ [] ∧ ∀ c ∈ q.2, IsName c)
    (p : Parts) (hfresh : (Assoc.keys p.provides ++ Assoc.keys qs).Nodup) :
    ((qs.map providesTokens).map directiveLine).foldlM (readDirective path) p =
      .ok { p with provides := p.provides ++ qs } := by
  rw [List.map_map]
  simpa using foldlM_puts Parts.provides (fun p l => { p with provides := l }) id
    (fun _ _ => rfl) (fun _ _ _ => rfl) (fun _ => rfl)
    (fun p q hq hnot => by
      simp only [id, Function.comp_apply] at hnot ⊢
      rw [readDirective_provides path p (hqs q hq).1 (hqs q hq).2, Assoc.modify_of_not_mem hnot,
        List.nil_append])
    p (by simpa using hfresh)

end Directives

/-! ## The body -/

theorem mem_joinTokens {ts : List String} {c : Char} (h : c ∈ (joinTokens ts).toList) :
    c = ' ' ∨ ∃ t ∈ ts, c ∈ t.toList := by
  cases ts with
  | nil => simp [joinTokens] at h
  | cons t ts =>
    rw [toList_joinTokens] at h
    simp only [List.mem_append, List.mem_flatMap] at h
    rcases h with h | ⟨u, hu, h⟩
    · exact Or.inr ⟨t, by simp, h⟩
    · split at h
      · exact Or.inr ⟨u, by simp [hu], h⟩
      · simp only [String.toList_append, List.mem_append] at h
        rcases h with h | h
        · left; simpa using h
        · exact Or.inr ⟨u, by simp [hu], h⟩

/-- The characters of directives written out: blanks, commas and name characters. -/
theorem mem_directiveText {ts : List String} (hts : ∀ t ∈ ts, t = "," ∨ IsName t) {c : Char}
    (h : c ∈ (joinTokens ts).toList) : c = ' ' ∨ c = ',' ∨ isDeclChar c = true := by
  rcases mem_joinTokens h with h | ⟨t, ht, hc⟩
  · exact Or.inl h
  · rcases hts t ht with rfl | hname
    · right; left; simpa using hc
    · exact Or.inr (Or.inr (hname.2 c hc))

theorem semicolon_not_mem_line {ts : List String} (hts : ∀ t ∈ ts, t = "," ∨ IsName t) :
    ';' ∉ (directiveLine ts).toList := by
  intro h
  simp only [directiveLine, String.toList_append, List.mem_append] at h
  rcases h with h | h
  · simp at h
  · rcases mem_directiveText hts h with h | h | h
    · exact absurd h (by decide)
    · exact absurd h (by decide)
    · exact isDeclChar_ne h (by simp) rfl

/-- The body after the brace is the directive lines and a last line feed, joined by semicolons. -/
theorem body_eq_intercalate (dirs : List (List String)) :
    '\n' :: (String.join (dirs.map textLine)).toList =
      [';'].intercalate ((dirs.map directiveLine ++ ["\n"]).map String.toList) := by
  induction dirs with
  | nil => rfl
  | cons ts dirs ih =>
    simp only [List.map_cons, List.cons_append]
    rw [List.intercalate_cons_of_ne_nil (by simp), ← ih]
    simp [directiveLine, textLine]

/-- Cut at semicolons, the body gives the directive lines and the last line feed. -/
theorem splitOn_body {dirs : List (List String)} (hdirs : ∀ ts ∈ dirs, ∀ t ∈ ts, t = "," ∨ IsName t) :
    (('\n' :: (String.join (dirs.map textLine)).toList).splitOn
      ';').map String.ofList = dirs.map directiveLine ++ ["\n"] := by
  rw [body_eq_intercalate, List.splitOn_intercalate, List.map_map]
  · simp
  · intro l hl
    simp only [List.map_append, List.map_map, List.mem_append, List.mem_map, Function.comp_apply,
      List.mem_singleton] at hl
    rcases hl with ⟨ts, hts, rfl⟩ | ⟨_, rfl, rfl⟩
    · exact semicolon_not_mem_line (hdirs ts hts)
    · decide
  · simp

/-- What the directives of a declaration without versions are read into. -/
def Decl.parts (D : Decl) : Parts :=
  { requires := D.requires, exports := D.exports, opens := D.opens.map openEntry, uses := D.uses,
    provides := D.provides }

/-- The directive lines of a declaration are read, one after the other, into its parts. -/
theorem foldlM_directives {D : Decl} (hD : D.WellFormed) (path : String) :
    ((D.directives fun _ => none).map directiveLine ++ ["\n"]).foldlM (readDirective path) {} =
      .ok D.parts := by
  have htok := token_of_directives hD
  simp only [Decl.directives, List.mem_append, List.mem_map] at htok
  unfold Decl.directives
  simp only [List.map_append, List.foldlM_append]
  rw [foldlM_requires path (fun r hr => ⟨htok _ (.inl (.inl (.inl (.inl ⟨r, hr, rfl⟩)))),
      (hD.requires r hr).2⟩) {} (by simpa [Assoc.keys] using hD.requiresOnce), Change.ok_bind,
    foldlM_exports path (fun e he => ⟨htok _ (.inl (.inl (.inl (.inr ⟨e, he, rfl⟩)))),
      (hD.exports e he).2⟩) _ (by simpa [Assoc.keys] using hD.exportsOnce), Change.ok_bind,
    foldlM_opens path (fun e he => ⟨htok _ (.inl (.inl (.inr ⟨e, he, rfl⟩))), (hD.opens e he).2⟩),
    Change.ok_bind, foldlM_uses path hD.uses, Change.ok_bind,
    foldlM_provides path (fun q hq => ⟨htok _ (.inr ⟨q, hq, rfl⟩), (hD.provides q hq).2⟩) _
      (by simpa [Assoc.keys] using hD.providesOnce), Change.ok_bind]
  simp [readDirective_newline, Decl.parts]

/-! ## The text of a declaration -/

theorem text_toList (D : Decl) (ver : String → Option String) :
    (D.text ver).toList = (headerText D.isOpen (withVersion ver D.name)).toList ++
      '\n' :: (String.join ((D.directives ver).map textLine)).toList ++
      ['}', '\n'] := by
  simp [Decl.text, headerText]
  rfl

theorem mem_textLine {ts : List String} (hts : ∀ t ∈ ts, t = "," ∨ IsName t) :
    ∀ c ∈ (textLine ts).toList, isDeclChar c = true ∨ c ∈ [' ', '\n', '{', '}', ';', ','] := by
  intro c hc
  simp only [textLine, String.toList_append, List.mem_append] at hc
  rcases hc with (hc | hc) | hc
  · rw [show "  ".toList = [' ', ' '] from rfl] at hc
    simp at hc; simp [hc]
  · rcases mem_directiveText hts hc with rfl | rfl | hc
    · simp
    · simp
    · exact Or.inl hc
  · rw [show ";\n".toList = [';', '\n'] from rfl] at hc
    simp at hc; rcases hc with rfl | rfl <;> simp

/-- The characters of a declaration without versions: name characters, blanks, braces,
semicolons and commas. -/
theorem mem_text {D : Decl} (hD : D.WellFormed) :
    ∀ c ∈ (D.text fun _ => none).toList, isDeclChar c = true ∨ c ∈ [' ', '\n', '{', '}', ';', ','] := by
  have htok := token_of_directives hD
  have hkw := isName_keywords
  have hopen : "open ".toList = "open".toList ++ [' '] := rfl
  have hmodule : "module ".toList = "module".toList ++ [' '] := rfl
  intro c hc
  simp only [text_toList, headerText, withVersion, String.toList_append, List.mem_append,
    List.mem_cons, String.toList_join, List.mem_flatMap, List.mem_map] at hc
  rcases hc with ((((hc | hc) | hc) | hc) | rfl | ⟨_, ⟨ts, hts, rfl⟩, hc⟩) | rfl | rfl | hc
  · split at hc
    · rw [hopen, List.mem_append] at hc
      rcases hc with hc | hc
      · exact Or.inl ((hkw "open" (by simp)).2 c hc)
      · simp at hc; simp [hc]
    · simp at hc
  · rw [hmodule, List.mem_append] at hc
    rcases hc with hc | hc
    · exact Or.inl ((hkw "module" (by simp)).2 c hc)
    · simp at hc; simp [hc]
  · exact Or.inl (hD.name.2 c hc)
  · rw [show " \x7b".toList = [' ', '{'] from rfl] at hc
    simp at hc; rcases hc with rfl | rfl <;> simp
  · simp
  · exact mem_textLine (htok ts hts) c hc
  · simp
  · simp
  · simp at hc

/-! ## Comments and annotations -/

/-- What the comment pass leaves of a preamble item: a comment becomes one space, an annotation
stays as it is. -/
def Preamble.uncommented : Preamble → List Char
  | .annotated n arg => (Preamble.annotated n arg).text.toList
  | _ => [' ']

theorem isWordChar_slash : Text.isWordChar '/' = false := by decide

theorem slash_not_mem_annotated {n : String} {arg : Option String}
    (hp : (Preamble.annotated n arg).Safe) : '/' ∉ (Preamble.annotated n arg).text.toList := by
  have hname : '/' ∉ n.toList := fun h => by simpa [isWordChar_slash] using hp.2.1 '/' h
  cases arg with
  | none => simpa [Preamble.text] using hname
  | some a => simpa [Preamble.text, hname] using (hp.2.2 a rfl).1

theorem blankComments_item {p : Preamble} (hp : p.Safe) (rest : List Char) :
    blankComments ((p.text ++ "\n").toList ++ rest) = p.uncommented ++ '\n' :: blankComments rest := by
  have hnl : blankComments ('\n' :: rest) = '\n' :: blankComments rest :=
    blankComments_of_commentLength_none (commentLength_of_ne_slash _ (by decide))
  cases p with
  | lineComment t =>
    simpa [Preamble.text, Preamble.uncommented] using blankComments_line rest hp
  | blockComment t =>
    have h := blankComments_block hp ('\n' :: rest)
    rw [hnl] at h
    simpa [Preamble.text, Preamble.uncommented, show "/*".toList = ['/', '*'] from rfl,
      show "*/".toList = ['*', '/'] from rfl, show "\n".toList = ['\n'] from rfl] using h
  | annotated n arg =>
    rw [String.toList_append, List.append_assoc, blankComments_append _ (slash_not_mem_annotated hp)]
    simp [Preamble.uncommented, hnl]

/-- The comment pass blanks the comments of a preamble and keeps its annotations. -/
theorem blankComments_preamble {pre : List Preamble} (hpre : ∀ p ∈ pre, p.Safe) (rest : List Char) :
    blankComments ((String.join (pre.map (·.text ++ "\n"))).toList ++ rest) =
      pre.flatMap (fun p => p.uncommented ++ ['\n']) ++ blankComments rest := by
  induction pre with
  | nil => simp
  | cons p pre ih =>
    rw [List.map_cons, String.join_cons, String.toList_append, List.append_assoc,
      blankComments_item (hpre p (by simp)), ih fun q hq => hpre q (by simp [hq])]
    simp

/-! ## The annotation pass -/

theorem blankAnnotations_of_annotationLength {cs : List Char} {c : Char} {n : Nat}
    (h : annotationLength (c :: cs) = some n) (hn : 0 < n) :
    blankAnnotations (c :: cs) = ' ' :: blankAnnotations ((c :: cs).drop n) := by
  rw [blankAnnotations]
  split
  · rename_i n' h'
    obtain rfl : n' = n := Option.some.inj (h'.symm.trans h)
    rw [if_pos hn]
  · simp_all

theorem blankAnnotations_of_annotationLength_none {cs : List Char} {c : Char}
    (h : annotationLength (c :: cs) = none) : blankAnnotations (c :: cs) = c :: blankAnnotations cs := by
  rw [blankAnnotations]
  split <;> simp_all

theorem annotationLength_of_ne {c : Char} (rest : List Char) (h : c ≠ '@') :
    annotationLength (c :: rest) = none := by
  unfold annotationLength
  split <;> simp_all

/-- Text without an at sign passes the annotation pass unchanged. -/
theorem blankAnnotations_append {pre : List Char} (rest : List Char) (h : '@' ∉ pre) :
    blankAnnotations (pre ++ rest) = pre ++ blankAnnotations rest := by
  induction pre with
  | nil => rfl
  | cons c pre ih =>
    simp only [List.mem_cons, not_or] at h
    rw [List.cons_append, blankAnnotations_of_annotationLength_none
      (annotationLength_of_ne _ (Ne.symm h.1)), ih h.2, List.cons_append]

/-- An annotation without an argument: `@`, then its name, when no parenthesis follows. -/
theorem annotationLength_plain {n : String}
    (hn : ∀ c ∈ n.toList, (Text.isWordChar c || c == '.') = true) (hne : n ≠ "") {rest : List Char}
    (hstop : ∀ c ∈ rest.head?, (Text.isWordChar c || c == '.') = false)
    (hnext : ∀ c ∈ (rest.dropWhile Text.isBlank).head?, c ≠ '(') :
    annotationLength ('@' :: (n.toList ++ rest)) = some (1 + n.toList.length) := by
  have hname : (n.toList ++ rest).takeWhile (fun c => Text.isWordChar c || c == '.') = n.toList :=
    Patch.takeWhile_run hn hstop
  have hafter : rest.drop (rest.takeWhile Text.isBlank).length = rest.dropWhile Text.isBlank :=
    (Patch.drop_takeWhile_length rest).1
  have hempty : n.toList.isEmpty = false := by simpa using hne
  unfold annotationLength
  simp only [hname, List.drop_left, hafter, hempty, Bool.false_eq_true, if_false]
  split
  · rename_i body hbody
    exact absurd rfl (hnext '(' (by rw [hbody]; rfl))
  · rfl

/-- An annotation with an argument: `@`, its name, and the argument up to the first `)`. -/
theorem annotationLength_arg {n : String}
    (hn : ∀ c ∈ n.toList, (Text.isWordChar c || c == '.') = true) (hne : n ≠ "") {a : List Char}
    (ha : ')' ∉ a) (rest : List Char) :
    annotationLength ('@' :: (n.toList ++ '(' :: (a ++ ')' :: rest))) =
      some (1 + n.toList.length + (a.length + 2)) := by
  have hname : (n.toList ++ '(' :: (a ++ ')' :: rest)).takeWhile
      (fun c => Text.isWordChar c || c == '.') = n.toList :=
    Patch.takeWhile_run hn (by simp; decide)
  have hclose : (a ++ ')' :: rest).findIdx? (· == ')') = some a.length := by
    rw [List.findIdx?_append, List.findIdx?_eq_none_iff.mpr (fun c hc => by
      simpa using fun h : c = ')' => ha (h ▸ hc))]
    simp [List.findIdx?_cons]
  have hblank : ('(' :: (a ++ ')' :: rest)).takeWhile Text.isBlank = [] :=
    List.takeWhile_cons_of_neg (by decide)
  have hempty : n.toList.isEmpty = false := by simpa using hne
  unfold annotationLength
  simp only [hname, List.drop_left, hblank, hempty, Bool.false_eq_true, if_false, List.length_nil,
    List.drop_zero, hclose]
  simp

theorem isBlank_newline : Text.isBlank '\n' = true := by decide

theorem blankAnnotations_newline (rest : List Char) :
    blankAnnotations ('\n' :: rest) = '\n' :: blankAnnotations rest :=
  blankAnnotations_of_annotationLength_none (annotationLength_of_ne _ (by decide))

/-- The annotation pass blanks what the comment pass left of a preamble item, when no
parenthesis follows it. -/
theorem blankAnnotations_item {p : Preamble} (hp : p.Safe) {rest : List Char}
    (hnext : ∀ c ∈ (rest.dropWhile Text.isBlank).head?, c ≠ '(') :
    blankAnnotations (p.uncommented ++ '\n' :: rest) = ' ' :: '\n' :: blankAnnotations rest := by
  cases p with
  | lineComment t =>
    simp only [Preamble.uncommented, List.singleton_append]
    rw [blankAnnotations_of_annotationLength_none (annotationLength_of_ne _ (by decide)),
      blankAnnotations_newline]
  | blockComment t =>
    simp only [Preamble.uncommented, List.singleton_append]
    rw [blankAnnotations_of_annotationLength_none (annotationLength_of_ne _ (by decide)),
      blankAnnotations_newline]
  | annotated n arg =>
    obtain ⟨hne, hn, harg⟩ := hp
    cases arg with
    | none =>
      have hlen := @annotationLength_plain n hn hne ('\n' :: rest) (by simp; decide)
        (by rw [List.dropWhile_cons_of_pos isBlank_newline]; exact hnext)
      have htext : (Preamble.annotated n none).uncommented ++ '\n' :: rest =
          '@' :: (n.toList ++ '\n' :: rest) := by
        simp [Preamble.uncommented, Preamble.text]
      rw [htext, blankAnnotations_of_annotationLength hlen (by omega)]
      simp [Nat.add_comm 1, blankAnnotations_newline]
    | some a =>
      have hlen := annotationLength_arg hn hne (harg a rfl).2 ('\n' :: rest)
      have htext : (Preamble.annotated n (some a)).uncommented ++ '\n' :: rest =
          '@' :: (n.toList ++ '(' :: (a.toList ++ ')' :: '\n' :: rest)) := by
        simp [Preamble.uncommented, Preamble.text]
      have hdrop : ('@' :: (n.toList ++ '(' :: (a.toList ++ ')' :: '\n' :: rest))).drop
          (1 + n.toList.length + (a.toList.length + 2)) = '\n' :: rest := by
        rw [show '@' :: (n.toList ++ '(' :: (a.toList ++ ')' :: '\n' :: rest)) =
            ('@' :: n.toList ++ '(' :: a.toList ++ [')']) ++ '\n' :: rest by simp,
          show 1 + n.toList.length + (a.toList.length + 2) =
            ('@' :: n.toList ++ '(' :: a.toList ++ [')']).length by simp; omega, List.drop_left]
      rw [htext, blankAnnotations_of_annotationLength hlen (by omega), hdrop, blankAnnotations_newline]

/-- After what the comment pass leaves of a preamble, the first character that is not blank is
an annotation's `@` or the first of what follows the preamble. -/
theorem next_preamble {pre : List Preamble} {rest : List Char}
    (hnext : ∀ c ∈ (rest.dropWhile Text.isBlank).head?, c ≠ '(') :
    ∀ c ∈ ((pre.flatMap (fun p => p.uncommented ++ ['\n']) ++ rest).dropWhile Text.isBlank).head?,
      c ≠ '(' := by
  induction pre with
  | nil => simpa using hnext
  | cons p pre ih =>
    cases p with
    | annotated n arg =>
      intro c hc
      have : c = '@' := by
        cases arg <;> simp [Preamble.uncommented, Preamble.text] at hc <;>
          simp [List.dropWhile_cons_of_neg (show ¬ Text.isBlank '@' = true by decide)] at hc <;>
          exact hc.symm
      subst this
      decide
    | lineComment t | blockComment t =>
      simp only [List.flatMap_cons, Preamble.uncommented, List.cons_append, List.nil_append]
      rw [List.dropWhile_cons_of_pos isBlank_space, List.dropWhile_cons_of_pos isBlank_newline]
      exact ih

/-- The annotation pass blanks what the comment pass left of a preamble. -/
theorem blankAnnotations_preamble {pre : List Preamble} (hpre : ∀ p ∈ pre, p.Safe)
    {rest : List Char} (hnext : ∀ c ∈ (rest.dropWhile Text.isBlank).head?, c ≠ '(') :
    blankAnnotations (pre.flatMap (fun p => p.uncommented ++ ['\n']) ++ rest) =
      pre.flatMap (fun _ => [' ', '\n']) ++ blankAnnotations rest := by
  induction pre with
  | nil => rfl
  | cons p pre ih =>
    rw [List.flatMap_cons, List.append_assoc, List.append_assoc, List.singleton_append,
      blankAnnotations_item (hpre p (by simp)) (next_preamble hnext),
      ih fun q hq => hpre q (by simp [hq])]
    rfl

theorem not_mem_text {D : Decl} (hD : D.WellFormed) {d : Char} (hd : d ∈ ['/', '@', '(']) :
    d ∉ (D.text fun _ => none).toList := by
  intro h
  simp only [List.mem_cons, List.not_mem_nil, or_false] at hd
  rcases mem_text hD d h with h | h
  · exact isDeclChar_ne h (by simp only [List.mem_cons]; tauto) rfl
  · rcases hd with rfl | rfl | rfl <;> simp at h

/-! ## Reading the declaration -/

/-- A declaration starts with `open` or with `module`. -/
theorem head_text (D : Decl) (ver : String → Option String) :
    ∃ c ∈ ['o', 'm'], ∃ rest, (D.text ver).toList = c :: rest := by
  cases hopen : D.isOpen
  · exact ⟨'m', by simp, _, by simp [text_toList, headerText, hopen]; rfl⟩
  · exact ⟨'o', by simp, _, by simp [text_toList, headerText, hopen]; rfl⟩

theorem head_text_isWordChar (D : Decl) (ver : String → Option String) :
    ∀ c ∈ (D.text ver).toList.head?, Text.isWordChar c = true := by
  obtain ⟨c, hc, rest, hrest⟩ := head_text D ver
  simp only [List.mem_cons, List.not_mem_nil, or_false] at hc
  rw [hrest]
  rintro d ⟨⟩
  rcases hc with rfl | rfl <;> decide

theorem next_text (D : Decl) (ver : String → Option String) :
    ∀ c ∈ (((D.text ver).toList).dropWhile Text.isBlank).head?, c ≠ '(' := by
  obtain ⟨c, hc, rest, hrest⟩ := head_text D ver
  simp only [List.mem_cons, List.not_mem_nil, or_false] at hc
  rw [hrest]
  rcases hc with rfl | rfl <;>
    · rw [List.dropWhile_cons_of_neg (by decide)]
      rintro d ⟨⟩
      decide

/-- Once comments and annotations are blanked, a text that holds a declaration after text without
a header, which ends in a character that is no word character, is read as the declaration. -/
theorem readDeclaration_of_blanked {D : Decl} (hD : D.WellFormed) {text : String} {p : List Char}
    (hpass : blankAnnotations (Text.blankComments text.toList) = p ++ (D.text fun _ => none).toList)
    (hquiet : ∀ i < p.length, headerAt (p ++ (D.text fun _ => none).toList).toArray i = none)
    (hlast : ∀ c ∈ p.getLast?, Text.isWordChar c = false) (path : Option String) :
    readDeclaration text path = .ok (Descriptor.make D.name
      (Assoc.putIfAbsent D.requires "java.base" ["mandated"]) D.exports D.uses D.provides [] path
      (D.opens.map openEntry) false D.isOpen) := by
  have hs : (p ++ (D.text fun _ => none).toList).toArray.toList.drop p.length =
      (headerText D.isOpen D.name).toList ++ '\n' ::
        (String.join ((D.directives fun _ => none).map textLine)).toList ++ ['}', '\n'] := by
    simp [text_toList, withVersion]
  have hfind := findHeader_of_headerAt hquiet hD.name
    (boundaryAt_length hlast (head_text_isWordChar D _) (by simp [text_toList])) hs
  unfold readDeclaration
  simp only [hpass, hfind, String.toList_ofList, splitOn_body (token_of_directives hD)]
  rw [foldlM_directives hD]
  rfl

/-! ## The source file -/

theorem blankComments_of_not_mem {cs : List Char} (h : '/' ∉ cs) : Text.blankComments cs = cs := by
  simpa [Text.blankComments] using Text.blankComments_append [] h

theorem blankAnnotations_of_not_mem {cs : List Char} (h : '@' ∉ cs) : blankAnnotations cs = cs := by
  simpa [blankAnnotations] using blankAnnotations_append [] h

/-- A declaration written after comments and annotations on lines of their own is read back. -/
theorem readDeclaration_source {D : Decl} (hD : D.WellFormed) {pre : List Preamble}
    (hpre : ∀ p ∈ pre, p.Safe) (path : Option String) :
    readDeclaration (D.source pre) path = .ok (Descriptor.make D.name
      (Assoc.putIfAbsent D.requires "java.base" ["mandated"]) D.exports D.uses D.provides [] path
      (D.opens.map openEntry) false D.isOpen) := by
  set bl := pre.flatMap fun _ => [' ', '\n'] with hbl
  have hmem : ∀ c ∈ bl, c = ' ' ∨ c = '\n' := by simp [hbl]
  apply readDeclaration_of_blanked hD (p := bl)
  · rw [Decl.source, String.toList_append, blankComments_preamble hpre,
      blankComments_of_not_mem (not_mem_text hD (by simp)), blankAnnotations_preamble hpre (next_text D _),
      blankAnnotations_of_not_mem (not_mem_text hD (by simp))]
  · intro i hi
    apply headerAt_append_eq_none _ hi (.inr (.inl _))
    cases hd : (bl.drop i).head? with
    | none => rfl
    | some c =>
      rcases hmem c (List.mem_of_mem_drop (List.mem_of_mem_head? hd)) with rfl | rfl <;> rfl
  · intro c hc
    rcases hmem c (List.mem_of_getLast? hc) with rfl | rfl <;> decide

/-! ## What `javap` prints -/

theorem dropVersions_cons {c : Char} (rest : List Char) (h : c ≠ '@') :
    dropVersions (c :: rest) = c :: dropVersions rest := by
  rw [dropVersions]
  intro c' rest' hc
  exact absurd hc h

/-- Text without an at sign is kept as it is. -/
theorem dropVersions_append {pre : List Char} (rest : List Char) (h : '@' ∉ pre) :
    dropVersions (pre ++ rest) = pre ++ dropVersions rest := by
  induction pre with
  | nil => rfl
  | cons c pre ih =>
    simp only [List.mem_cons, not_or] at h
    rw [List.cons_append, dropVersions_cons _ (Ne.symm h.1), ih h.2, List.cons_append]

/-- A version suffix is dropped up to the character that ends it. -/
theorem dropVersions_suffix {v : List Char} (hne : v ≠ []) (hv : ∀ c ∈ v, isSuffixEnd c = false)
    {rest : List Char} (hrest : ∀ c ∈ rest.head?, isSuffixEnd c = true) :
    dropVersions ('@' :: (v ++ rest)) = dropVersions rest := by
  obtain ⟨c, v', rfl⟩ := List.exists_cons_of_ne_nil hne
  have hdrop : (c :: v' ++ rest).dropWhile (fun d => !isSuffixEnd d) = rest := by
    rw [List.dropWhile_append_of_pos (by simpa using hv)]
    cases rest with
    | nil => rfl
    | cons d ds => simp [hrest d rfl]
  rw [List.cons_append, dropVersions, if_neg (by simp [hv c (by simp)]), ← List.cons_append, hdrop]

theorem dropVersions_withVersion {ver : String → Option String} (hver : Versioned ver) {m : String}
    (hm : '@' ∉ m.toList) {rest : List Char} (hrest : ∀ c ∈ rest.head?, isSuffixEnd c = true) :
    dropVersions ((withVersion ver m).toList ++ rest) = m.toList ++ dropVersions rest := by
  unfold withVersion
  split
  · rename_i v hv
    obtain ⟨hne, hsuffix⟩ := hver m v hv
    rw [String.toList_append, String.toList_append, List.append_assoc, List.append_assoc,
      dropVersions_append _ hm, show "@".toList = ['@'] from rfl, List.singleton_append,
      dropVersions_suffix (by simpa using hne) hsuffix hrest]
  · exact dropVersions_append rest hm

theorem joinTokens_concat (t : String) (ts : List String) (u : String) :
    joinTokens (t :: ts ++ [u]) = joinTokens (t :: ts) ++ (if u = "," then u else " " ++ u) := by
  simp [joinTokens, String.join_append, String.append_assoc]

theorem withVersion_ne_comma (ver : String → Option String) {m : String} (hm : IsName m) :
    withVersion ver m ≠ "," := by
  unfold withVersion
  split
  · intro h
    have hlen := congrArg (·.toList.length) h
    simp only [String.toList_append, List.length_append] at hlen
    have : m.toList = [] := List.eq_nil_of_length_eq_zero (by simp at hlen; omega)
    exact hm.1 (by simpa using this)
  · exact hm.ne_comma

theorem dropVersions_requires_line {ver : String → Option String} (hver : Versioned ver)
    {r : String × List String} (hr : IsName r.1 ∧ ∀ m ∈ r.2, m = "transitive" ∨ m = "static")
    (rest : List Char) :
    dropVersions ((textLine (requiresTokens ver r)).toList ++ rest) =
      (textLine (requiresTokens (fun _ => none) r)).toList ++ dropVersions rest := by
  have hsplit : ∀ ver : String → Option String, (textLine (requiresTokens ver r)).toList =
      ("  " ++ joinTokens ("requires" :: r.2) ++ " ").toList ++ (withVersion ver r.1).toList ++
        [';', '\n'] := by
    intro ver
    rw [textLine, requiresTokens, joinTokens_concat, if_neg (withVersion_ne_comma ver hr.1)]
    simp
  have hkw := isName_keywords
  have hlead : '@' ∉ ("  " ++ joinTokens ("requires" :: r.2) ++ " ").toList := by
    intro h
    simp only [String.toList_append, List.mem_append] at h
    rcases h with (h | h) | h
    · simp [show "  ".toList = [' ', ' '] from rfl] at h
    · have htok : ∀ t ∈ "requires" :: r.2, t = "," ∨ IsName t := by
        intro t ht
        simp only [List.mem_cons] at ht
        rcases ht with rfl | ht
        · exact Or.inr (hkw _ (by simp))
        · rcases hr.2 t ht with rfl | rfl <;> exact Or.inr (hkw _ (by simp))
      rcases mem_directiveText htok h with h | h | h
      · exact absurd h (by decide)
      · exact absurd h (by decide)
      · exact isDeclChar_ne h (by simp) rfl
    · simp [show " ".toList = [' '] from rfl] at h
  have hsemi : ∀ c ∈ (';' :: '\n' :: rest).head?, isSuffixEnd c = true := by
    intro c hc
    simp only [List.head?_cons, Option.mem_def, Option.some.injEq] at hc
    subst hc
    decide
  rw [hsplit ver, hsplit (fun _ => none)]
  simp only [List.append_assoc, List.cons_append, List.nil_append]
  rw [dropVersions_append _ hlead, dropVersions_withVersion hver (hr.1.not_mem (by simp)) hsemi,
    dropVersions_cons _ (by decide), dropVersions_cons _ (by decide)]
  simp [withVersion]

theorem dropVersions_requires_lines {ver : String → Option String} (hver : Versioned ver)
    {rs : List (String × List String)}
    (hrs : ∀ r ∈ rs, IsName r.1 ∧ ∀ m ∈ r.2, m = "transitive" ∨ m = "static") (rest : List Char) :
    dropVersions ((String.join ((rs.map (requiresTokens ver)).map textLine)).toList ++ rest) =
      (String.join ((rs.map (requiresTokens fun _ => none)).map textLine)).toList ++
        dropVersions rest := by
  induction rs with
  | nil => rfl
  | cons r rs ih =>
    simp only [List.map_cons, String.join_cons, String.toList_append, List.append_assoc]
    rw [dropVersions_requires_line hver (hrs r (by simp)), ih fun r' hr' => hrs r' (by simp [hr'])]

theorem at_not_mem_textLine {ts : List String} (hts : ∀ t ∈ ts, t = "," ∨ IsName t) :
    '@' ∉ (textLine ts).toList := by
  intro h
  rcases mem_textLine hts '@' h with h | h
  · exact isDeclChar_ne h (by simp) rfl
  · simp at h

/-- Dropping the version suffixes of a declaration gives the declaration without versions. -/
theorem dropVersions_text {D : Decl} (hD : D.WellFormed) {ver : String → Option String}
    (hver : Versioned ver) : dropVersions (D.text ver).toList = (D.text fun _ => none).toList := by
  set others := D.exports.map (targetsTokens "exports") ++ D.opens.map (targetsTokens "opens") ++
    D.uses.map (fun s => ["uses", s]) ++ D.provides.map providesTokens with hothers_def
  have hsplit : ∀ ver, D.directives ver = D.requires.map (requiresTokens ver) ++ others := by
    intro ver
    simp [Decl.directives, hothers_def]
  have hothers : '@' ∉ (String.join (others.map textLine)).toList := by
    have htok := token_of_directives hD
    rw [hsplit] at htok
    simp only [String.toList_join, List.mem_flatMap, List.mem_map, not_exists, not_and]
    rintro _ ⟨ts, hts, rfl⟩
    exact at_not_mem_textLine (htok ts (List.mem_append_right _ hts))
  rw [text_toList, text_toList, hsplit, hsplit]
  have hreq : ∀ r ∈ D.requires, IsName r.1 ∧ ∀ m ∈ r.2, m = "transitive" ∨ m = "static" :=
    hD.requires
  have hlead : '@' ∉ (if D.isOpen = true then "open " else "").toList ++ "module ".toList := by
    rw [show "module ".toList = ['m', 'o', 'd', 'u', 'l', 'e', ' '] from rfl]
    split
    · rw [show "open ".toList = ['o', 'p', 'e', 'n', ' '] from rfl]
      simp
    · simp
  have hbrace : " \x7b".toList = [' ', '{'] := rfl
  have hspace : ∀ rest : List Char, ∀ c ∈ (" \x7b".toList ++ rest).head?, isSuffixEnd c = true := by
    rintro rest c ⟨⟩
    decide
  simp only [headerText, String.toList_append, List.append_assoc, List.map_append, String.join_append,
    List.cons_append]
  rw [← List.append_assoc (if D.isOpen = true then "open " else "").toList,
    dropVersions_append _ hlead, dropVersions_withVersion hver (hD.name.not_mem (by simp)) (hspace _),
    dropVersions_append _ (by rw [hbrace]; decide), dropVersions_cons _ (by decide),
    dropVersions_requires_lines hver hreq, dropVersions_append _ hothers,
    show dropVersions ['}', '\n'] = ['}', '\n'] by
      rw [dropVersions_cons _ (by decide), dropVersions_cons _ (by decide), dropVersions]]
  simp [withVersion]

theorem compiledFrom_toList : compiledFrom.toList =
    ['C', 'o', 'm', 'p', 'i', 'l', 'e', 'd', ' ', 'f', 'r', 'o', 'm', ' ', '"', 'm', 'o', 'd', 'u',
      'l', 'e', '-', 'i', 'n', 'f', 'o', '.', 'j', 'a', 'v', 'a', '"', '\n'] := rfl

/-- No header starts in the first line `javap` prints. -/
theorem compiledFrom_quiet : ∀ i < compiledFrom.toList.length,
    Text.boundaryAt compiledFrom.toList.toArray i = false ∨
      ((compiledFrom.toList.drop i).head?.all fun c => c != 'o' && c != 'm') = true ∨
      ("module".toList <+: compiledFrom.toList.drop i ∧
        (compiledFrom.toList.drop (i + 6)).head?.any (fun c => !Text.isBlank c)) := by
  rw [compiledFrom_toList, module_toList]
  decide +kernel

theorem Decl.WellFormed.withJavaBase {D : Decl} (hD : D.WellFormed) {mods : List String}
    (hmods : ∀ m ∈ mods, m = "transitive" ∨ m = "static") : (D.withJavaBase mods).WellFormed := by
  unfold Decl.withJavaBase
  split
  · exact hD
  · rename_i hjb
    refine { hD with requires := ?_, requiresOnce := ?_ }
    · simp only [List.mem_cons, forall_eq_or_imp]
      exact ⟨⟨isName_keywords "java.base" (by simp), hmods⟩, hD.requires⟩
    · exact List.nodup_cons.mpr ⟨hjb, hD.requiresOnce⟩

/-- What `javap` prints of a declaration, without its versions, is read as the declaration with
`java.base` required. -/
theorem readDeclaration_javap {D : Decl} (hD : D.WellFormed) {ver : String → Option String}
    (hver : Versioned ver) (path : Option String) :
    readDeclaration (String.ofList (dropVersions (D.javap ver).toList)) path =
      .ok (Descriptor.make D.name
        (Assoc.putIfAbsent (D.withJavaBase []).requires "java.base" ["mandated"]) D.exports D.uses
        D.provides [] path (D.opens.map openEntry) false D.isOpen) := by
  have hD' := @Decl.WellFormed.withJavaBase D hD [] (by simp)
  have hfirst : ∀ d ∈ ['/', '@'], d ∉ compiledFrom.toList := by
    rw [compiledFrom_toList]
    simp
  have hdrop : dropVersions (D.javap ver).toList =
      compiledFrom.toList ++ ((D.withJavaBase []).text fun _ => none).toList := by
    rw [Decl.javap, String.toList_append, dropVersions_append _ (hfirst '@' (by simp)),
      dropVersions_text hD' hver]
  have hnot : ∀ d ∈ ['/', '@'], d ∉ compiledFrom.toList ++ ((D.withJavaBase []).text fun _ => none).toList := by
    intro d hd h
    rcases List.mem_append.mp h with h | h
    · exact hfirst d hd h
    · simp only [List.mem_cons, List.not_mem_nil, or_false] at hd
      rcases hd with rfl | rfl
      · exact not_mem_text hD' (by simp) h
      · exact not_mem_text hD' (by simp) h
  have hsame : ∀ D' : Decl, D' = D.withJavaBase [] → D'.name = D.name ∧ D'.exports = D.exports ∧
      D'.uses = D.uses ∧ D'.provides = D.provides ∧ D'.opens = D.opens ∧ D'.isOpen = D.isOpen := by
    rintro _ rfl
    unfold Decl.withJavaBase
    split <;> simp
  obtain ⟨h1, h2, h3, h4, h5, h6⟩ := hsame _ rfl
  rw [← h1, ← h2, ← h3, ← h4, ← h5, ← h6]
  apply readDeclaration_of_blanked hD' (p := compiledFrom.toList)
  · rw [String.toList_ofList, hdrop, blankComments_of_not_mem (hnot '/' (by simp)),
      blankAnnotations_of_not_mem (hnot '@' (by simp))]
  · intro i hi
    exact headerAt_append_eq_none _ hi (compiledFrom_quiet i hi)
  · rw [compiledFrom_toList]
    rintro c ⟨⟩
    decide

end JavaBuild.Module
