import Mathlib.Data.List.Infix
import Mathlib.Data.List.TakeWhile
import JavaBuild.Patch.Language

/-!
# Module-info patches: the tokens of a text

The tokenizer of patch texts gives exactly the tokens of the lexical rules: it succeeds on a
text when the text splits into lexemes, and its tokens are then those of the split
(`tokenize_eq_ok_iff`). The split is unique (`Lexes.unique`), so a text has one token sequence.

The tokenizer measures one lexeme at a time (`tokenLength`). `tokenLength_eq_some` says what a
measure can be: a line comment, a block comment up to its first `*/`, a maximal run of blanks,
a punctuation mark or a maximal run of word characters. Soundness follows by induction along
the tokenizer (`lexes_of_tokenize`); conversely every lexeme of a split is measured as it is, so
completeness follows by induction on the split (`tokenize_of_lexes`).
-/

namespace JavaBuild.Patch

/-- Dropping the run that `takeWhile` measures leaves what `dropWhile` leaves, and that does not
start with a character of the run. -/
theorem drop_takeWhile_length {p : Char → Bool} (l : List Char) :
    l.drop (l.takeWhile p).length = l.dropWhile p ∧
      ∀ c ∈ (l.dropWhile p).head?, p c = false := by
  refine ⟨?_, fun c hc => ?_⟩
  · conv_lhs => arg 2; rw [← List.takeWhile_append_dropWhile (p := p) (l := l)]
    exact List.drop_left
  · have := List.head?_dropWhile_not p l
    rw [Option.mem_def] at hc
    rw [hc] at this
    exact this

/-! ## Block comments -/

/-- The search for the end of a block comment finds the first `*/`. -/
theorem closing_eq_some {k m : Nat} {cs : List Char} (h : tokenLength.closing k cs = some m) :
    ∃ body rest, cs = body ++ '*' :: '/' :: rest ∧ ¬ ['*', '/'] <:+: body ∧
      m = k + body.length + 2 := by
  induction k, cs using tokenLength.closing.induct with
  | case1 k tail =>
    rw [tokenLength.closing.eq_1] at h
    cases h
    exact ⟨[], tail, rfl, by simp, by simp⟩
  | case2 k c cs hnot ih =>
    rw [tokenLength.closing.eq_2 _ _ _ hnot] at h
    obtain ⟨body, rest, rfl, hno, rfl⟩ := ih h
    refine ⟨c :: body, rest, rfl, ?_, by simp; omega⟩
    intro hin
    rcases List.infix_cons_iff.mp hin with hpre | hin
    · -- a `*/` at the front would have ended the search one step earlier
      cases body with
      | nil => simp at hpre
      | cons b body =>
        obtain ⟨hc, hb, -⟩ : '*' = c ∧ '/' = b ∧ _ := by
          simpa only [List.cons_prefix_cons] using hpre
        exact hnot _ hc.symm (by rw [← hb]; rfl)
    · exact hno hin
  | case3 k => simp [tokenLength.closing.eq_3] at h

/-- The search for the end of a block comment stops at the first `*/`. -/
theorem closing_append {k : Nat} {body : List Char} (rest : List Char)
    (hno : ¬ ['*', '/'] <:+: body) :
    tokenLength.closing k (body ++ '*' :: '/' :: rest) = some (k + body.length + 2) := by
  induction body generalizing k with
  | nil => simp [tokenLength.closing.eq_1]
  | cons c body ih =>
    have hno' : ¬ ['*', '/'] <:+: body := fun h => hno (h.trans (List.suffix_cons c body).isInfix)
    -- the comment does not open with `*/`, so the search moves on by one character
    have hnot : ∀ tail, c = '*' → body ++ '*' :: '/' :: rest = '/' :: tail → False := by
      intro tail hc heq
      cases body with
      | nil => simp at heq
      | cons b body =>
        obtain ⟨rfl, -⟩ := List.cons.inj heq
        exact hno (hc ▸ (List.prefix_append ['*', '/'] body).isInfix)
    rw [List.cons_append, tokenLength.closing.eq_2 _ _ _ hnot, ih hno']
    simp only [List.length_cons, Option.some.injEq]
    omega

/-! ## What one measure is -/

/-- The punctuation marks. -/
theorem punct_chars : "{},;".toList = ['{', '}', ',', ';'] := by decide

/-- The characters that end a word besides blanks. -/
theorem wordStop_chars : "{},;/".toList = ['{', '}', ',', ';', '/'] := by decide

/-- The punctuation marks, one by one. -/
theorem isPunct_iff {c : Char} : isPunct c = true ↔ c = '{' ∨ c = '}' ∨ c = ',' ∨ c = ';' := by
  simp [isPunct, punct_chars]

/-- A character of a word is no blank, no punctuation mark and no slash. -/
theorem isWordChar_iff {c : Char} :
    isWordChar c = true ↔ Text.isBlank c = false ∧ isPunct c = false ∧ c ≠ '/' := by
  simp only [isWordChar, isPunct, punct_chars, wordStop_chars]
  simp
  tauto

/-- The first character of a text that is no slash decides its measure. -/
theorem tokenLength_of_ne_slash {c : Char} (rest : List Char) (hc : c ≠ '/') :
    tokenLength (c :: rest) =
      if Text.isBlank c then some (1 + (rest.takeWhile Text.isBlank).length, false)
      else if isPunct c then some (1, true)
      else some (1 + (rest.takeWhile isWordChar).length, true) := by
  rw [tokenLength.eq_3 _ _ (fun _ h _ => hc h) (fun _ h _ => hc h)]
  simp only [beq_iff_eq, hc, ↓reduceIte]
  rfl

/-- A slash that opens no comment is no lexeme. -/
theorem tokenLength_slash {rest : List Char} (h1 : ∀ r, rest ≠ '/' :: r)
    (h2 : ∀ r, rest ≠ '*' :: r) : tokenLength ('/' :: rest) = none := by
  rw [tokenLength.eq_3 _ _ (fun r _ h => h1 r h) (fun r _ h => h2 r h)]
  have hb : Text.isBlank '/' = false := by decide
  simp [hb, punct_chars]

/-- What a measure can be: a line comment, a block comment up to its first `*/`, a maximal run
of blanks, a punctuation mark, or a maximal run of word characters; only the last two are
tokens. -/
theorem tokenLength_eq_some {cs : List Char} {n : Nat} {counts : Bool}
    (h : tokenLength cs = some (n, counts)) :
    (∃ rest, cs = '/' :: '/' :: rest ∧ n = 2 + (rest.takeWhile (· != '\n')).length ∧
        counts = false) ∨
      (∃ body rest, cs = '/' :: '*' :: (body ++ '*' :: '/' :: rest) ∧ ¬ ['*', '/'] <:+: body ∧
        n = body.length + 4 ∧ counts = false) ∨
      (∃ c rest, cs = c :: rest ∧ Text.isBlank c = true ∧
        n = 1 + (rest.takeWhile Text.isBlank).length ∧ counts = false) ∨
      (∃ c rest, cs = c :: rest ∧ isPunct c = true ∧ n = 1 ∧ counts = true) ∨
      (∃ c rest, cs = c :: rest ∧ isWordChar c = true ∧
        n = 1 + (rest.takeWhile isWordChar).length ∧ counts = true) := by
  rcases cs with _ | ⟨c, rest⟩
  · simp [tokenLength.eq_4] at h
  by_cases hc : c = '/'
  · -- after a slash only a comment can follow
    subst hc
    rcases rest with _ | ⟨d, rest⟩
    · simp [@tokenLength_slash [] (by simp) (by simp)] at h
    by_cases hd : d = '/'
    · subst hd
      rw [tokenLength.eq_1] at h
      cases h
      exact .inl ⟨rest, rfl, rfl, rfl⟩
    by_cases hs : d = '*'
    · subst hs
      rw [tokenLength.eq_2] at h
      obtain ⟨m, hm, hmn⟩ := Option.map_eq_some_iff.mp h
      cases hmn
      obtain ⟨body, rest', rfl, hno, rfl⟩ := closing_eq_some hm
      exact .inr (.inl ⟨body, rest', rfl, hno, by omega, rfl⟩)
    · rw [tokenLength_slash (by simp [hd]) (by simp [hs])] at h
      cases h
  rw [tokenLength_of_ne_slash rest hc] at h
  by_cases hb : Text.isBlank c
  · simp only [hb, ↓reduceIte, Option.some.injEq, Prod.mk.injEq] at h
    exact .inr (.inr (.inl ⟨c, rest, rfl, hb, h.1.symm, h.2.symm⟩))
  by_cases hp : isPunct c
  · simp only [hb, hp, Bool.false_eq_true, ↓reduceIte, Option.some.injEq, Prod.mk.injEq] at h
    exact .inr (.inr (.inr (.inl ⟨c, rest, rfl, hp, h.1.symm, h.2.symm⟩)))
  · simp only [hb, hp, Bool.false_eq_true, ↓reduceIte, Option.some.injEq, Prod.mk.injEq] at h
    refine .inr (.inr (.inr (.inr ⟨c, rest, rfl, ?_, h.1.symm, h.2.symm⟩)))
    exact isWordChar_iff.mpr ⟨by simpa using hb, by simpa using hp, hc⟩

/-! ## Soundness -/

/-- The first lexeme that the tokenizer measures is one of the lexical rules: a text whose rest
splits into lexemes splits into lexemes too, with the measured token in front when it is one. -/
theorem lexes_of_tokenLength {cs : List Char} {n : Nat} {counts : Bool}
    (h : tokenLength cs = some (n, counts)) {ts : List String} (hrest : Lexes (cs.drop n) ts) :
    Lexes cs (if counts then String.ofList (cs.take n) :: ts else ts) := by
  rcases tokenLength_eq_some h with
    ⟨rest, rfl, rfl, rfl⟩ | ⟨body, rest, rfl, hno, rfl, rfl⟩ | ⟨c, rest, rfl, hb, rfl, rfl⟩ |
      ⟨c, rest, rfl, hp, rfl, rfl⟩ | ⟨c, rest, rfl, hw, rfl, rfl⟩
  case inl =>
    -- a line comment runs up to the line feed
    obtain ⟨hdrop, hhead⟩ := drop_takeWhile_length (p := (· != '\n')) rest
    rw [show ('/' :: '/' :: rest).drop (2 + (rest.takeWhile (· != '\n')).length) =
      rest.drop (rest.takeWhile (· != '\n')).length by rw [Nat.add_comm]; rfl, hdrop] at hrest
    simp only [Bool.false_eq_true, ↓reduceIte]
    rw [← List.takeWhile_append_dropWhile (p := (· != '\n')) (l := rest)]
    refine Lexes.lineComment (fun hin => ?_) (fun c hc => by simpa using hhead c hc) hrest
    simpa using List.mem_takeWhile_imp hin
  case inr.inl =>
    have hdrop : ('/' :: '*' :: (body ++ '*' :: '/' :: rest)).drop (body.length + 4) = rest := by
      simp [List.drop_append]
    rw [hdrop] at hrest
    exact Lexes.blockComment hno hrest
  case inr.inr.inl =>
    -- a run of blanks, as long as it goes
    obtain ⟨hdrop, hhead⟩ := drop_takeWhile_length (p := Text.isBlank) rest
    rw [Nat.add_comm, List.drop_succ_cons, hdrop] at hrest
    simp only [Bool.false_eq_true, ↓reduceIte]
    rw [← List.takeWhile_append_dropWhile (p := Text.isBlank) (l := rest), ← List.cons_append]
    refine Lexes.blanks (by simp) (fun d hd => ?_) hhead hrest
    rcases List.mem_cons.mp hd with rfl | hd
    · exact hb
    · exact List.mem_takeWhile_imp hd
  case inr.inr.inr.inl =>
    simpa using Lexes.punct hp (by simpa using hrest)
  case inr.inr.inr.inr =>
    -- a word, as long as it goes
    obtain ⟨hdrop, hhead⟩ := drop_takeWhile_length (p := isWordChar) rest
    rw [Nat.add_comm, List.drop_succ_cons, hdrop] at hrest
    have htake : (c :: rest).take (1 + (rest.takeWhile isWordChar).length) =
        c :: rest.takeWhile isWordChar := by
      rw [Nat.add_comm, List.take_succ_cons]
      congr 1
      conv_lhs => arg 2; rw [← List.takeWhile_append_dropWhile (p := isWordChar) (l := rest)]
      exact List.take_left
    rw [htake, if_pos rfl]
    have hword := @Lexes.word (c :: rest.takeWhile isWordChar) (rest.dropWhile isWordChar) _
      (by simp) (fun d hd => ?_) hhead hrest
    · rwa [List.cons_append, List.takeWhile_append_dropWhile] at hword
    · rcases List.mem_cons.mp hd with rfl | hd
      · exact hw
      · exact List.mem_takeWhile_imp hd

/-- The measure of the first lexeme of a text is not zero. -/
theorem tokenLength_pos {cs : List Char} {n : Nat} {counts : Bool}
    (h : tokenLength cs = some (n, counts)) : 0 < n := by
  rcases tokenLength_eq_some h with
    ⟨_, _, rfl, _⟩ | ⟨_, _, _, _, rfl, _⟩ | ⟨_, _, _, _, rfl, _⟩ | ⟨_, _, _, _, rfl, _⟩ |
      ⟨_, _, _, _, rfl, _⟩ <;> omega

/-- Whatever the tokenizer gives is the token sequence of a split of the text into lexemes. -/
theorem lexes_of_tokenize {cs : List Char} {line : Nat} {ts : List (String × Nat)}
    (h : tokenize cs line = .ok ts) : Lexes cs (ts.map Prod.fst) := by
  induction cs, line using tokenize.induct generalizing ts with
  | case1 line =>
    rw [tokenize.eq_1] at h
    cases h
    exact Lexes.nil
  | case2 line c rest hlen =>
    rw [tokenize.eq_2, hlen] at h
    cases h
  | case3 line c rest n counts hlen text line' ts' hts' =>
    rename_i ih
    have hrest : tokenize ((c :: rest).drop (max n 1))
        (line + ((c :: rest).take n).count '\n') = .ok ts' := hts'
    rw [tokenize.eq_2, hlen] at h
    simp only [hrest, Except.ok.injEq] at h
    subst h
    have hn : max n 1 = n := Nat.max_eq_left (tokenLength_pos hlen)
    have hsplit := lexes_of_tokenLength hlen (hn ▸ ih hts')
    cases counts <;> simpa using hsplit
  | case4 line c rest n counts hlen text line' e he =>
    have hrest : tokenize ((c :: rest).drop (max n 1))
        (line + ((c :: rest).take n).count '\n') = .error e := he
    rw [tokenize.eq_2, hlen] at h
    simp only [hrest] at h
    cases h

/-! ## Completeness -/

/-- One step of the tokenizer: the measured lexeme, then the rest of the text. -/
theorem tokenize_step {c : Char} {rest : List Char} {n : Nat} {counts : Bool}
    (h : tokenLength (c :: rest) = some (n, counts)) (line : Nat) :
    tokenize (c :: rest) line =
      (tokenize ((c :: rest).drop n) (line + ((c :: rest).take n).count '\n')).map fun ts =>
        if counts then (String.ofList ((c :: rest).take n), line) :: ts else ts := by
  have hn : max n 1 = n := Nat.max_eq_left (tokenLength_pos h)
  rw [tokenize.eq_2, h]
  simp only [hn]
  cases tokenize ((c :: rest).drop n) (line + ((c :: rest).take n).count '\n') <;> rfl

/-- A maximal run is what `takeWhile` takes. -/
theorem takeWhile_run {p : Char → Bool} {run rest : List Char} (hrun : ∀ c ∈ run, p c = true)
    (hrest : ∀ c ∈ rest.head?, p c = false) : (run ++ rest).takeWhile p = run := by
  rw [List.takeWhile_append_of_pos hrun]
  cases rest with
  | nil => simp
  | cons d ds => simp [List.takeWhile_cons_of_neg (by simpa using hrest d rfl)]

/-- A blank is no slash. -/
theorem ne_slash_of_isBlank {c : Char} (h : Text.isBlank c = true) : c ≠ '/' := by
  rintro rfl
  exact absurd h (by decide)

/-- A punctuation mark is neither blank nor a slash. -/
theorem isPunct_facts {c : Char} (h : isPunct c = true) : Text.isBlank c = false ∧ c ≠ '/' := by
  rcases isPunct_iff.mp h with rfl | rfl | rfl | rfl <;> decide

/-- The tokenizer gives the tokens of every split of a text into lexemes. -/
theorem tokenize_of_lexes {cs : List Char} {ws : List String} (h : Lexes cs ws) (line : Nat) :
    ∃ ts, tokenize cs line = .ok ts ∧ ts.map Prod.fst = ws := by
  induction h generalizing line with
  | nil => exact ⟨[], tokenize.eq_1 line, rfl⟩
  | @lineComment body rest ts hbody hrest _ ih =>
    have hlen : tokenLength ('/' :: '/' :: (body ++ rest)) = some (2 + body.length, false) := by
      rw [tokenLength.eq_1, takeWhile_run (fun c hc => by simpa using ne_of_mem_of_not_mem hc hbody)
        (fun c hc => by simp [hrest c hc])]
    obtain ⟨ts', hts', rfl⟩ := ih (line + (('/' :: '/' :: (body ++ rest)).take
      (2 + body.length)).count '\n')
    refine ⟨ts', ?_, rfl⟩
    rw [tokenize_step hlen, show ('/' :: '/' :: (body ++ rest)).drop (2 + body.length) = rest by
      rw [Nat.add_comm]; exact List.drop_left, hts']
    rfl
  | @blockComment body rest ts hno _ ih =>
    have hlen : tokenLength ('/' :: '*' :: (body ++ '*' :: '/' :: rest)) =
        some (2 + (0 + body.length + 2), false) := by
      rw [tokenLength.eq_2, closing_append rest hno]
      rfl
    obtain ⟨ts', hts', rfl⟩ := ih (line + (('/' :: '*' :: (body ++ '*' :: '/' :: rest)).take
      (2 + (0 + body.length + 2))).count '\n')
    refine ⟨ts', ?_, rfl⟩
    rw [tokenize_step hlen, show ('/' :: '*' :: (body ++ '*' :: '/' :: rest)).drop
      (2 + (0 + body.length + 2)) = rest by
        rw [show 2 + (0 + body.length + 2) = body.length + 4 by omega]; simp [List.drop_append],
      hts']
    rfl
  | @blanks run rest ts hne hrun hrest _ ih =>
    obtain ⟨c, run, rfl⟩ := List.exists_cons_of_ne_nil hne
    have hb : Text.isBlank c = true := hrun c (List.mem_cons_self ..)
    have hlen : tokenLength (c :: (run ++ rest)) = some (1 + run.length, false) := by
      rw [tokenLength_of_ne_slash _ (ne_slash_of_isBlank hb), if_pos hb,
        takeWhile_run (fun d hd => hrun d (List.mem_cons_of_mem _ hd)) hrest]
    obtain ⟨ts', hts', rfl⟩ := ih (line + ((c :: (run ++ rest)).take (1 + run.length)).count '\n')
    refine ⟨ts', ?_, rfl⟩
    rw [List.cons_append, tokenize_step hlen, show (c :: (run ++ rest)).drop (1 + run.length) = rest
      by rw [Nat.add_comm]; exact List.drop_left, hts']
    rfl
  | @punct c rest ts hp _ ih =>
    obtain ⟨hb, hs⟩ := isPunct_facts hp
    have hlen : tokenLength (c :: rest) = some (1, true) := by
      rw [tokenLength_of_ne_slash _ hs, hb, hp]
      rfl
    obtain ⟨ts', hts', rfl⟩ := ih (line + ((c :: rest).take 1).count '\n')
    refine ⟨(String.singleton c, line) :: ts', ?_, rfl⟩
    rw [tokenize_step hlen, List.drop_one, List.tail_cons, hts']
    rfl
  | @word w rest ts hne hw hrest _ ih =>
    obtain ⟨c, w, rfl⟩ := List.exists_cons_of_ne_nil hne
    obtain ⟨hb, hp, hs⟩ := isWordChar_iff.mp (hw c (List.mem_cons_self ..))
    have hlen : tokenLength (c :: (w ++ rest)) = some (1 + w.length, true) := by
      rw [tokenLength_of_ne_slash _ hs, hb, hp,
        takeWhile_run (fun d hd => hw d (List.mem_cons_of_mem _ hd)) hrest]
      rfl
    have htake : (c :: (w ++ rest)).take (1 + w.length) = c :: w := by
      rw [Nat.add_comm]; exact congrArg (c :: ·) List.take_left
    obtain ⟨ts', hts', rfl⟩ := ih (line + ((c :: (w ++ rest)).take (1 + w.length)).count '\n')
    refine ⟨(String.ofList (c :: w), line) :: ts', ?_, rfl⟩
    rw [List.cons_append, tokenize_step hlen, show (c :: (w ++ rest)).drop (1 + w.length) = rest
      by rw [Nat.add_comm]; exact List.drop_left, hts', htake]
    rfl

/-- The tokenizer succeeds exactly on the texts that split into lexemes, with their tokens. -/
theorem tokenize_eq_ok_iff {cs : List Char} {ws : List String} (line : Nat) :
    (∃ ts, tokenize cs line = .ok ts ∧ ts.map Prod.fst = ws) ↔ Lexes cs ws :=
  ⟨fun ⟨_, hts, hws⟩ => hws ▸ lexes_of_tokenize hts, fun h => tokenize_of_lexes h line⟩

/-- A text splits into lexemes in one way only, as far as its tokens go. -/
theorem Lexes.unique {cs : List Char} {ws ws' : List String} (h : Lexes cs ws)
    (h' : Lexes cs ws') : ws = ws' := by
  obtain ⟨ts, hts, rfl⟩ := tokenize_of_lexes h 1
  obtain ⟨ts', hts', rfl⟩ := tokenize_of_lexes h' 1
  rw [hts] at hts'
  cases hts'
  rfl

end JavaBuild.Patch
