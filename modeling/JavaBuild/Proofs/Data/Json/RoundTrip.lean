import JavaBuild.Proofs.Data.Json.Scan

/-!
# Reading back an indented JSON text

A value written one item a line with `renderIndented` reads back as the value with the members
of every object sorted by name (`parse_renderIndented`), provided that its text can tell it
apart (`readsBack`):

* the text of every binary64 number reads back as the number (`numberReadsBack`): the shortest
  text is chosen to round back to its value, and this is where that choice is relied on;
* no text holds the stand-in of a high surrogate right before that of a low one, whose escapes
  would read back as one character (`pairsStandIns`);
* no object names a member twice, since a name read twice keeps only its later value.

The argument follows the three mutually recursive readers. Each is shown to read the text that
the writer produced for its part, followed by any rest that cannot continue a number: a value
(`parseValue_renderLines`), the items of an array after their indentation
(`parseItems_itemLines`) and the members of an object (`parseMembers_memberLines`). One step of
each loop is a lemma of its own: an item or member followed by the closing bracket
(`parseItems_close`, `parseMembers_close`) or by a comma (`parseItems_comma`,
`parseMembers_comma`). The fuel that bounds the readers is twice the characters left, plus one;
each step uses up one unit of fuel and at least one character.
-/

namespace JavaBuild.Json

variable {s : Array Char} {i fuel : Nat}

/-! ## The indented text -/

@[simp] theorem toList_pad (lvl : Nat) : (pad lvl).toList = List.replicate lvl ' ' := by simp [pad]

theorem renderLines_scalar (lvl : Nat) (j : Json) (harr : ∀ xs, j ≠ .arr xs)
    (hobj : ∀ ms, j ≠ .obj ms) : renderLines lvl j = render j := by
  cases j <;> simp_all [renderLines]

theorem toList_renderLines_arr_cons (lvl : Nat) (x : Json) (xs : List Json) :
    (renderLines lvl (.arr (x :: xs))).toList =
      '[' :: '\n' :: ((itemLines (lvl + 1) (x :: xs)).toList ++
        '\n' :: ((pad lvl).toList ++ [']'])) := by
  simp [renderLines, String.toList_append]

theorem toList_renderLines_obj_cons (lvl : Nat) (m : String × Json)
    (ms : List (String × Json)) :
    (renderLines lvl (.obj (m :: ms))).toList =
      '{' :: '\n' :: ((memberLines (lvl + 1) (m :: ms)).toList ++
        '\n' :: ((pad lvl).toList ++ ['}'])) := by
  simp [renderLines, String.toList_append]

theorem toList_itemLines_single (lvl : Nat) (x : Json) :
    (itemLines lvl [x]).toList = (pad lvl).toList ++ (renderLines lvl x).toList := by
  simp [itemLines, String.toList_append]

theorem toList_itemLines_cons_cons (lvl : Nat) (x y : Json) (ys : List Json) :
    (itemLines lvl (x :: y :: ys)).toList =
      (pad lvl).toList ++ (renderLines lvl x).toList ++
        ',' :: '\n' :: (itemLines lvl (y :: ys)).toList := by
  simp [itemLines, String.toList_append]

theorem toList_memberLines_single (lvl : Nat) (k : String) (v : Json) :
    (memberLines lvl [(k, v)]).toList =
      (pad lvl).toList ++ (quote k).toList ++ ':' :: ' ' :: (renderLines lvl v).toList := by
  simp [memberLines, String.toList_append]

theorem toList_memberLines_cons_cons (lvl : Nat) (k : String) (v : Json) (m : String × Json)
    (ms : List (String × Json)) :
    (memberLines lvl ((k, v) :: m :: ms)).toList =
      (pad lvl).toList ++ (quote k).toList ++ ':' :: ' ' :: (renderLines lvl v).toList ++
        ',' :: '\n' :: (memberLines lvl (m :: ms)).toList := by
  simp [memberLines, String.toList_append]

theorem toList_length_quote (key : String) :
    (quote key).toList.length = (escaped key.toList).length + 2 := by
  simp [toList_quote]

/-! ## What the first character decides -/

theorem hasAt_of_drop {s : Array Char} {i : Nat} {w : String} {rest : List Char}
    (h : s.toList.drop i = w.toList ++ rest) : hasAt s i w = true := by
  have hsize := congrArg List.length h
  simp only [List.length_drop, Array.length_toList, List.length_append] at hsize
  unfold hasAt
  rw [List.all_eq_true]
  intro k hk
  rw [List.mem_range, ← String.length_toList] at hk
  rw [at!_add_of_drop h hk, List.getD_eq_getElem?_getD, List.getElem?_eq_getElem hk,
    Option.getD_some]
  simp only [beq_self_eq_true, Bool.and_true, decide_eq_true_eq]
  omega

theorem at!_of_hasAt {w : String} {k : Nat} (h : hasAt s i w = true) (hk : k < w.length) :
    at! s (i + k) = w.toList.getD k ' ' := by
  unfold hasAt at h
  rw [List.all_eq_true] at h
  have := h k (List.mem_range.mpr hk)
  simp only [Bool.and_eq_true, beq_iff_eq] at this
  exact this.2

theorem word_of_drop {w : String} (c : Char) (cs : List Char) {rest : List Char}
    (hw : w.toList = c :: cs)
    (h : s.toList.drop i = w.toList ++ rest) :
    at! s i = c ∧ hasAt s i w = true ∧ i + cs.length < s.size := by
  have hs := hasAt_of_drop h
  rw [hw, List.cons_append] at h
  have hsize := congrArg List.length h
  simp only [List.length_drop, Array.length_toList, List.length_append, List.length_cons] at hsize
  exact ⟨at!_of_drop h, hs, by omega⟩

theorem parseValue_quote (hi : i < s.size) (hc : at! s i = '"') :
    parseValue (fuel + 1) s i = (scanString s i (i + 1) []).map fun (t, j) => (.str t, j) := by
  rw [parseValue, if_neg (by omega), hc]
  simp

theorem parseValue_brace (hi : i < s.size) (hc : at! s i = '{') :
    parseValue (fuel + 1) s i = parseValue.parseMembers fuel s (skipBlanks s (i + 1)) [] true := by
  rw [parseValue, if_neg (by omega), hc]
  simp

theorem parseValue_bracket (hi : i < s.size) (hc : at! s i = '[') :
    parseValue (fuel + 1) s i = parseValue.parseItems fuel s (skipBlanks s (i + 1)) [] true := by
  rw [parseValue, if_neg (by omega), hc]
  simp

/-- A text reads back from its quoted form. -/
theorem parseValue_quote_text {t : String} {rest : List Char} (ht : pairsStandIns t.toList = false)
    (h : s.toList.drop i = (quote t).toList ++ rest) :
    parseValue (fuel + 1) s i = .ok (.str t, i + (quote t).toList.length) := by
  rw [toList_quote, List.cons_append] at h
  have hbody : s.toList.drop (i + 1) = escaped t.toList ++ '"' :: rest := by
    rw [drop_succ_of_drop h, List.append_assoc]; rfl
  have hscan : scanString s i (i + 1) [] = _ := scanString_escaped hbody ht
  rw [parseValue_quote (lt_size_of_drop h) (at!_of_drop h), hscan]
  simp only [List.reverse_nil, List.nil_append, String.ofList_toList, toList_quote,
    List.length_cons, List.length_append, List.length_nil, Except.map, Except.ok.injEq,
    Prod.mk.injEq, true_and]
  omega

theorem intEnd?_digit {p q : Nat} (h : intEnd? s p = some q) :
    p < s.size ∧ ('0' ≤ at! s p && at! s p ≤ '9') = true := by
  unfold intEnd? at h
  dsimp only at h
  split at h
  · rename_i hc
    obtain ⟨hp, h1, h2⟩ := hc
    exact ⟨hp, by simp [Char.le_trans (show '0' ≤ '1' by decide) h1, h2]⟩
  · split at h
    · rename_i hc
      obtain ⟨hp, h0⟩ := hc
      rw [beq_iff_eq.mp h0]
      exact ⟨hp, by decide⟩
    · cases h

/-- A number starts with a digit, or with a minus sign and a digit. -/
theorem scanNumber_head {r : Json × Nat} (h : scanNumber s i = some r) :
    i < s.size ∧ (('0' ≤ at! s i && at! s i ≤ '9') = true ∨
      (at! s i = '-' ∧ ('0' ≤ at! s (i + 1) && at! s (i + 1) ≤ '9') = true)) := by
  unfold scanNumber at h
  by_cases hneg : (at! s i == '-') = true
  · simp only [hneg, ↓reduceIte, true_and] at h
    split at h
    · cases h
    · split at h
      · cases h
      · rename_i q hq
        obtain ⟨hp, hd⟩ := intEnd?_digit hq
        exact ⟨by omega, Or.inr ⟨beq_iff_eq.mp hneg, hd⟩⟩
  · simp only [hneg, Bool.false_eq_true, ↓reduceIte, false_and] at h
    split at h
    · cases h
    · rename_i q hq
      obtain ⟨hp, hd⟩ := intEnd?_digit hq
      exact ⟨hp, Or.inl hd⟩

/-- Where a number starts, no other value does. -/
theorem parseValue_of_scanNumber {r : Json × Nat} (h : scanNumber s i = some r) :
    parseValue (fuel + 1) s i = .ok r := by
  obtain ⟨hi, hd⟩ := scanNumber_head h
  rw [parseValue, if_neg (by omega)]
  rcases hd with hd | ⟨hm, hd⟩
  · have hne : ∀ c ∈ ['"', '{', '[', 'n', 't', 'f', 'N', 'I', '-'], at! s i ≠ c := by
      intro c hc heq
      rw [heq] at hd
      simp only [List.mem_cons, List.not_mem_nil, or_false] at hc
      rcases hc with rfl | rfl | rfl | rfl | rfl | rfl | rfl | rfl | rfl <;>
        exact absurd hd (by decide)
    simp [hne, h]
  · have hI : hasAt s i "-Infinity" = false := by
      cases hs : hasAt s i "-Infinity"
      · rfl
      · have := at!_of_hasAt hs (k := 1) (by decide)
        rw [this] at hd
        exact absurd hd (by decide)
    simp [hm, hI, h]

/-! ## Numbers that read back -/

/-- Whether the text of a number reads back as the number. NaN and the infinities are written as
words, which read back; the text of a finite value, read as a number on its own, must give the
value and end where the text ends. -/
def numberReadsBack (x : Binary64) : Bool :=
  match x with
  | .finite .. =>
    match scanNumber (numberText x).toList.toArray 0 with
    | some (.float y, k) => y == x && k == (numberText x).toList.length
    | _ => false
  | _ => true

theorem scanNumber_text_of_numberReadsBack {v : Rat} {z : Bool}
    (hx : numberReadsBack (.finite v z) = true) :
    scanNumber (numberText (.finite v z)).toList.toArray 0 =
      some (.float (.finite v z), (numberText (.finite v z)).toList.length) := by
  -- the equation lemmas of the definition are costly to generate: unfold it instead
  unfold numberReadsBack at hx
  dsimp only at hx
  split at hx
  · rename_i y k hs
    simp only [Bool.and_eq_true, beq_iff_eq] at hx
    rw [hs, hx.1, hx.2]
  · cases hx

/-- The text of a finite number that reads back on its own reads back wherever it stands, as long
as what follows cannot continue it. -/
theorem scanNumber_of_numberReadsBack {s : Array Char} {i : Nat} {v : Rat} {z : Bool}
    {rest : List Char} (hx : numberReadsBack (.finite v z) = true)
    (h : s.toList.drop i = (numberText (.finite v z)).toList ++ rest)
    (hend : isNumberChar (headChar rest) = false) :
    scanNumber s i =
      some (.float (.finite v z), i + (numberText (.finite v z)).toList.length) := by
  generalize hw : (numberText (.finite v z)).toList = w at h
  have ht := scanNumber_text_of_numberReadsBack hx
  rw [hw] at ht
  have htw : w.toArray.toList.drop 0 = w ++ [] := by simp
  have hsize := congrArg List.length h
  simp only [List.length_drop, Array.length_toList, List.length_append] at hsize
  have hpos : 0 < w.length := by simpa using (scanNumber_head ht).1
  have agree : NumberAgree s w.toArray i 0 w.length :=
    { chars := fun a ha => by rw [at!_add_of_drop h ha, at!_add_of_drop htw ha]
      sizeS := by omega
      sizeT := by simp
      endS := by rwa [at!_of_drop_eq (drop_add_of_drop h)]
      endT := by rw [at!_of_size_le (by simp)]; decide }
  rcases agree.scanNumber with ⟨_, hnone⟩ | ⟨r, k, hs, hk⟩
  · rw [ht] at hnone
    cases hnone
  · rw [ht, Nat.zero_add] at hk
    obtain ⟨rfl, rfl⟩ := Prod.mk.inj (Option.some.inj hk)
    exact hs

/-! ## Values that read back -/

mutual
/-- Whether a value reads back from its text: the text of every number reads back, no text pairs
the stand-ins of two surrogates, and no object names a member twice. -/
def readsBack : Json → Bool
  | .float x => numberReadsBack x
  | .str t => !pairsStandIns t.toList
  | .arr items => readsBackItems items
  | .obj ms => decide (ms.map Prod.fst).Nodup && readsBackMembers ms
  | _ => true

/-- Whether every item reads back from its text. -/
def readsBackItems : List Json → Bool
  | [] => true
  | x :: rest => readsBack x && readsBackItems rest

/-- Whether every member's name and value read back from their texts. -/
def readsBackMembers : List (String × Json) → Bool
  | [] => true
  | (k, v) :: rest => !pairsStandIns k.toList && readsBack v && readsBackMembers rest
end

theorem readsBackItems_iff (xs : List Json) :
    readsBackItems xs = true ↔ ∀ x ∈ xs, readsBack x = true := by
  induction xs with
  | nil => simp [readsBackItems]
  | cons x xs ih => simp [readsBackItems, ih]

theorem readsBackMembers_iff (ms : List (String × Json)) :
    readsBackMembers ms = true ↔
      ∀ m ∈ ms, pairsStandIns m.1.toList = false ∧ readsBack m.2 = true := by
  induction ms with
  | nil => simp [readsBackMembers]
  | cons m ms ih =>
    obtain ⟨k, v⟩ := m
    simp [readsBackMembers, ih, and_assoc]

/-- A value other than an array or an object reads back from its text, where what follows cannot
continue a number. -/
theorem parseValue_render {j : Json} {rest : List Char} (hj : readsBack j = true)
    (harr : ∀ xs, j ≠ .arr xs) (hobj : ∀ ms, j ≠ .obj ms)
    (h : s.toList.drop i = (render j).toList ++ rest)
    (hend : isNumberChar (headChar rest) = false) :
    parseValue (fuel + 1) s i = .ok (j, i + (render j).toList.length) := by
  cases j with
  | null =>
    obtain ⟨hc, hs, hsz⟩ := word_of_drop (w := "null") 'n'
      ['u', 'l', 'l'] (by decide) h
    rw [parseValue, if_neg (by omega), hc]
    simp only [List.length_cons, List.length_nil] at hsz
    simp [hs, hsz, render]
  | bool b =>
    cases b with
    | false =>
      obtain ⟨hc, hs, hsz⟩ := word_of_drop (w := "false") 'f'
        ['a', 'l', 's', 'e'] (by decide) h
      rw [parseValue, if_neg (by omega), hc]
      simp only [List.length_cons, List.length_nil] at hsz
      simp [hs, hsz, render]
    | true =>
      obtain ⟨hc, hs, hsz⟩ := word_of_drop (w := "true") 't'
        ['r', 'u', 'e'] (by decide) h
      rw [parseValue, if_neg (by omega), hc]
      simp only [List.length_cons, List.length_nil] at hsz
      simp [hs, hsz, render]
  | int n => exact parseValue_of_scanNumber (scanNumber_intText h hend)
  | float x =>
    cases x with
    | finite v z => exact parseValue_of_scanNumber (scanNumber_of_numberReadsBack hj h hend)
    | infinity n =>
      cases n with
      | false =>
        obtain ⟨hc, hs, hsz⟩ := word_of_drop (w := "Infinity") 'I'
          ['n', 'f', 'i', 'n', 'i', 't', 'y'] (by decide) h
        rw [parseValue, if_neg (by omega), hc]
        simp only [List.length_cons, List.length_nil] at hsz
        simp [hs, hsz, render, numberText]
      | true =>
        obtain ⟨hc, hs, hsz⟩ := word_of_drop (w := "-Infinity") '-'
          ['I', 'n', 'f', 'i', 'n', 'i', 't', 'y'] (by decide) h
        rw [parseValue, if_neg (by omega), hc]
        simp only [List.length_cons, List.length_nil] at hsz
        simp [hs, hsz, render, numberText]
    | nan =>
      obtain ⟨hc, hs, hsz⟩ := word_of_drop (w := "NaN") 'N'
        ['a', 'N'] (by decide) h
      rw [parseValue, if_neg (by omega), hc]
      simp only [List.length_cons, List.length_nil] at hsz
      simp [hs, hsz, render, numberText]
  | str t => exact parseValue_quote_text (by simpa [readsBack] using hj) h
  | arr xs => exact absurd rfl (harr xs)
  | obj ms => exact absurd rfl (hobj ms)

theorem ne_of_digit {c d : Char} (hc : ('0' ≤ c && c ≤ '9') = true)
    (hd : ('0' ≤ d && d ≤ '9') = false) : c ≠ d := by
  rintro rfl
  rw [hc] at hd
  cases hd

/-- Whether a character can start a value: it is no blank, no byte order mark, and closes no
array or object. -/
def startsValue (c : Char) : Bool := !isJsonBlank c && c != ']' && c != '}' && c != '\uFEFF'

theorem ne_of_startsValue {c : Char} (h : startsValue c = true) :
    c ≠ ']' ∧ c ≠ '}' ∧ isJsonBlank c = false ∧ c ≠ '\uFEFF' := by
  simp only [startsValue, Bool.and_eq_true, Bool.not_eq_true', bne_iff_ne, ne_eq] at h
  exact ⟨h.1.1.2, h.1.2, h.1.1.1, h.2⟩

theorem startsValue_of_scanNumber {w : List Char} {r : Json × Nat}
    (h : scanNumber w.toArray 0 = some r) : ∃ c cs, w = c :: cs ∧ startsValue c = true := by
  obtain ⟨hi, hd⟩ := scanNumber_head h
  cases w with
  | nil => simp at hi
  | cons c cs =>
    have hc : at! (c :: cs).toArray 0 = c :=
      at!_of_drop (show (c :: cs).toArray.toList.drop 0 = c :: cs from rfl)
    rw [hc] at hd
    refine ⟨c, cs, rfl, ?_⟩
    rcases hd with hd | ⟨rfl, -⟩
    · simp [startsValue, isJsonBlank, ne_of_digit hd]
    · decide

/-- Every value's text starts with a character that can start a value. -/
theorem head_renderLines (lvl : Nat) (j : Json) (hj : readsBack j = true) :
    ∃ c cs, (renderLines lvl j).toList = c :: cs ∧ startsValue c = true := by
  cases j with
  | null => exact ⟨'n', ['u', 'l', 'l'], by simp [renderLines, render], by decide⟩
  | bool b =>
    cases b with
    | false => exact ⟨'f', ['a', 'l', 's', 'e'], by simp [renderLines, render], by decide⟩
    | true => exact ⟨'t', ['r', 'u', 'e'], by simp [renderLines, render], by decide⟩
  | int n =>
    have := scanNumber_intText (s := (intText n).toList.toArray) (i := 0) (n := n)
      (show _ = (intText n).toList ++ [] by simp) (by decide)
    exact startsValue_of_scanNumber this
  | float x =>
    cases x with
    | finite v z =>
      exact startsValue_of_scanNumber (scanNumber_text_of_numberReadsBack hj)
    | infinity n =>
      cases n with
      | false => exact ⟨'I', ['n', 'f', 'i', 'n', 'i', 't', 'y'],
        by simp [renderLines, render, numberText], by decide⟩
      | true => exact ⟨'-', ['I', 'n', 'f', 'i', 'n', 'i', 't', 'y'],
        by simp [renderLines, render, numberText], by decide⟩
    | nan => exact ⟨'N', ['a', 'N'], by simp [renderLines, render, numberText], by decide⟩
  | str t =>
    exact ⟨'"', escaped t.toList ++ ['"'], by simp [renderLines, render, toList_quote],
      by decide⟩
  | arr xs =>
    cases xs with
    | nil => exact ⟨'[', [']'], by simp [renderLines], by decide⟩
    | cons x xs => exact ⟨'[', _, toList_renderLines_arr_cons lvl x xs, by decide⟩
  | obj ms =>
    cases ms with
    | nil => exact ⟨'{', ['}'], by simp [renderLines], by decide⟩
    | cons m ms => exact ⟨'{', _, toList_renderLines_obj_cons lvl m ms, by decide⟩

/-! ## Blanks and delimiters -/

theorem skipBlanks_of_blank {i : Nat} (hi : i < s.size) (hb : isJsonBlank (at! s i) = true) :
    skipBlanks s i = skipBlanks s (i + 1) := by
  rw [at!_eq_getElem hi] at hb
  rw [skipBlanks, dif_pos hi, if_pos hb]

theorem skipBlanks_of_nonblank {i : Nat} {c : Char} {rest : List Char}
    (h : s.toList.drop i = c :: rest) (hc : isJsonBlank c = false) : skipBlanks s i = i := by
  have hi := lt_size_of_drop h
  have hb : isJsonBlank s[i] = false := by rw [← at!_eq_getElem hi, at!_of_drop h, hc]
  rw [skipBlanks, dif_pos hi, if_neg (by rw [hb]; decide)]

/-- The indentation of an item is skipped up to its first character. -/
theorem skipBlanks_pad {i lvl : Nat} {c : Char} {more : List Char}
    (h : s.toList.drop i = (pad lvl).toList ++ c :: more) (hc : startsValue c = true) :
    skipBlanks s i = i + lvl := by
  have := skipBlanks_of_drop h (by simp [isJsonBlank]) (fun d hd => by
    cases hd
    exact (ne_of_startsValue hc).2.2.1)
  simpa using this

theorem isNumberChar_headChar_blanks {bs rest : List Char} {c : Char}
    (hbs : ∀ b ∈ bs, isJsonBlank b = true) (hc : isNumberChar c = false) :
    isNumberChar (headChar (bs ++ c :: rest)) = false := by
  cases bs with
  | nil => exact hc
  | cons b bs =>
    have hb := hbs b (by simp)
    simp only [isJsonBlank, Bool.or_eq_true, beq_iff_eq] at hb
    rcases hb with ((rfl | rfl) | rfl) | rfl <;> rfl

/-- After an item, blanks and a bracket close the array. -/
theorem parseItems_close {p F k : Nat} {acc : List Json} {first : Bool} {v : Json}
    {bs rest : List Char} (hp : at! s p ≠ ']') (hv : parseValue F s p = .ok (v, k))
    (hk : s.toList.drop k = bs ++ ']' :: rest) (hbs : ∀ c ∈ bs, isJsonBlank c = true) :
    parseValue.parseItems (F + 1) s p acc first =
      .ok (.arr (v :: acc).reverse, k + bs.length + 1) := by
  have hskip := skipBlanks_of_drop hk hbs (fun c hc => by cases hc; rfl)
  have hk' := drop_add_of_drop hk
  rw [parseValue.parseItems]
  simp [hp, hv, bind, Except.bind, hskip, at!_of_drop hk', lt_size_of_drop hk']

/-- After an item, a comma leads to the next one. -/
theorem parseItems_comma {p F k : Nat} {acc : List Json} {first : Bool} {v : Json}
    {rest : List Char} (hp : at! s p ≠ ']') (hv : parseValue F s p = .ok (v, k))
    (hk : s.toList.drop k = ',' :: rest) :
    parseValue.parseItems (F + 1) s p acc first =
      parseValue.parseItems F s (skipBlanks s (k + 1)) (v :: acc) false := by
  have hskip := skipBlanks_of_nonblank hk rfl
  rw [parseValue.parseItems]
  simp [hp, hv, bind, Except.bind, hskip, at!_of_drop hk, lt_size_of_drop hk]

/-- The value of a member follows its name, the colon and a blank. -/
theorem drop_value_of_memberName {p : Nat} {key : String} {w : List Char}
    (h : s.toList.drop p = (quote key).toList ++ ':' :: ' ' :: w) :
    s.toList.drop (p + (quote key).toList.length + 2) = w :=
  drop_two_of_drop (drop_add_of_drop h)

/-- A member's name reads back, and the colon and blank after it lead to its value. -/
theorem memberName_of_drop {p : Nat} {key : String} {w : List Char}
    (h : s.toList.drop p = (quote key).toList ++ ':' :: ' ' :: w)
    (hpairs : pairsStandIns key.toList = false) (hw : isJsonBlank (headChar w) = false) :
    p < s.size ∧ at! s p = '"' ∧
      scanString s p (p + 1) [] = .ok (key, p + (quote key).toList.length) ∧
      skipBlanks s (p + (quote key).toList.length) = p + (quote key).toList.length ∧
      p + (quote key).toList.length < s.size ∧ at! s (p + (quote key).toList.length) = ':' ∧
      skipBlanks s (p + (quote key).toList.length + 1) = p + (quote key).toList.length + 2 := by
  have hcolon := drop_add_of_drop h
  have hq := h
  rw [toList_quote, List.cons_append] at hq
  have hbody : s.toList.drop (p + 1) = escaped key.toList ++ '"' :: (':' :: ' ' :: w) := by
    rw [drop_succ_of_drop hq, List.append_assoc]; rfl
  have hscan : scanString s p (p + 1) [] = _ := scanString_escaped hbody hpairs
  simp only [List.reverse_nil, List.nil_append, String.ofList_toList] at hscan
  refine ⟨lt_size_of_drop hq, at!_of_drop hq, ?_, ?_, lt_size_of_drop hcolon,
    at!_of_drop hcolon, ?_⟩
  · have hend : p + 1 + (escaped key.toList).length + 1 = p + ((escaped key.toList).length + 2) := by
      omega
    rw [hscan, toList_length_quote, hend]
  · exact skipBlanks_of_nonblank hcolon rfl
  · have hblank : s.toList.drop (p + (quote key).toList.length + 1) = [' '] ++ w :=
      drop_succ_of_drop hcolon
    rw [skipBlanks_of_drop hblank (by simp [isJsonBlank])
      (fun c hc => by rw [← hw]; cases w <;> simp_all [headChar])]
    rw [List.length_singleton]

theorem setMember_of_not_mem {acc : List (String × Json)} {key : String} (v : Json)
    (h : key ∉ acc.map Prod.fst) : setMember acc key v = acc ++ [(key, v)] := by
  have : acc.any (·.1 == key) = false := by
    rw [List.any_eq_false]
    intro m hm heq
    exact h (List.mem_map.mpr ⟨m, hm, (beq_iff_eq.mp heq)⟩)
  simp [setMember, this]

/-- After a member, blanks and a brace close the object. -/
theorem parseMembers_close {p F k : Nat} {acc : List (String × Json)} {first : Bool}
    {key : String} {v : Json} {w bs rest : List Char}
    (h : s.toList.drop p = (quote key).toList ++ ':' :: ' ' :: w)
    (hpairs : pairsStandIns key.toList = false) (hw : isJsonBlank (headChar w) = false)
    (hv : parseValue F s (p + (quote key).toList.length + 2) = .ok (v, k))
    (hk : s.toList.drop k = bs ++ '}' :: rest) (hbs : ∀ c ∈ bs, isJsonBlank c = true) :
    parseValue.parseMembers (F + 1) s p acc first =
      .ok (.obj (setMember acc key v), k + bs.length + 1) := by
  obtain ⟨hp, hq, hscan, hj, hjs, hcolon, hval⟩ := memberName_of_drop h hpairs hw
  have hskip := skipBlanks_of_drop hk hbs (fun c hc => by cases hc; rfl)
  have hk' := drop_add_of_drop hk
  rw [parseValue.parseMembers]
  simp [Nat.not_le.mpr hp, hq, hscan, hj, Nat.not_le.mpr hjs, hcolon, hval, hv, bind, Except.bind,
    hskip, at!_of_drop hk', lt_size_of_drop hk']

/-- After a member, a comma leads to the next one. -/
theorem parseMembers_comma {p F k : Nat} {acc : List (String × Json)} {first : Bool}
    {key : String} {v : Json} {w rest : List Char}
    (h : s.toList.drop p = (quote key).toList ++ ':' :: ' ' :: w)
    (hpairs : pairsStandIns key.toList = false) (hw : isJsonBlank (headChar w) = false)
    (hv : parseValue F s (p + (quote key).toList.length + 2) = .ok (v, k))
    (hk : s.toList.drop k = ',' :: rest) :
    parseValue.parseMembers (F + 1) s p acc first =
      parseValue.parseMembers F s (skipBlanks s (k + 1)) (setMember acc key v) false := by
  obtain ⟨hp, hq, hscan, hj, hjs, hcolon, hval⟩ := memberName_of_drop h hpairs hw
  have hskip := skipBlanks_of_nonblank hk rfl
  rw [parseValue.parseMembers]
  simp [Nat.not_le.mpr hp, hq, hscan, hj, Nat.not_le.mpr hjs, hcolon, hval, hv, bind, Except.bind,
    hskip, at!_of_drop hk, lt_size_of_drop hk]

/-! ## Values, items and members -/

theorem parseValue_renderLines_scalar {lvl i fuel : Nat} {j : Json} {rest : List Char}
    (hj : readsBack j = true) (harr : ∀ xs, j ≠ .arr xs) (hobj : ∀ ms, j ≠ .obj ms)
    (h : s.toList.drop i = (renderLines lvl j).toList ++ rest)
    (hend : isNumberChar (headChar rest) = false) :
    parseValue (fuel + 1) s i = .ok (j, i + (renderLines lvl j).toList.length) := by
  rw [renderLines_scalar lvl j harr hobj] at h ⊢
  exact parseValue_render hj harr hobj h hend

mutual

/-- A value's text, written at any nesting level, reads back as the value wherever it stands, as
long as what follows cannot continue a number; the fuel must exceed twice the characters left. -/
theorem parseValue_renderLines (lvl : Nat) (j : Json) (hj : readsBack j = true)
    {s : Array Char} {i fuel : Nat} {rest : List Char}
    (h : s.toList.drop i = (renderLines lvl j).toList ++ rest)
    (hend : isNumberChar (headChar rest) = false) (hfuel : 2 * (s.size - i) + 1 ≤ fuel) :
    parseValue fuel s i = .ok (j, i + (renderLines lvl j).toList.length) := by
  obtain ⟨F, rfl⟩ : ∃ F, fuel = F + 1 := ⟨fuel - 1, by omega⟩
  have hsize := congrArg List.length h
  simp only [List.length_drop, Array.length_toList, List.length_append] at hsize
  cases j with
  | arr items =>
    cases items with
    | nil =>
      have ht : (renderLines lvl (.arr [])).toList = ['[', ']'] := by simp [renderLines]
      rw [ht] at h hsize ⊢
      have h1 := drop_succ_of_drop h
      obtain ⟨G, rfl⟩ : ∃ G, F = G + 1 := ⟨F - 1, by simp at hsize; omega⟩
      rw [parseValue_bracket (lt_size_of_drop h) (at!_of_drop h), skipBlanks_of_nonblank h1 rfl,
        parseValue.parseItems]
      simp [at!_of_drop h1, lt_size_of_drop h1]
    | cons x xs =>
      rw [toList_renderLines_arr_cons] at h hsize ⊢
      simp only [List.length_cons, List.length_append, List.length_nil] at hsize
      have h1 := drop_succ_of_drop h
      -- the items follow the line feed, and the closing line follows them
      have hitems : s.toList.drop (i + 1 + 1) =
          (itemLines (lvl + 1) (x :: xs)).toList ++ ('\n' :: (pad lvl).toList) ++ ']' :: rest := by
        rw [drop_succ_of_drop h1]; simp
      have hF : 2 * (s.size - (i + 1 + 1)) + 2 ≤ F := by omega
      rw [parseValue_bracket (lt_size_of_drop h) (at!_of_drop h),
        skipBlanks_of_blank (lt_size_of_drop h1) (by rw [at!_of_drop h1]; rfl),
        parseItems_itemLines (lvl + 1) (x :: xs) (List.cons_ne_nil _ _)
          (by simpa [readsBack] using hj) hitems (by simp [isJsonBlank]) hF]
      simp only [List.reverse_nil, List.nil_append, List.length_cons, List.length_append,
        List.length_nil, Except.ok.injEq, Prod.mk.injEq, true_and]
      omega
  | obj ms =>
    cases ms with
    | nil =>
      have ht : (renderLines lvl (.obj [])).toList = ['{', '}'] := by simp [renderLines]
      rw [ht] at h hsize ⊢
      have h1 := drop_succ_of_drop h
      obtain ⟨G, rfl⟩ : ∃ G, F = G + 1 := ⟨F - 1, by simp at hsize; omega⟩
      rw [parseValue_brace (lt_size_of_drop h) (at!_of_drop h), skipBlanks_of_nonblank h1 rfl,
        parseValue.parseMembers]
      simp [at!_of_drop h1, lt_size_of_drop h1]
    | cons m ms =>
      rw [toList_renderLines_obj_cons] at h hsize ⊢
      simp only [List.length_cons, List.length_append, List.length_nil] at hsize
      simp only [readsBack, Bool.and_eq_true, decide_eq_true_eq] at hj
      have h1 := drop_succ_of_drop h
      have hmembers : s.toList.drop (i + 1 + 1) =
          (memberLines (lvl + 1) (m :: ms)).toList ++ ('\n' :: (pad lvl).toList) ++ '}' :: rest := by
        rw [drop_succ_of_drop h1]; simp
      have hF : 2 * (s.size - (i + 1 + 1)) + 2 ≤ F := by omega
      have hkeys : (([] : List (String × Json)).map Prod.fst ++ (m :: ms).map Prod.fst).Nodup := by
        simpa using hj.1
      rw [parseValue_brace (lt_size_of_drop h) (at!_of_drop h),
        skipBlanks_of_blank (lt_size_of_drop h1) (by rw [at!_of_drop h1]; rfl),
        parseMembers_memberLines (lvl + 1) (m :: ms) (List.cons_ne_nil _ _) hj.2 hkeys hmembers
          (by simp [isJsonBlank]) hF]
      simp only [List.nil_append, List.length_cons, List.length_append, List.length_nil,
        Except.ok.injEq, Prod.mk.injEq, true_and]
      omega
  | null | bool _ | int _ | float _ | str _ =>
    exact parseValue_renderLines_scalar hj (by simp) (by simp) h hend

/-- The items of an array, one a line, read back after their indentation. -/
theorem parseItems_itemLines (lvl : Nat) (items : List Json) (hne : items ≠ [])
    (hj : readsBackItems items = true)
    {s : Array Char} {i fuel : Nat} {acc : List Json} {first : Bool} {bs rest : List Char}
    (h : s.toList.drop i = (itemLines lvl items).toList ++ bs ++ ']' :: rest)
    (hbs : ∀ c ∈ bs, isJsonBlank c = true) (hfuel : 2 * (s.size - i) + 2 ≤ fuel) :
    parseValue.parseItems fuel s (skipBlanks s i) acc first =
      .ok (.arr (acc.reverse ++ items),
        i + (itemLines lvl items).toList.length + bs.length + 1) := by
  obtain ⟨F, rfl⟩ : ∃ F, fuel = F + 1 := ⟨fuel - 1, by omega⟩
  have hsize := congrArg List.length h
  simp only [List.length_drop, Array.length_toList, List.length_append] at hsize
  cases items with
  | nil => exact absurd rfl hne
  | cons x ys =>
    cases ys with
    | nil =>
      simp only [readsBackItems, Bool.and_true] at hj
      obtain ⟨c, cs, hxc, hc⟩ := head_renderLines lvl x hj
      rw [toList_itemLines_single] at h hsize ⊢
      have hpad : s.toList.drop i = (pad lvl).toList ++ c :: (cs ++ (bs ++ ']' :: rest)) := by
        rw [h, hxc]; simp
      have hx : s.toList.drop (i + lvl) = (renderLines lvl x).toList ++ (bs ++ ']' :: rest) := by
        simpa [hxc] using drop_add_of_drop hpad
      have hv : parseValue F s (i + lvl) = .ok (x, i + lvl + (renderLines lvl x).toList.length) :=
        parseValue_renderLines lvl x hj hx (isNumberChar_headChar_blanks hbs rfl) (by omega)
      have hstart : at! s (i + lvl) ≠ ']' := by
        rw [at!_of_drop_eq hx, hxc]
        exact (ne_of_startsValue hc).1
      rw [skipBlanks_pad hpad hc, parseItems_close hstart hv (drop_add_of_drop hx) hbs]
      simp only [List.reverse_cons, List.length_append, toList_pad, List.length_replicate,
        Except.ok.injEq, Prod.mk.injEq, true_and]
      omega
    | cons y ys =>
      rw [readsBackItems, Bool.and_eq_true] at hj
      obtain ⟨c, cs, hxc, hc⟩ := head_renderLines lvl x hj.1
      rw [toList_itemLines_cons_cons] at h hsize ⊢
      simp only [List.length_append, List.length_cons, toList_pad, List.length_replicate] at hsize
      have hpad : s.toList.drop i = (pad lvl).toList ++ c :: (cs ++ ',' :: '\n' ::
          ((itemLines lvl (y :: ys)).toList ++ (bs ++ ']' :: rest))) := by
        rw [h, hxc]; simp
      have hx : s.toList.drop (i + lvl) = (renderLines lvl x).toList ++
          ',' :: '\n' :: ((itemLines lvl (y :: ys)).toList ++ (bs ++ ']' :: rest)) := by
        simpa [hxc] using drop_add_of_drop hpad
      have hv : parseValue F s (i + lvl) = .ok (x, i + lvl + (renderLines lvl x).toList.length) :=
        parseValue_renderLines lvl x hj.1 hx rfl (by omega)
      have hstart : at! s (i + lvl) ≠ ']' := by
        rw [at!_of_drop_eq hx, hxc]
        exact (ne_of_startsValue hc).1
      -- the comma, then the line feed before the next item
      have hcomma := drop_add_of_drop hx
      have hline := drop_succ_of_drop hcomma
      have hnext : s.toList.drop (i + lvl + (renderLines lvl x).toList.length + 1 + 1) =
          (itemLines lvl (y :: ys)).toList ++ bs ++ ']' :: rest := by
        rw [drop_succ_of_drop hline]; simp
      have hF : 2 * (s.size - (i + lvl + (renderLines lvl x).toList.length + 1 + 1)) + 2 ≤ F := by
        omega
      rw [skipBlanks_pad hpad hc, parseItems_comma hstart hv hcomma,
        skipBlanks_of_blank (lt_size_of_drop hline) (by rw [at!_of_drop hline]; rfl),
        parseItems_itemLines lvl (y :: ys) (List.cons_ne_nil _ _) hj.2 hnext hbs hF]
      simp only [List.reverse_cons, List.append_assoc, List.singleton_append, List.length_append,
        List.length_cons, toList_pad, List.length_replicate, Except.ok.injEq, Prod.mk.injEq, true_and]
      omega

/-- The members of an object, one a line, read back after their indentation, each appended to
those read before it. -/
theorem parseMembers_memberLines (lvl : Nat) (ms : List (String × Json)) (hne : ms ≠ [])
    (hj : readsBackMembers ms = true)
    {s : Array Char} {i fuel : Nat} {acc : List (String × Json)} {first : Bool}
    {bs rest : List Char}
    (hkeys : (acc.map Prod.fst ++ ms.map Prod.fst).Nodup)
    (h : s.toList.drop i = (memberLines lvl ms).toList ++ bs ++ '}' :: rest)
    (hbs : ∀ c ∈ bs, isJsonBlank c = true) (hfuel : 2 * (s.size - i) + 2 ≤ fuel) :
    parseValue.parseMembers fuel s (skipBlanks s i) acc first =
      .ok (.obj (acc ++ ms), i + (memberLines lvl ms).toList.length + bs.length + 1) := by
  obtain ⟨F, rfl⟩ : ∃ F, fuel = F + 1 := ⟨fuel - 1, by omega⟩
  have hsize := congrArg List.length h
  simp only [List.length_drop, Array.length_toList, List.length_append] at hsize
  cases ms with
  | nil => exact absurd rfl hne
  | cons kv ms =>
    obtain ⟨k, v⟩ := kv
    cases ms with
    | nil =>
      simp only [readsBackMembers, Bool.and_true, Bool.and_eq_true, Bool.not_eq_true'] at hj
      obtain ⟨c, cs, hvc, hc⟩ := head_renderLines lvl v hj.2
      rw [toList_memberLines_single] at h hsize ⊢
      simp only [List.length_append, List.length_cons, toList_pad, List.length_replicate] at hsize
      have hpad : s.toList.drop i = (pad lvl).toList ++ '"' :: (escaped k.toList ++ '"' :: ':' ::
          ' ' :: ((renderLines lvl v).toList ++ (bs ++ '}' :: rest))) := by
        rw [h, toList_quote]; simp
      have hkey : s.toList.drop (i + lvl) = (quote k).toList ++ ':' :: ' ' ::
          ((renderLines lvl v).toList ++ (bs ++ '}' :: rest)) := by
        simpa [toList_quote] using drop_add_of_drop hpad
      have hvpos := drop_value_of_memberName hkey
      have hw :
          isJsonBlank (headChar ((renderLines lvl v).toList ++ (bs ++ '}' :: rest))) = false := by
        rw [hvc]
        exact (ne_of_startsValue hc).2.2.1
      have hv : parseValue F s (i + lvl + (quote k).toList.length + 2) =
          .ok (v, i + lvl + (quote k).toList.length + 2 + (renderLines lvl v).toList.length) :=
        parseValue_renderLines lvl v hj.2 hvpos (isNumberChar_headChar_blanks hbs rfl) (by omega)
      have hfresh : k ∉ acc.map Prod.fst := by
        simp only [List.map_cons, List.map_nil, List.nodup_append] at hkeys
        exact fun hk => hkeys.2.2 k hk k (List.mem_singleton_self k) rfl
      rw [skipBlanks_pad hpad (by decide),
        parseMembers_close hkey hj.1 hw hv (drop_add_of_drop hvpos) hbs,
        setMember_of_not_mem v hfresh]
      simp only [List.length_append, toList_pad, List.length_replicate, List.length_cons,
        Except.ok.injEq, Prod.mk.injEq, true_and]
      omega
    | cons m ms =>
      rw [readsBackMembers, Bool.and_eq_true, Bool.and_eq_true, Bool.not_eq_true'] at hj
      obtain ⟨c, cs, hvc, hc⟩ := head_renderLines lvl v hj.1.2
      rw [toList_memberLines_cons_cons] at h hsize ⊢
      simp only [List.length_append, List.length_cons, toList_pad, List.length_replicate] at hsize
      have hpad : s.toList.drop i = (pad lvl).toList ++ '"' :: (escaped k.toList ++ '"' :: ':' ::
          ' ' :: ((renderLines lvl v).toList ++ ',' :: '\n' ::
            ((memberLines lvl (m :: ms)).toList ++ (bs ++ '}' :: rest)))) := by
        rw [h, toList_quote]; simp
      have hkey : s.toList.drop (i + lvl) = (quote k).toList ++ ':' :: ' ' ::
          ((renderLines lvl v).toList ++ ',' :: '\n' ::
            ((memberLines lvl (m :: ms)).toList ++ (bs ++ '}' :: rest))) := by
        simpa [toList_quote] using drop_add_of_drop hpad
      have hvpos := drop_value_of_memberName hkey
      have hw : isJsonBlank (headChar ((renderLines lvl v).toList ++ ',' :: '\n' ::
          ((memberLines lvl (m :: ms)).toList ++ (bs ++ '}' :: rest)))) = false := by
        rw [hvc]
        exact (ne_of_startsValue hc).2.2.1
      have hv : parseValue F s (i + lvl + (quote k).toList.length + 2) =
          .ok (v, i + lvl + (quote k).toList.length + 2 + (renderLines lvl v).toList.length) :=
        parseValue_renderLines lvl v hj.1.2 hvpos rfl (by omega)
      have hfresh : k ∉ acc.map Prod.fst := by
        simp only [List.map_cons, List.nodup_append] at hkeys
        exact fun hk => hkeys.2.2 k hk k List.mem_cons_self rfl
      -- the comma, then the line feed before the next member
      have hcomma := drop_add_of_drop hvpos
      have hline := drop_succ_of_drop hcomma
      have hnext : s.toList.drop (i + lvl + (quote k).toList.length + 2 +
          (renderLines lvl v).toList.length + 1 + 1) =
          (memberLines lvl (m :: ms)).toList ++ bs ++ '}' :: rest := by
        rw [drop_succ_of_drop hline]; simp
      have hF : 2 * (s.size - (i + lvl + (quote k).toList.length + 2 +
          (renderLines lvl v).toList.length + 1 + 1)) + 2 ≤ F := by
        omega
      have hkeys' : ((acc ++ [(k, v)]).map Prod.fst ++ (m :: ms).map Prod.fst).Nodup := by
        simpa using hkeys
      rw [skipBlanks_pad hpad (by decide), parseMembers_comma hkey hj.1.1 hw hv hcomma,
        skipBlanks_of_blank (lt_size_of_drop hline) (by rw [at!_of_drop hline]; rfl),
        setMember_of_not_mem v hfresh,
        parseMembers_memberLines lvl (m :: ms) (List.cons_ne_nil _ _) hj.2 hkeys' hnext hbs hF]
      simp only [List.append_assoc, List.singleton_append, List.length_append, List.length_cons,
        toList_pad, List.length_replicate, Except.ok.injEq, Prod.mk.injEq, true_and]
      omega

end

/-! ## Sorting the members -/

theorem map_fst_sortKeysMembers (ms : List (String × Json)) :
    (sortKeysMembers ms).map Prod.fst = ms.map Prod.fst := by
  induction ms with
  | nil => rfl
  | cons m ms ih => simp [sortKeysMembers, ih]

mutual

theorem readsBack_sortKeys (j : Json) (hj : readsBack j = true) :
    readsBack (sortKeys j) = true := by
  match j, hj with
  | .arr xs, hj => exact readsBackItems_sortKeysItems xs (by simpa [readsBack] using hj)
  | .obj ms, hj =>
    simp only [readsBack, Bool.and_eq_true, decide_eq_true_eq] at hj
    have hperm : (sortMembers (sortKeysMembers ms)).Perm (sortKeysMembers ms) :=
      List.mergeSort_perm _ _
    simp only [sortKeys, readsBack, Bool.and_eq_true, decide_eq_true_eq]
    refine ⟨?_, ?_⟩
    · rw [(hperm.map Prod.fst).nodup_iff, map_fst_sortKeysMembers]
      exact hj.1
    · rw [readsBackMembers_iff] at hj ⊢
      intro m hm
      exact (readsBackMembers_iff _).mp (readsBackMembers_sortKeysMembers ms
        ((readsBackMembers_iff _).mpr hj.2)) m (hperm.mem_iff.mp hm)
  | .null, hj | .bool _, hj | .int _, hj | .float _, hj | .str _, hj => simpa [sortKeys] using hj

theorem readsBackItems_sortKeysItems (xs : List Json) (hxs : readsBackItems xs = true) :
    readsBackItems (sortKeysItems xs) = true := by
  match xs, hxs with
  | [], _ => rfl
  | x :: xs, hxs =>
    simp only [readsBackItems, Bool.and_eq_true] at hxs
    simp only [sortKeysItems, readsBackItems, Bool.and_eq_true]
    exact ⟨readsBack_sortKeys x hxs.1, readsBackItems_sortKeysItems xs hxs.2⟩

theorem readsBackMembers_sortKeysMembers (ms : List (String × Json))
    (hms : readsBackMembers ms = true) : readsBackMembers (sortKeysMembers ms) = true := by
  match ms, hms with
  | [], _ => rfl
  | (k, v) :: ms, hms =>
    simp only [readsBackMembers, Bool.and_eq_true] at hms
    simp only [sortKeysMembers, readsBackMembers, Bool.and_eq_true]
    exact ⟨⟨hms.1.1, readsBack_sortKeys v hms.1.2⟩,
      readsBackMembers_sortKeysMembers ms hms.2⟩

end

/-- The indented text of a value reads back as the value with the members of every object sorted
by name, provided every number and text of it reads back and no object names a member twice. -/
theorem parse_renderIndented (j : Json) (hj : readsBack j = true) :
    parse (renderIndented j) = .ok (sortKeys j) := by
  have hk := readsBack_sortKeys j hj
  obtain ⟨c, cs, hc, hstart⟩ := head_renderLines 0 (sortKeys j) hk
  obtain ⟨-, -, hblank, hbom⟩ := ne_of_startsValue hstart
  generalize ht : (renderLines 0 (sortKeys j)).toList = text at hc
  have hdrop : text.toArray.toList.drop 0 = (renderLines 0 (sortKeys j)).toList ++ [] := by
    simp [ht]
  -- the whole text is the value's, and the reader is given twice its length and two of fuel
  have hv : parseValue (2 * text.toArray.size + 2) text.toArray 0 =
      .ok (sortKeys j, 0 + (renderLines 0 (sortKeys j)).toList.length) :=
    parseValue_renderLines 0 (sortKeys j) hk hdrop (by decide) (by omega)
  have hfrom : text.toArray.toList.drop 0 = c :: cs := by simp [hc]
  have h0 : at! text.toArray 0 = c := at!_of_drop hfrom
  have hskip0 : skipBlanks text.toArray 0 = 0 := skipBlanks_of_nonblank hfrom hblank
  have hend : skipBlanks text.toArray text.length = text.length := by
    rw [skipBlanks, dif_neg (by simp)]
  rw [ht] at hv
  simp only [renderIndented, parse, ht, h0, hskip0, hv]
  simp [hend, hbom, bind, Except.bind]
  rfl

end JavaBuild.Json
