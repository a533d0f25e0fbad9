import JavaBuild.Data.Json.Reader
import JavaBuild.Proofs.Text.Order

/-!
# Reading the characters of a JSON text

The reader works on an array of characters and an offset. Its lemmas here are stated for a text
whose characters from the offset on are known, `s.toList.drop i = w ++ rest`: the characters of
`w` are then read one after the other, and where reading stops depends on `rest` only through
its first character.

* Blanks are skipped up to the first character that is none (`skipBlanks_of_drop`).
* A string reads back as the text that `quote` escaped (`scanString_escaped`), character by
  character (`scanString_escapeChar`), except where the stand-in of a high surrogate comes right
  before that of a low one: the escapes of the two lone surrogates are then read as one
  character beyond the basic plane. `pairsStandIns` tells such texts apart.
* A number reads the same wherever it stands, as long as what follows it cannot continue it
  (`NumberAgree.scanNumber`); an integer's text reads back as the integer (`scanNumber_intText`).
-/

namespace JavaBuild.Json

theorem getElem?_of_drop {s : Array Char} {i : Nat} {c : Char} {rest : List Char}
    (h : s.toList.drop i = c :: rest) : s[i]? = some c := by
  have : s.toList[i]? = some c := by rw [← List.head?_drop, h]; rfl
  simpa using this

theorem at!_of_drop {s : Array Char} {i : Nat} {c : Char} {rest : List Char}
    (h : s.toList.drop i = c :: rest) : at! s i = c := by
  simp [at!, Array.getD_eq_getD_getElem?, getElem?_of_drop h]

theorem lt_size_of_drop {s : Array Char} {i : Nat} {c : Char} {rest : List Char}
    (h : s.toList.drop i = c :: rest) : i < s.size := by
  obtain ⟨hi, -⟩ := Array.getElem?_eq_some_iff.mp (getElem?_of_drop h)
  exact hi

theorem drop_succ_of_drop {s : Array Char} {i : Nat} {c : Char} {rest : List Char}
    (h : s.toList.drop i = c :: rest) : s.toList.drop (i + 1) = rest := by
  rw [← List.drop_drop, h, List.drop_one, List.tail_cons]

theorem drop_add_of_drop {s : Array Char} {i : Nat} {w rest : List Char}
    (h : s.toList.drop i = w ++ rest) : s.toList.drop (i + w.length) = rest := by
  rw [← List.drop_drop, h, List.drop_left]

theorem getElem_of_drop {s : Array Char} {i : Nat} {c : Char} {rest : List Char}
    (h : s.toList.drop i = c :: rest) (hi : i < s.size) : s[i] = c := by
  obtain ⟨_, he⟩ := Array.getElem?_eq_some_iff.mp (getElem?_of_drop h)
  exact he

theorem lt_size_of_drop_append {s : Array Char} {i : Nat} {w rest : List Char} {c : Char}
    (h : s.toList.drop i = w ++ c :: rest) : i + w.length < s.size :=
  lt_size_of_drop (drop_add_of_drop h)

theorem drop_two_of_drop {s : Array Char} {i : Nat} {a b : Char} {rest : List Char}
    (h : s.toList.drop i = a :: b :: rest) : s.toList.drop (i + 2) = rest :=
  drop_succ_of_drop (drop_succ_of_drop h)

theorem at!_of_size_le {s : Array Char} {i : Nat} (h : s.size ≤ i) : at! s i = '\x00' := by
  simp [at!, Array.getD_eq_getD_getElem?, Array.getElem?_eq_none h]

/-- Blanks are skipped up to the first character that is none. -/
theorem skipBlanks_of_drop {s : Array Char} {i : Nat} {bs rest : List Char}
    (h : s.toList.drop i = bs ++ rest) (hbs : ∀ c ∈ bs, isJsonBlank c = true)
    (hrest : ∀ c, rest.head? = some c → isJsonBlank c = false) :
    skipBlanks s i = i + bs.length := by
  induction bs generalizing i with
  | nil =>
    rw [skipBlanks]
    cases rest with
    | nil =>
      have : ¬ i < s.size := by
        have := congrArg List.length h
        simp at this; omega
      simp [this]
    | cons c rest =>
      have hc := hrest c rfl
      have hi := lt_size_of_drop h
      have hs := getElem?_of_drop h
      rw [dif_pos hi]
      have : s[i] = c := by simpa [hi] using hs
      simp [this, hc]
  | cons b bs ih =>
    rw [skipBlanks]
    have hi := lt_size_of_drop h
    have hs := getElem?_of_drop h
    have : s[i] = b := by simpa [hi] using hs
    rw [dif_pos hi, this, if_pos (hbs b (by simp)),
      ih (drop_succ_of_drop h) (fun c hc => hbs c (by simp [hc]))]
    simp only [List.length_cons]; omega


theorem hexValue?_hexDigit : ∀ k, k < 16 →
    hexValue? (if k < 10 then Char.ofNat (48 + k) else Char.ofNat (87 + k)) = some k := by
  decide

theorem at!_add_of_drop {s : Array Char} {i k : Nat} {w rest : List Char}
    (h : s.toList.drop i = w ++ rest) (hk : k < w.length) : at! s (i + k) = w[k] := by
  have hd : s.toList.drop (i + k) = w[k] :: (w.drop (k + 1) ++ rest) := by
    rw [← List.drop_drop, h, List.drop_append_of_le_length (by omega),
      List.drop_eq_getElem_cons hk, List.cons_append]
  exact at!_of_drop hd

@[simp] theorem length_hex4 (n : Nat) : (hex4 n).toList.length = 4 := by simp [hex4]

theorem length_unitEscape (n : Nat) : ('\\' :: 'u' :: (hex4 n).toList).length = 6 := by
  simp

theorem length_pairEscape (a b : Nat) :
    ('\\' :: 'u' :: ((hex4 a).toList ++ '\\' :: 'u' :: (hex4 b).toList)).length = 12 := by
  simp

/-- The text after the escape of one code unit. -/
theorem drop_six_of_drop {s : Array Char} {i n : Nat} {a b : Char} {rest : List Char}
    (h : s.toList.drop i = a :: b :: ((hex4 n).toList ++ rest)) :
    s.toList.drop (i + 6) = rest := by
  have := drop_add_of_drop (w := (hex4 n).toList) (drop_two_of_drop h)
  rwa [length_hex4] at this

/-- Four hexadecimal digits read back as the code unit they spell. -/
theorem hex4At?_of_drop {s : Array Char} {i n : Nat} {rest : List Char}
    (h : s.toList.drop i = (hex4 n).toList ++ rest) (hn : n < 0x10000) :
    hex4At? s i = some n := by
  have hlen := length_hex4 n
  have h0 := at!_add_of_drop h (k := 0) (by omega)
  have h1 := at!_add_of_drop h (k := 1) (by omega)
  have h2 := at!_add_of_drop h (k := 2) (by omega)
  have h3 := at!_add_of_drop h (k := 3) (by omega)
  simp only [hex4, String.toList_ofList, List.getElem_cons_zero, List.getElem_cons_succ,
    Nat.add_zero] at h0 h1 h2 h3
  rw [hex4At?, show List.range 4 = [0, 1, 2, 3] from rfl]
  simp only [List.foldl_cons, List.foldl_nil, Nat.add_zero, h0, h1, h2, h3,
    hexValue?_hexDigit _ (Nat.mod_lt _ (by decide : 16 > 0))]
  simp only [Option.pure_def, Option.bind_eq_bind, Option.bind_some, Option.some.injEq]
  omega


/-- Whether a code unit is a high surrogate, the first unit of a pair. -/
def isHighUnit (u : Nat) : Bool := 0xD800 ≤ u && u < 0xDC00

/-- Whether a code unit is a low surrogate, the second unit of a pair. -/
def isLowUnit (u : Nat) : Bool := 0xDC00 ≤ u && u < 0xE000

open Text in
theorem charOfCode_codePoint_of_lt {c : Char} (h : c.toNat < 0x10000) :
    codePoint c = c.toNat ∧ charOfCode (codePoint c) = c := by
  have hv := toNat_valid c
  have hcp : codePoint c = c.toNat := by
    rw [codePoint_eq, if_neg (by unfold standInFirst; omega)]
  refine ⟨hcp, ?_⟩
  rw [hcp, charOfCode, if_neg (by unfold isSurrogate surrogateFirst; simp; omega)]
  exact Char.ofNat_toNat c


open Text in
theorem charOfCode_codePoint_of_standIn {c : Char} {u : Nat} (h : standInSurrogate? c = some u) :
    codePoint c = u ∧ 0xD800 ≤ u ∧ u < 0xE000 ∧ charOfCode u = c := by
  have hv := toNat_valid c
  unfold standInSurrogate? at h
  split at h
  · rename_i hc
    obtain rfl := Option.some.inj h
    simp only [standInFirst, surrogateFirst] at hc ⊢
    refine ⟨by simp [codePoint, standInSurrogate?, standInFirst, surrogateFirst, hc], by omega,
      by omega, ?_⟩
    rw [charOfCode, if_pos (by unfold isSurrogate surrogateFirst; simp; omega), surrogateStandIn]
    unfold standInFirst surrogateFirst
    rw [show 1112064 + (c.toNat - 1112064 + 55296 - 55296) = c.toNat by omega]
    exact Char.ofNat_toNat c
  · cases h

theorem toList_unitEscape (n : Nat) :
    ("\\u" ++ hex4 n).toList = '\\' :: 'u' :: (hex4 n).toList := by
  rw [String.toList_append, show "\\u".toList = ['\\', 'u'] by simp]
  rfl

theorem toList_pairEscape (a b : Nat) :
    ("\\u" ++ hex4 a ++ "\\u" ++ hex4 b).toList =
      '\\' :: 'u' :: ((hex4 a).toList ++ '\\' :: 'u' :: (hex4 b).toList) := by
  rw [String.toList_append, String.toList_append, toList_unitEscape,
    show "\\u".toList = ['\\', 'u'] by simp]
  simp only [List.cons_append, List.nil_append, List.append_assoc]

/-- How a character is written inside a JSON string: a one-letter escape, itself, the escape of
its code unit (a stand-in's being its surrogate's), or the escapes of the two units of its
surrogate pair. -/
theorem escapeChar_cases (c : Char) :
    (∃ e, (escapeChar c).toList = ['\\', e] ∧ e ≠ 'u' ∧ simpleEscape? e = some c) ∨
    ((escapeChar c).toList = [c] ∧ c ≠ '"' ∧ c ≠ '\\' ∧ 0x1F < c.toNat) ∨
    ((escapeChar c).toList = '\\' :: 'u' :: (hex4 (Text.codePoint c)).toList ∧
      Text.codePoint c < 0x10000 ∧ charOfCode (Text.codePoint c) = c) ∨
    (0x10000 ≤ c.toNat ∧ c.toNat < Text.standInFirst ∧
      (escapeChar c).toList = '\\' :: 'u' ::
        ((hex4 (0xD800 + (c.toNat - 0x10000) / 1024)).toList ++ '\\' :: 'u' ::
          (hex4 (0xDC00 + (c.toNat - 0x10000) % 1024)).toList) ∧
      Char.ofNat (0x10000 + (c.toNat - 0x10000) / 1024 * 1024 + (c.toNat - 0x10000) % 1024) = c) := by
  unfold escapeChar
  split
  case h_8 h1 h2 _ _ _ _ _ =>
    split_ifs with hctl hascii hbasic
    · obtain ⟨hcp, hcc⟩ := charOfCode_codePoint_of_lt (c := c) (by omega)
      exact Or.inr (Or.inr (Or.inl ⟨by rw [hcp, toList_unitEscape], by omega, hcc⟩))
    · exact Or.inr (Or.inl ⟨by simp, h1, h2, by omega⟩)
    · obtain ⟨hcp, hcc⟩ := charOfCode_codePoint_of_lt hbasic
      exact Or.inr (Or.inr (Or.inl ⟨by rw [hcp, toList_unitEscape], by omega, hcc⟩))
    · split
      · rename_i u hs
        obtain ⟨hcp, -, hlt, hcc⟩ := charOfCode_codePoint_of_standIn hs
        exact Or.inr (Or.inr (Or.inl ⟨by rw [hcp, toList_unitEscape], by omega, hcp ▸ hcc⟩))
      · rename_i hs
        have hv : c.toNat < Text.standInFirst := by
          rcases Nat.lt_or_ge c.toNat Text.standInFirst with hlt | hge
          · exact hlt
          · exact (hs (c.toNat - Text.standInFirst + Text.surrogateFirst)
              (by simp [Text.standInSurrogate?, hge])).elim
        refine Or.inr (Or.inr (Or.inr ⟨by omega, hv, ?_, ?_⟩))
        · exact toList_pairEscape _ _
        rw [show 65536 + (c.toNat - 65536) / 1024 * 1024 + (c.toNat - 65536) % 1024 = c.toNat by omega]
        exact Char.ofNat_toNat c
  all_goals exact Or.inl ⟨_, rfl, by decide, rfl⟩


/-- The characters of a text as a JSON string writes them, without the quotes. -/
def escaped (cs : List Char) : List Char := cs.flatMap fun c => (escapeChar c).toList

@[simp] theorem escaped_nil : escaped [] = [] := rfl

@[simp] theorem escaped_cons (c : Char) (cs : List Char) :
    escaped (c :: cs) = (escapeChar c).toList ++ escaped cs := rfl

theorem toList_quote (t : String) : (quote t).toList = '"' :: (escaped t.toList ++ ['"']) := by
  simp [quote, escaped, String.toList_append, String.toList_join, List.flatMap]
  rfl

/-- Where the escapes of a text end without the character that follows being written as the
escape of a low surrogate, an escape that follows reads as a code unit that is no low surrogate:
the escape of a high surrogate before it stays a lone surrogate. -/
theorem hex4At?_next {s : Array Char} {k : Nat} {cs rest : List Char}
    (h : s.toList.drop k = escaped cs ++ '"' :: rest)
    (hlow : ∀ d, cs.head? = some d → isLowUnit (Text.codePoint d) = false)
    (hb : at! s k = '\\') (hu : at! s (k + 1) = 'u') :
    ∃ u, hex4At? s (k + 2) = some u ∧ isLowUnit u = false := by
  cases cs with
  | nil =>
    rw [at!_of_drop (by simpa using h)] at hb
    exact absurd hb (by decide)
  | cons d cs =>
    rw [escaped_cons, List.append_assoc] at h
    rcases escapeChar_cases d with ⟨e, he, hne, -⟩ | ⟨he, -, hnb, -⟩ | ⟨he, hlt, -⟩ |
        ⟨hge, hlt, he, -⟩
    · rw [he] at h
      rw [at!_of_drop (drop_succ_of_drop (by simpa using h))] at hu
      exact absurd hu hne
    · rw [he] at h
      rw [at!_of_drop (by simpa using h)] at hb
      exact absurd hb hnb
    · rw [he, List.cons_append, List.cons_append] at h
      exact ⟨_, hex4At?_of_drop (drop_two_of_drop h) hlt, hlow d rfl⟩
    · rw [he, List.cons_append, List.cons_append, List.append_assoc] at h
      have hv := Text.toNat_valid d
      refine ⟨_, hex4At?_of_drop (drop_two_of_drop h) (by omega), ?_⟩
      simp only [isLowUnit, Bool.and_eq_false_imp, decide_eq_true_eq, decide_eq_false_iff_not]
      omega


/-- A one-letter escape reads as its character. -/
theorem scanString_simpleEscape {s : Array Char} {begin j : Nat} {acc : List Char} {c e : Char}
    {rest : List Char} (h : s.toList.drop j = '\\' :: e :: rest) (hne : e ≠ 'u')
    (hse : simpleEscape? e = some c) :
    scanString s begin j acc = scanString s begin (j + 2) (c :: acc) := by
  have hj := lt_size_of_drop h
  rw [scanString, dif_pos hj]
  simp [getElem_of_drop h hj, lt_size_of_drop (drop_succ_of_drop h),
    at!_of_drop (drop_succ_of_drop h), hne, hse]

/-- A printable character other than a quote or a backslash stands for itself. -/
theorem scanString_plain {s : Array Char} {begin j : Nat} {acc : List Char} {c : Char}
    {rest : List Char} (h : s.toList.drop j = c :: rest) (hq : c ≠ '"') (hb : c ≠ '\\')
    (hctl : 0x1F < c.toNat) :
    scanString s begin j acc = scanString s begin (j + 1) (c :: acc) := by
  have hj := lt_size_of_drop h
  rw [scanString, dif_pos hj]
  simp [getElem_of_drop h hj, hq, hb, hctl]

/-- The escape of a code unit reads as the character of that unit, unless it is a high surrogate
followed by the escape of a low one. -/
theorem scanString_unitEscape {s : Array Char} {begin j u : Nat} {acc : List Char}
    {rest : List Char} (h : s.toList.drop j = '\\' :: 'u' :: ((hex4 u).toList ++ rest))
    (hsize : j + 6 < s.size) (hu : u < 0x10000)
    (hnext : isHighUnit u = true → at! s (j + 6) = '\\' → at! s (j + 7) = 'u' →
      ∃ u2, hex4At? s (j + 8) = some u2 ∧ isLowUnit u2 = false) :
    scanString s begin j acc = scanString s begin (j + 6) (charOfCode u :: acc) := by
  have hj := lt_size_of_drop h
  rw [scanString, dif_pos hj]
  simp only [getElem_of_drop h hj, lt_size_of_drop (drop_succ_of_drop h),
    at!_of_drop (drop_succ_of_drop h), show ¬ s.size ≤ j + 6 by omega,
    hex4At?_of_drop (drop_two_of_drop h) hu, show ('\\' == '"') = false from rfl,
    Bool.false_eq_true, beq_self_eq_true, ↓reduceIte]
  split
  · rename_i hcond
    obtain ⟨hlo, hhi, -, hb6, hu7⟩ := hcond
    obtain ⟨u2, hu2, hlow⟩ := hnext (by simp [isHighUnit]; omega) (by simpa using hb6)
      (by simpa using hu7)
    simp only [isLowUnit, Bool.and_eq_false_imp, decide_eq_true_eq, decide_eq_false_iff_not] at hlow
    rw [hu2]
    exact if_neg (by omega)
  · rfl

/-- The escapes of a surrogate pair read as the character beyond the basic plane. -/
theorem scanString_pairEscape {s : Array Char} {begin j hi lo : Nat} {acc : List Char} {c : Char}
    {rest : List Char}
    (h : s.toList.drop j = '\\' :: 'u' :: ((hex4 hi).toList ++ '\\' :: 'u' :: ((hex4 lo).toList ++ rest)))
    (hsize : j + 12 < s.size) (hhi : 0xD800 ≤ hi ∧ hi < 0xDC00) (hlo : 0xDC00 ≤ lo ∧ lo < 0xE000)
    (hc : Char.ofNat (0x10000 + (hi - 0xD800) * 1024 + (lo - 0xDC00)) = c) :
    scanString s begin j acc = scanString s begin (j + 12) (c :: acc) := by
  have hj := lt_size_of_drop h
  have h6 := drop_six_of_drop h
  rw [scanString, dif_pos hj]
  simp only [getElem_of_drop h hj, lt_size_of_drop (drop_succ_of_drop h),
    at!_of_drop (drop_succ_of_drop h), show ¬ s.size ≤ j + 6 by omega,
    hex4At?_of_drop (drop_two_of_drop h) (by omega), at!_of_drop h6,
    at!_of_drop (drop_succ_of_drop h6), hex4At?_of_drop (drop_two_of_drop h6) (by omega),
    show ('\\' == '"') = false from rfl, Bool.false_eq_true, beq_self_eq_true, ↓reduceIte,
    hsize, hhi, hlo, and_self, hc]

/-- One character of a string: its escape reads back as the character. The escape of a high
surrogate reads alone as long as the character after it is not written as a low one. -/
theorem scanString_escapeChar {s : Array Char} {begin j : Nat} {acc : List Char} {c : Char}
    {cs rest : List Char}
    (h : s.toList.drop j = (escapeChar c).toList ++ (escaped cs ++ '"' :: rest))
    (hpair : isHighUnit (Text.codePoint c) = true →
      ∀ d, cs.head? = some d → isLowUnit (Text.codePoint d) = false) :
    scanString s begin j acc = scanString s begin (j + (escapeChar c).toList.length) (c :: acc) := by
  have hsize := lt_size_of_drop_append (w := (escapeChar c).toList ++ escaped cs)
    (by simpa using h)
  rw [List.length_append] at hsize
  rcases escapeChar_cases c with ⟨e, he, hne, hse⟩ | ⟨he, hq, hb, hctl⟩ | ⟨he, hlt, hcc⟩ |
      ⟨hge, hlt, he, hcc⟩ <;> rw [he] at h hsize ⊢
  · exact scanString_simpleEscape h hne hse
  · exact scanString_plain h hq hb hctl
  · rw [List.cons_append, List.cons_append] at h
    rw [length_unitEscape] at hsize ⊢
    have hnext := fun hhigh hb6 hu7 => hex4At?_next (drop_six_of_drop h) (hpair hhigh) hb6 hu7
    rw [scanString_unitEscape h (by omega) hlt hnext, hcc]
  · simp only [Text.standInFirst] at hlt
    rw [List.cons_append, List.cons_append, List.append_assoc, List.cons_append,
      List.cons_append] at h
    rw [length_pairEscape] at hsize ⊢
    -- the character from its two units, with the literal parts of the units kept apart
    have hc : Char.ofNat (0x10000 + ((0xD800 + (c.toNat - 0x10000) / 1024) - 0xD800) * 1024 +
        ((0xDC00 + (c.toNat - 0x10000) % 1024) - 0xDC00)) = c := by
      have hsum : 0x10000 + ((0xD800 + (c.toNat - 0x10000) / 1024) - 0xD800) * 1024 +
          ((0xDC00 + (c.toNat - 0x10000) % 1024) - 0xDC00) =
          0x10000 + (c.toNat - 0x10000) / 1024 * 1024 + (c.toNat - 0x10000) % 1024 := by omega
      rw [hsum]
      exact hcc
    exact scanString_pairEscape h (by omega) (by omega) (by omega) hc

/-- Whether a text holds the stand-in of a high surrogate right before that of a low one: their
escapes read back as one character beyond the basic plane. -/
def pairsStandIns : List Char → Bool
  | a :: b :: rest =>
    (isHighUnit (Text.codePoint a) && isLowUnit (Text.codePoint b)) || pairsStandIns (b :: rest)
  | _ => false

theorem pairsStandIns_cons {c : Char} {cs : List Char} (h : pairsStandIns (c :: cs) = false) :
    pairsStandIns cs = false ∧ (isHighUnit (Text.codePoint c) = true →
      ∀ d, cs.head? = some d → isLowUnit (Text.codePoint d) = false) := by
  cases cs with
  | nil => exact ⟨rfl, fun _ _ hd => by cases hd⟩
  | cons d cs =>
    simp only [pairsStandIns, Bool.or_eq_false_iff, Bool.and_eq_false_iff] at h
    refine ⟨h.2, fun hhigh d' hd => ?_⟩
    obtain rfl : d = d' := Option.some.inj hd
    simpa [hhigh] using h.1

/-- The escapes of a text read back as the text, up to the closing quote. -/
theorem scanString_escaped {s : Array Char} {begin j : Nat} {acc cs rest : List Char}
    (h : s.toList.drop j = escaped cs ++ '"' :: rest) (hpairs : pairsStandIns cs = false) :
    scanString s begin j acc =
      .ok (String.ofList (acc.reverse ++ cs), j + (escaped cs).length + 1) := by
  induction cs generalizing j acc with
  | nil =>
    have hj := lt_size_of_drop h
    rw [scanString, dif_pos hj]
    simp [getElem_of_drop h hj]
  | cons c cs ih =>
    obtain ⟨hrest, hpair⟩ := pairsStandIns_cons hpairs
    rw [escaped_cons, List.append_assoc] at h
    rw [scanString_escapeChar h hpair, ih (drop_add_of_drop h) hrest]
    simp [Nat.add_assoc]

theorem at!_eq_getElem {s : Array Char} {k : Nat} (hk : k < s.size) : at! s k = s[k] := by
  simp [at!, Array.getD_eq_getD_getElem?, hk]

theorem skipDigits_of_digit {s : Array Char} {k : Nat} (hk : k < s.size)
    (hd : ('0' ≤ at! s k && at! s k ≤ '9') = true) : skipDigits s k = skipDigits s (k + 1) := by
  rw [skipDigits, dif_pos hk]
  rw [at!_eq_getElem hk] at hd
  simp_all

theorem skipDigits_of_not_digit {s : Array Char} {k : Nat}
    (hd : ('0' ≤ at! s k && at! s k ≤ '9') = false) : skipDigits s k = k := by
  rw [skipDigits]
  split
  · rename_i hk
    rw [at!_eq_getElem hk] at hd
    rw [if_neg]
    intro ⟨h1, h2⟩
    simp [h1, h2] at hd
  · rfl

theorem digitTest_eq_isDigit (c : Char) : ('0' ≤ c && c ≤ '9') = c.isDigit := by
  simp only [Char.isDigit, Char.le_def, ge_iff_le]

/-- The first character of a text, or NUL for none. -/
def headChar (rest : List Char) : Char := rest.headD '\x00'

theorem at!_of_drop_eq {s : Array Char} {i : Nat} {rest : List Char}
    (h : s.toList.drop i = rest) : at! s i = headChar rest := by
  cases rest with
  | nil =>
    have := congrArg List.length h
    simp only [List.length_drop, Array.length_toList, List.length_nil] at this
    exact at!_of_size_le (by omega)
  | cons c rest => exact at!_of_drop h

/-- Digits are skipped up to the first character that is none. -/
theorem skipDigits_of_drop {s : Array Char} {i : Nat} {ds rest : List Char}
    (h : s.toList.drop i = ds ++ rest) (hds : ∀ c ∈ ds, c.isDigit = true)
    (hrest : ('0' ≤ headChar rest && headChar rest ≤ '9') = false) :
    skipDigits s i = i + ds.length := by
  induction ds generalizing i with
  | nil =>
    rw [skipDigits_of_not_digit (by rwa [at!_of_drop_eq (by simpa using h)])]
    rfl
  | cons d ds ih =>
    have hd := hds d (by simp)
    rw [List.cons_append] at h
    rw [skipDigits_of_digit (lt_size_of_drop h) (by
        rw [at!_of_drop h, digitTest_eq_isDigit, hd]),
      ih (drop_succ_of_drop h) (fun c hc => hds c (by simp [hc]))]
    simp only [List.length_cons]; omega


theorem digitsBetween_of_drop {s : Array Char} {i : Nat} {ds rest : List Char}
    (h : s.toList.drop i = ds ++ rest) :
    digitsBetween s i (i + ds.length) = Nat.ofDigitChars 10 ds 0 := by
  have hex : (s.extract i (i + ds.length)).toList = ds := by
    rw [Array.toList_extract, List.extract, Nat.add_sub_cancel_left, h, List.take_left]
  rw [digitsBetween, hex]
  rfl

/-- The decimal digits of a positive number start with a digit from 1 to 9. -/
theorem toDigits_head {n : Nat} (hn : 0 < n) :
    ∃ d ds, Nat.toDigits 10 n = d :: ds ∧ '1' ≤ d ∧ d ≤ '9' := by
  induction n using Nat.strongRecOn with
  | ind n ih =>
    by_cases h10 : n < 10
    · refine ⟨_, [], Nat.toDigits_of_lt_base h10, ?_⟩
      have : ∀ k, k < 10 → 0 < k → '1' ≤ Nat.digitChar k ∧ Nat.digitChar k ≤ '9' := by decide
      exact this n h10 hn
    · obtain ⟨d, ds, hds, hd⟩ := ih (n / 10) (by omega) (by omega)
      exact ⟨d, ds ++ [Nat.digitChar (n % 10)],
        by rw [Nat.toDigits_of_base_le (by decide) (by omega), hds, List.cons_append], hd⟩

/-- The exponent as read from the characters alone: past the end there is no sign and no digit,
so the bounds checks decide nothing. -/
theorem expPart?_eq (s : Array Char) (r : Nat) :
    expPart? s r =
      if (at! s r == 'e' || at! s r == 'E') then
        let d := if (at! s (r + 1) == '-' || at! s (r + 1) == '+') then r + 2 else r + 1
        if d < skipDigits s d then some (d, skipDigits s d, at! s (r + 1) == '-') else none
      else none := by
  unfold expPart?
  by_cases hsz : r + 1 < s.size
  · have h2 : r + 2 < s.size + 1 := by omega
    have h3 : r + 2 ≤ s.size := by omega
    by_cases hE : (at! s r == 'e' || at! s r == 'E') = true
    · simp only [Bool.or_eq_true] at hE
      simp only [hsz, hE, h2, h3, true_and, ↓reduceIte, Bool.or_eq_true]
    · simp only [Bool.or_eq_true, not_or] at hE
      simp [hE]
  · have hend : at! s (r + 1) = '\x00' := at!_of_size_le (by omega)
    have hskip : skipDigits s (r + 1) = r + 1 := skipDigits_of_not_digit (by rw [hend]; decide)
    simp [hsz, hend, hskip]

/-- Whether a character can continue a number. -/
def isNumberChar (c : Char) : Bool :=
  ('0' ≤ c && c ≤ '9') || c == '.' || c == 'e' || c == 'E' || c == '-' || c == '+'

theorem eq_false_of_isNumberChar {c : Char} (h : isNumberChar c = false) :
    decide ('0' ≤ c ∧ c ≤ '9') = false ∧ (c == '.') = false ∧ (c == 'e') = false ∧
      (c == 'E') = false ∧ (c == '-') = false ∧ (c == '+') = false := by
  simp only [isNumberChar, Bool.or_eq_false_iff] at h
  obtain ⟨⟨⟨⟨⟨hd, h1⟩, h2⟩, h3⟩, h4⟩, h5⟩ := h
  exact ⟨by simpa using hd, h1, h2, h3, h4, h5⟩

theorem isDigit_eq_false {c : Char} (h : isNumberChar c = false) : ('0' ≤ c && c ≤ '9') = false := by
  simpa using (eq_false_of_isNumberChar h).1

theorem isLeadingDigit_eq_false {c : Char} (h : isNumberChar c = false) :
    decide ('1' ≤ c ∧ c ≤ '9') = false := by
  have := isDigit_eq_false h
  simp only [Bool.and_eq_false_iff, decide_eq_false_iff_not] at this
  simp only [decide_eq_false_iff_not]
  rintro ⟨h1, h2⟩
  rcases this with h3 | h3
  · exact h3 (Char.le_trans (by decide) h1)
  · exact h3 h2

theorem isZero_eq_false {c : Char} (h : isNumberChar c = false) : (c == '0') = false := by
  have := isDigit_eq_false h
  simp only [beq_eq_false_iff_ne]
  rintro rfl
  exact absurd this (by decide)

/-- Two texts hold the same `m` characters from the offsets `i` and `j`, and after them a
character that continues no number, or nothing. -/
structure NumberAgree (s t : Array Char) (i j m : Nat) : Prop where
  chars : ∀ a < m, at! s (i + a) = at! t (j + a)
  sizeS : i + m ≤ s.size
  sizeT : j + m ≤ t.size
  endS : isNumberChar (at! s (i + m)) = false
  endT : isNumberChar (at! t (j + m)) = false

namespace NumberAgree

variable {s t : Array Char} {i j m : Nat}

/-- A test that fails on every character that continues no number gives the same answer at the
same place in both texts, up to the end of the number. -/
theorem test (h : NumberAgree s t i j m) {a : Nat} (ha : a ≤ m) {f : Char → Bool}
    (hf : ∀ c, isNumberChar c = false → f c = false) :
    f (at! s (i + a)) = f (at! t (j + a)) := by
  rcases Nat.lt_or_eq_of_le ha with ha | rfl
  · rw [h.chars a ha]
  · rw [hf _ h.endS, hf _ h.endT]

theorem skipDigits (h : NumberAgree s t i j m) {a : Nat} (ha : a ≤ m) :
    ∃ b, a ≤ b ∧ b ≤ m ∧ Json.skipDigits s (i + a) = i + b ∧
      Json.skipDigits t (j + a) = j + b := by
  induction hk : m - a generalizing a with
  | zero =>
    have ham : a = m := by omega
    subst ham
    exact ⟨a, Nat.le_refl _, Nat.le_refl _, skipDigits_of_not_digit (isDigit_eq_false h.endS),
      skipDigits_of_not_digit (isDigit_eq_false h.endT)⟩
  | succ k ih =>
    have hd := h.test ha (f := fun c => '0' ≤ c && c ≤ '9') fun _ => isDigit_eq_false
    cases hds : ('0' ≤ at! s (i + a) && at! s (i + a) ≤ '9')
    · rw [hds] at hd
      exact ⟨a, Nat.le_refl _, ha, skipDigits_of_not_digit hds, skipDigits_of_not_digit hd.symm⟩
    · rw [hds] at hd
      obtain ⟨b, hab, hbm, hbs, hbt⟩ := ih (a := a + 1) (by omega) (by omega)
      refine ⟨b, by omega, hbm, ?_, ?_⟩
      · rw [skipDigits_of_digit (by have := h.sizeS; omega) hds, Nat.add_assoc, hbs]
      · rw [skipDigits_of_digit (by have := h.sizeT; omega) hd.symm, Nat.add_assoc, hbt]

theorem extract (h : NumberAgree s t i j m) {a b : Nat} (hbm : b ≤ m) :
    (s.extract (i + a) (i + b)).toList = (t.extract (j + a) (j + b)).toList := by
  have hs := h.sizeS
  have ht := h.sizeT
  apply List.ext_getElem
  · simp; omega
  · intro k hk1 hk2
    simp only [Array.getElem_toList, Array.getElem_extract]
    have hk : k < b - a := by simp at hk1; omega
    have := h.chars (a + k) (by omega)
    rw [← Nat.add_assoc, ← Nat.add_assoc] at this
    rwa [at!_eq_getElem (by omega), at!_eq_getElem (by omega)] at this

theorem digitsBetween (h : NumberAgree s t i j m) {a b : Nat} (hbm : b ≤ m) :
    Json.digitsBetween s (i + a) (i + b) = Json.digitsBetween t (j + a) (j + b) := by
  rw [Json.digitsBetween, Json.digitsBetween, h.extract hbm]

theorem lt_size (h : NumberAgree s t i j m) {a : Nat} (ha : a < m) :
    i + a < s.size ∧ j + a < t.size :=
  ⟨by have := h.sizeS; omega, by have := h.sizeT; omega⟩

/-- The integer parts end at the same place. -/
theorem intEnd? (h : NumberAgree s t i j m) {a : Nat} (ha : a ≤ m) :
    (Json.intEnd? s (i + a) = none ∧ Json.intEnd? t (j + a) = none) ∨
      ∃ b ≤ m, a < b ∧ Json.intEnd? s (i + a) = some (i + b) ∧
        Json.intEnd? t (j + a) = some (j + b) := by
  unfold Json.intEnd?
  rcases Nat.lt_or_eq_of_le ha with ha | rfl
  · obtain ⟨hs, ht⟩ := h.lt_size ha
    rw [h.chars a ha]
    by_cases hnz : '1' ≤ at! t (j + a) ∧ at! t (j + a) ≤ '9'
    · obtain ⟨b, hab, hbm, hbs, hbt⟩ := h.skipDigits (a := a + 1) (by omega)
      simp only [hs, ht, hnz, and_self, ↓reduceIte, Nat.add_assoc, hbs, hbt]
      exact Or.inr ⟨b, hbm, by omega, rfl, rfl⟩
    · by_cases hz : (at! t (j + a) == '0') = true
      · simp only [hs, ht, hnz, hz, and_self, ↓reduceIte, and_false]
        exact Or.inr ⟨a + 1, ha, by omega, by rw [Nat.add_assoc], by rw [Nat.add_assoc]⟩
      · simp [hnz, hz]
  · have h1 := isLeadingDigit_eq_false h.endS
    have h2 := isLeadingDigit_eq_false h.endT
    have h3 := isZero_eq_false h.endS
    have h4 := isZero_eq_false h.endT
    simp only [decide_eq_false_iff_not] at h1 h2
    simp [h1, h2, h3, h4]

/-- The fractions end at the same place. -/
theorem fracEnd? (h : NumberAgree s t i j m) {a : Nat} (ha : a ≤ m) :
    (Json.fracEnd? s (i + a) = none ∧ Json.fracEnd? t (j + a) = none) ∨
      ∃ b ≤ m, Json.fracEnd? s (i + a) = some (i + b) ∧ Json.fracEnd? t (j + a) = some (j + b) := by
  unfold Json.fracEnd?
  have hdot := h.test ha (f := (· == '.')) fun _ hc => (eq_false_of_isNumberChar hc).2.1
  cases hd : (at! t (j + a) == '.')
  · rw [hd] at hdot
    simp [hdot]
  · rw [hd] at hdot
    -- a point continues the number, so a digit may follow it inside the number
    have ham : a < m := by
      rcases Nat.lt_or_eq_of_le ha with ha | rfl
      · exact ha
      · rw [(eq_false_of_isNumberChar h.endT).2.1] at hd; cases hd
    have hdig := h.test (a := a + 1) (by omega) (f := fun c => decide ('0' ≤ c ∧ c ≤ '9'))
      fun _ hc => (eq_false_of_isNumberChar hc).1
    simp only [← Nat.add_assoc] at hdig
    cases hg : decide ('0' ≤ at! t (j + a + 1) ∧ at! t (j + a + 1) ≤ '9')
    · rw [hg] at hdig
      simp only [decide_eq_false_iff_not] at hg hdig
      simp [hg, hdig]
    · rw [hg] at hdig
      simp only [decide_eq_true_eq] at hg hdig
      have hlt : a + 1 < m := by
        rcases Nat.lt_or_eq_of_le (show a + 1 ≤ m by omega) with h1 | h1
        · exact h1
        · have := (eq_false_of_isNumberChar h.endT).1
          rw [← h1, ← Nat.add_assoc] at this
          simp [hg] at this
      obtain ⟨hs, ht⟩ := h.lt_size hlt
      obtain ⟨b, hab, hbm, hbs, hbt⟩ := h.skipDigits (a := a + 2) (by omega)
      simp only [← Nat.add_assoc] at hs ht hbs hbt
      rw [if_pos ⟨hs, hdot, hdig⟩, if_pos ⟨ht, rfl, hg⟩, hbs, hbt]
      exact Or.inr ⟨b, hbm, rfl, rfl⟩

/-- The exponents take the same digits. -/
theorem expPart? (h : NumberAgree s t i j m) {a : Nat} (ha : a ≤ m) :
    (Json.expPart? s (i + a) = none ∧ Json.expPart? t (j + a) = none) ∨
      ∃ d ≤ m, ∃ e ≤ m, ∃ neg, Json.expPart? s (i + a) = some (i + d, i + e, neg) ∧
        Json.expPart? t (j + a) = some (j + d, j + e, neg) := by
  rw [expPart?_eq, expPart?_eq]
  have hE := h.test ha (f := fun c => c == 'e' || c == 'E') fun _ hc =>
    by simp [(eq_false_of_isNumberChar hc).2.2.1, (eq_false_of_isNumberChar hc).2.2.2.1]
  cases hEt : (at! t (j + a) == 'e' || at! t (j + a) == 'E')
  · rw [hEt] at hE
    simp [hE]
  · rw [hEt] at hE
    -- an exponent letter continues the number, so its sign or first digit lies inside it
    have ham : a < m := by
      rcases Nat.lt_or_eq_of_le ha with ha | rfl
      · exact ha
      · have := (eq_false_of_isNumberChar h.endT).2.2
        simp [this.1, this.2.1] at hEt
    have hsign := h.test (a := a + 1) ham (f := fun c => c == '-' || c == '+') fun _ hc =>
      by simp [(eq_false_of_isNumberChar hc).2.2.2.2.1, (eq_false_of_isNumberChar hc).2.2.2.2.2]
    have hminus := h.test (a := a + 1) ham (f := (· == '-')) fun _ hc =>
      (eq_false_of_isNumberChar hc).2.2.2.2.1
    simp only [← Nat.add_assoc] at hsign hminus
    obtain ⟨da, hda, hds, hdt⟩ : ∃ da ≤ m,
        (if (at! s (i + a + 1) == '-' || at! s (i + a + 1) == '+') then i + a + 2 else i + a + 1) =
          i + da ∧
        (if (at! t (j + a + 1) == '-' || at! t (j + a + 1) == '+') then j + a + 2 else j + a + 1) =
          j + da := by
      rw [hsign]
      cases hst : (at! t (j + a + 1) == '-' || at! t (j + a + 1) == '+')
      · exact ⟨a + 1, ham, by simp [Nat.add_assoc], by simp [Nat.add_assoc]⟩
      · have : a + 1 < m := by
          rcases Nat.lt_or_eq_of_le (show a + 1 ≤ m by omega) with h1 | h1
          · exact h1
          · have := (eq_false_of_isNumberChar h.endT).2.2.2.2
            rw [← h1, ← Nat.add_assoc] at this
            simp [this.1, this.2] at hst
        exact ⟨a + 2, by omega, by simp [Nat.add_assoc], by simp [Nat.add_assoc]⟩
    obtain ⟨ea, -, hea, hes, het⟩ := h.skipDigits hda
    simp only [hE, ↓reduceIte]
    rw [hds, hdt, hes, het, hminus]
    by_cases hlt : da < ea
    · exact Or.inr ⟨da, hda, ea, hea, at! t (j + a + 1) == '-', by simp [hlt], by simp [hlt]⟩
    · exact Or.inl ⟨by simp [hlt], by simp [hlt]⟩

/-- Numbers with the same parts have the same value and end at the same place. -/
theorem numberValue (h : NumberAgree s t i j m) (neg : Bool) {a b : Nat} (hb : b ≤ m)
    {fs ft : Option Nat} {es et : Option (Nat × Nat × Bool)}
    (hf : (fs = none ∧ ft = none) ∨ ∃ c ≤ m, fs = some (i + c) ∧ ft = some (j + c))
    (he : (es = none ∧ et = none) ∨
      ∃ d ≤ m, ∃ e ≤ m, ∃ n, es = some (i + d, i + e, n) ∧ et = some (j + d, j + e, n)) :
    (Json.numberValue s neg (i + a) (i + b) fs es).1 =
        (Json.numberValue t neg (j + a) (j + b) ft et).1 ∧
      ∃ k, (Json.numberValue s neg (i + a) (i + b) fs es).2 = i + k ∧
        (Json.numberValue t neg (j + a) (j + b) ft et).2 = j + k := by
  have hint := h.digitsBetween (a := a) hb
  rcases hf with ⟨rfl, rfl⟩ | ⟨c, hc, rfl, rfl⟩ <;>
    rcases he with ⟨rfl, rfl⟩ | ⟨d, hd, e, he, n, rfl, rfl⟩
  · unfold Json.numberValue
    exact ⟨by rw [hint], b, rfl, rfl⟩
  · have hexp := h.digitsBetween (a := d) he
    unfold Json.numberValue
    dsimp only
    rw [hint, hexp]
    exact ⟨rfl, e, rfl, rfl⟩
  all_goals
    have hfrac := h.digitsBetween (a := b + 1) hc
    have hlen : i + c - (i + b + 1) = j + c - (j + b + 1) := by omega
    rw [← Nat.add_assoc, ← Nat.add_assoc] at hfrac
    unfold Json.numberValue
    dsimp only
  · rw [hint, hfrac, hlen]
    exact ⟨rfl, c, rfl, rfl⟩
  · rw [hint, hfrac, hlen, h.digitsBetween (a := d) he]
    exact ⟨rfl, e, rfl, rfl⟩

/-- A number reads the same in both texts. -/
theorem scanNumber (h : NumberAgree s t i j m) :
    (Json.scanNumber s i = none ∧ Json.scanNumber t j = none) ∨
      ∃ v k, Json.scanNumber s i = some (v, i + k) ∧ Json.scanNumber t j = some (v, j + k) := by
  have hneg := h.test (a := 0) (Nat.zero_le _) (f := (· == '-')) fun _ hc =>
    (eq_false_of_isNumberChar hc).2.2.2.2.1
  simp only [Nat.add_zero] at hneg
  -- the digits start after the sign, which belongs to the number
  obtain ⟨pa, hpa, hps, hpt⟩ : ∃ pa ≤ m, (if (at! t j == '-') = true then i + 1 else i) = i + pa ∧
      (if (at! t j == '-') = true then j + 1 else j) = j + pa := by
    cases hm : (at! t j == '-')
    · exact ⟨0, Nat.zero_le _, rfl, rfl⟩
    · refine ⟨1, ?_, rfl, rfl⟩
      rcases Nat.eq_zero_or_pos m with h0 | h0
      · have := (eq_false_of_isNumberChar h.endT).2.2.2.2.1
        rw [h0, Nat.add_zero, hm] at this
        cases this
      · exact h0
  unfold Json.scanNumber
  simp only [hneg]
  simp only [hps, hpt]
  rcases h.intEnd? hpa with ⟨hs, ht⟩ | ⟨qa, hqa, hpq, hs, ht⟩
  · left
    constructor <;> split <;> simp_all
  · have hsz1 : ¬ s.size ≤ i + pa := by have := h.sizeS; omega
    have hsz2 : ¬ t.size ≤ j + pa := by have := h.sizeT; omega
    simp only [hsz1, hsz2, and_false, ↓reduceIte, hs, ht]
    have hf := h.fracEnd? hqa
    obtain ⟨ra, hra, hrs, hrt⟩ : ∃ ra ≤ m, (Json.fracEnd? s (i + qa)).getD (i + qa) = i + ra ∧
        (Json.fracEnd? t (j + qa)).getD (j + qa) = j + ra := by
      rcases hf with ⟨h1, h2⟩ | ⟨c, hc, h1, h2⟩
      · exact ⟨qa, hqa, by rw [h1]; rfl, by rw [h2]; rfl⟩
      · exact ⟨c, hc, by rw [h1]; rfl, by rw [h2]; rfl⟩
    rw [hrs, hrt]
    obtain ⟨hv, k, hks, hkt⟩ := h.numberValue (at! t j == '-') (a := pa) hqa hf (h.expPart? hra)
    exact Or.inr ⟨_, k, congrArg some (Prod.ext hv hks), congrArg some (Prod.ext rfl hkt)⟩

end NumberAgree

theorem fracEnd?_of_end {s : Array Char} {q : Nat} (h : isNumberChar (at! s q) = false) :
    fracEnd? s q = none := by
  simp [fracEnd?, (eq_false_of_isNumberChar h).2.1]

theorem expPart?_of_end {s : Array Char} {r : Nat} (h : isNumberChar (at! s r) = false) :
    expPart? s r = none := by
  simp [expPart?_eq, (eq_false_of_isNumberChar h).2.2.1, (eq_false_of_isNumberChar h).2.2.2.1]

/-- A number without fraction or exponent is an integer. -/
theorem numberValue_none_none (s : Array Char) (neg : Bool) (p q : Nat) :
    numberValue s neg p q none none =
      (.int (if neg then -(digitsBetween s p q : Int) else digitsBetween s p q), q) := by
  unfold numberValue
  rfl

/-- The digits of a number followed by what cannot continue it read as an integer: the digit `0`
alone, or a first digit from 1 to 9 and the digits after it. -/
theorem intEnd?_toDigits {s : Array Char} {p k : Nat} {rest : List Char}
    (h : s.toList.drop p = Nat.toDigits 10 k ++ rest) (hend : isNumberChar (headChar rest) = false) :
    intEnd? s p = some (p + (Nat.toDigits 10 k).length) := by
  rcases Nat.eq_zero_or_pos k with rfl | hk
  · rw [Nat.toDigits_zero] at h ⊢
    simp [intEnd?, at!_of_drop h, lt_size_of_drop h]
  · obtain ⟨d, ds, hds, hd⟩ := toDigits_head hk
    rw [hds, List.cons_append] at h
    have hdigits : ∀ c ∈ ds, c.isDigit = true := fun c hc =>
      Nat.isDigit_of_mem_toDigits (b := 10) (n := k) (by decide) (by decide)
        (by rw [hds]; exact List.mem_cons_of_mem _ hc)
    have hskip := skipDigits_of_drop (drop_succ_of_drop h) hdigits (isDigit_eq_false hend)
    simp [intEnd?, at!_of_drop h, lt_size_of_drop h, hd, hskip, hds]
    omega

/-- An integer's text reads back as the integer, where what follows cannot continue it. -/
theorem scanNumber_intText {s : Array Char} {i : Nat} {n : Int} {rest : List Char}
    (h : s.toList.drop i = (intText n).toList ++ rest) (hend : isNumberChar (headChar rest) = false) :
    scanNumber s i = some (.int n, i + (intText n).toList.length) := by
  obtain ⟨d, ds, hds⟩ : ∃ d ds, Nat.toDigits 10 n.natAbs = d :: ds :=
    List.exists_cons_of_ne_nil Nat.toDigits_ne_nil
  have hd : d.isDigit = true :=
    Nat.isDigit_of_mem_toDigits (b := 10) (n := n.natAbs) (by decide) (by decide) (by simp [hds])
  have hdm : (d == '-') = false := by
    cases hm : (d == '-')
    · rfl
    · rw [beq_iff_eq.mp hm] at hd; cases hd
  by_cases hn : n < 0
  · have ht : (intText n).toList = '-' :: Nat.toDigits 10 n.natAbs := by simp [intText, hn]
    rw [ht, List.cons_append] at h
    rw [ht]
    have hp := drop_succ_of_drop h
    have hq := intEnd?_toDigits hp hend
    have hend' := at!_of_drop_eq (drop_add_of_drop hp)
    rw [← hend'] at hend
    have hsize : ¬ s.size ≤ i + 1 := by
      rw [hds, List.cons_append] at hp
      have := lt_size_of_drop hp
      omega
    unfold scanNumber
    simp only [at!_of_drop h, beq_self_eq_true, ↓reduceIte, hsize, and_false, hq,
      fracEnd?_of_end hend, Option.getD_none, expPart?_of_end hend]
    rw [numberValue_none_none, digitsBetween_of_drop hp, Nat.ofDigitChars_ten_toDigits]
    simp only [↓reduceIte, List.length_cons, Option.some.injEq, Prod.mk.injEq, Json.int.injEq]
    omega
  · have ht : (intText n).toList = Nat.toDigits 10 n.natAbs := by simp [intText, hn]
    rw [ht] at h
    rw [ht]
    have hq := intEnd?_toDigits h hend
    have hend' := at!_of_drop_eq (drop_add_of_drop h)
    rw [← hend'] at hend
    have hfirst : at! s i = d := by rw [hds, List.cons_append] at h; exact at!_of_drop h
    unfold scanNumber
    simp only [hfirst, hdm, Bool.false_eq_true, ↓reduceIte, false_and, hq,
      fracEnd?_of_end hend, Option.getD_none, expPart?_of_end hend]
    rw [numberValue_none_none, digitsBetween_of_drop h, Nat.ofDigitChars_ten_toDigits]
    simp only [Bool.false_eq_true, ↓reduceIte, Option.some.injEq, Prod.mk.injEq, Json.int.injEq,
      and_true]
    exact Int.natAbs_of_nonneg (by omega)

end JavaBuild.Json
