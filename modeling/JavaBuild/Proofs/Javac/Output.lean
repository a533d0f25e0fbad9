import Mathlib.Data.List.TakeWhile
import JavaBuild.Javac.Output

/-!
# javac's output reads back as its diagnostics

The reader of javac's output is a machine over lines: a header starts a diagnostic and settles
the one before it, and the lines after a positioned header are its source echo, its caret line
and its detail lines. Two results are proved about it, and put together in
`readOutput_recovers_printed`.

* Whatever the text, the reader gives one diagnostic per header line, in the order of those
  lines, with the kind, file and line of that header (`readOutput_headerFields`). It refuses the
  text exactly when a positioned header has a line number of more than `Text.maxIntegerDigits`
  digits (`readOutput?_cases`).
* A list of diagnostics printed as javac prints them, followed by count lines, reads back as
  those diagnostics (`readOutput?_printedOutput`) when each is `Printed.Readable`: its lines
  hold no line end, its echo and detail lines are taken for no header and no count, and none of
  its headers can be read in another place than where it was printed.

The headers are read as the patterns `<file>:<digits>: error: <message>` (or `warning:`), where
the file is the shortest non-empty text followed by such a tail (`positioned?_eq_some_iff`),
then `error: <message>` (or `warning:`), then `Note: <message>`. The last condition above is
where that order shows: a file that holds `:<digits>: error: ` would be cut short there, and so
would a message without position or a note that holds it (`readOutput_misreads_beyond_readable`).

Each line of a printed diagnostic has its reading lemma (`readLine_positioned`, `readLine_echo`,
`readLine_caretLine`, `readLine_detail`, `readLine_note`, `readLine_count`); a diagnostic's lines
then read back as it from any state of the reader (`Printed.settled_foldl_lines`), and so does a
list of them.
-/

namespace JavaBuild

/-- What a header gives a diagnostic: its kind, file and line. -/
def Diagnostic.headerFields (d : Diagnostic) : DiagnosticKind × Option String × Option Int :=
  (d.kind, d.source, d.line)

namespace Javac

/-! ## The header patterns -/

/-- The kind of diagnostic that a header names: `error` or `warning`. -/
def headerKind (isError : Bool) : DiagnosticKind := if isError then .error else .warning

/-- The word that names errors or warnings in a header. -/
def headerWord (isError : Bool) : String := if isError then "error" else "warning"

/-- What stands between the line number and the message of a positioned header. -/
def kindSeparator (isError : Bool) : List Char := (": " ++ headerWord isError ++ ": ").toList

/-- A text that continues a positioned header after the colon that ends its file: the digits of
the line number, `: error: ` or `: warning: `, and the message. -/
def HeaderTail (cs digits : List Char) (isError : Bool) (message : List Char) : Prop :=
  digits ≠ [] ∧ (∀ c ∈ digits, Text.isDigit c = true) ∧ cs = digits ++ kindSeparator isError ++ message

/-- Whether a text holds `:<digits>: error: ` or `:<digits>: warning: `. -/
def HasHeaderInfix (cs : List Char) : Prop :=
  ∃ pre tail digits isError message, cs = pre ++ ':' :: tail ∧ HeaderTail tail digits isError message

theorem not_hasHeaderInfix_of_colon_not_mem {cs : List Char} (h : ':' ∉ cs) :
    ¬HasHeaderInfix cs := by
  rintro ⟨pre, tail, -, -, -, rfl, -⟩
  simp at h

/-- Whether every colon of a text is followed by a blank, as in the fixed parts of headers. -/
def ColonsSpaced (cs : List Char) : Prop :=
  ∀ i < cs.length, cs[i]? = some ':' → cs[i + 1]? = some ' '

theorem ColonsSpaced.head?_eq {cs pre rest : List Char} (h : ColonsSpaced cs)
    (hcs : cs = pre ++ ':' :: rest) : rest.head? = some ' ' := by
  have hi := h pre.length (by simp [hcs]) (by simp [hcs])
  rw [hcs, List.getElem?_append_right (by omega)] at hi
  simpa [List.head?_eq_getElem?] using hi

theorem colonsSpaced_kindSeparator (isError : Bool) : ColonsSpaced (kindSeparator isError) := by
  unfold ColonsSpaced
  cases isError <;> decide

theorem colonsSpaced_headerWord (isError : Bool) :
    ColonsSpaced (headerWord isError ++ ": ").toList := by
  unfold ColonsSpaced
  cases isError <;> decide

theorem colonsSpaced_note : ColonsSpaced "Note: ".toList := by
  unfold ColonsSpaced
  decide

theorem not_isDigit_colon : Text.isDigit ':' = false := by decide

theorem not_isDigit_space : Text.isDigit ' ' = false := by decide

/-! ### Prefixes and kinds -/

@[simp] theorem afterPrefix?_append (pfx : String) (cs : List Char) :
    afterPrefix? pfx (pfx.toList ++ cs) = some cs := by
  simp [afterPrefix?, ← String.length_toList]

theorem afterPrefix?_eq_some_iff {pfx : String} {cs rest : List Char} :
    afterPrefix? pfx cs = some rest ↔ cs = pfx.toList ++ rest := by
  constructor
  · intro h
    unfold afterPrefix? at h
    split at h
    · obtain ⟨t, rfl⟩ := List.isPrefixOf_iff_prefix.mp ‹_›
      simp_all [← String.length_toList]
    · simp at h
  · rintro rfl
    exact afterPrefix?_append pfx rest

theorem kindAndMessage?_header (isError : Bool) (m : List Char) :
    kindAndMessage? ((headerWord isError ++ ": ").toList ++ m) =
      some (headerKind isError, String.ofList m) := by
  cases isError <;> simp [kindAndMessage?, headerWord, headerKind, afterPrefix?, ← String.length_toList]

/-- The second pattern: `error: <message>` or `warning: <message>`. -/
theorem kindAndMessage?_eq_some_iff {cs : List Char} {k : DiagnosticKind} {m : String} :
    kindAndMessage? cs = some (k, m) ↔
      ∃ isError, k = headerKind isError ∧ cs = (headerWord isError ++ ": ").toList ++ m.toList := by
  constructor
  · intro h
    unfold kindAndMessage? at h
    split at h
    case h_1 rest hrest =>
      refine ⟨true, by simp_all [headerKind], ?_⟩
      simp only [Option.some.injEq, Prod.mk.injEq] at h
      rw [afterPrefix?_eq_some_iff.mp hrest, ← h.2]
      simp [headerWord]
    case h_2 =>
      split at h
      case h_1 rest hrest =>
        refine ⟨false, by simp_all [headerKind], ?_⟩
        simp only [Option.some.injEq, Prod.mk.injEq] at h
        rw [afterPrefix?_eq_some_iff.mp hrest, ← h.2]
        simp [headerWord]
      case h_2 => simp at h
  · rintro ⟨isError, rfl, rfl⟩
    rw [kindAndMessage?_header, String.ofList_toList]

/-! ### The tail of a positioned header -/

theorem drop_length_takeWhile {α : Type} (p : α → Bool) (l : List α) :
    l.drop (l.takeWhile p).length = l.dropWhile p := by
  induction l with
  | nil => rfl
  | cons a l ih => cases h : p a <;> simp [h, ih]

theorem takeWhile_isDigit_append_colon {digits rest : List Char}
    (hd : ∀ c ∈ digits, Text.isDigit c = true) :
    (digits ++ ':' :: rest).takeWhile Text.isDigit = digits := by
  simp [List.takeWhile_append_of_pos hd, not_isDigit_colon]

theorem afterFile?_tail {cs digits message : List Char} {isError : Bool}
    (h : HeaderTail cs digits isError message) :
    afterFile? cs = some (digits, headerKind isError, String.ofList message) := by
  obtain ⟨hne, hd, rfl⟩ := h
  have htake : (digits ++ kindSeparator isError ++ message).takeWhile Text.isDigit = digits := by
    simpa [kindSeparator] using takeWhile_isDigit_append_colon hd
  have hsep : kindSeparator isError = ": ".toList ++ (headerWord isError ++ ": ").toList := by
    simp [kindSeparator]
  dsimp only [afterFile?]
  rw [htake, if_neg (by simpa using hne), List.append_assoc, List.drop_left, hsep,
    List.append_assoc, afterPrefix?_append]
  simp only [kindAndMessage?_header, Option.map_some]

/-- The tail of the first pattern: digits, `: error: ` or `: warning: `, and the message. -/
theorem afterFile?_eq_some_iff {cs digits : List Char} {k : DiagnosticKind} {m : String} :
    afterFile? cs = some (digits, k, m) ↔
      ∃ isError, k = headerKind isError ∧ HeaderTail cs digits isError m.toList := by
  constructor
  · intro h
    dsimp only [afterFile?] at h
    split at h
    · simp at h
    case isFalse hne =>
      split at h
      · simp at h
      case h_2 rest hrest =>
        obtain ⟨⟨k', m'⟩, hkm, hkm'⟩ := Option.map_eq_some_iff.mp h
        simp only [Prod.mk.injEq] at hkm'
        obtain ⟨rfl, rfl, rfl⟩ := hkm'
        obtain ⟨isError, rfl, hrest'⟩ := kindAndMessage?_eq_some_iff.mp hkm
        refine ⟨isError, rfl, by simpa using hne, fun c hc => List.mem_takeWhile_imp hc, ?_⟩
        have hsplit := (List.takeWhile_append_dropWhile (p := Text.isDigit) (l := cs)).symm
        rw [← drop_length_takeWhile, afterPrefix?_eq_some_iff.mp hrest, hrest'] at hsplit
        exact hsplit.trans (by simp [kindSeparator])
  · rintro ⟨isError, rfl, htail⟩
    exact (afterFile?_tail htail).trans (by simp)

theorem afterFile?_eq_none_of_head? {cs : List Char} {c : Char} (hc : cs.head? = some c)
    (hd : Text.isDigit c = false) : afterFile? cs = none := by
  obtain ⟨rest, rfl⟩ : ∃ rest, cs = c :: rest := by
    cases cs with
    | nil => simp at hc
    | cons c' rest => simp_all
  simp [afterFile?, hd]

/-- A header tail found after a colon of a text that goes on with a colon and a digit lies inside
that text: that colon and digit can be neither a digit of the line number nor a colon of
`: error: `, whose colons are followed by blanks. -/
theorem HeaderTail.inside {b t digits message : List Char} {isError : Bool} {d : Char}
    (hdig : Text.isDigit d = true) (h : HeaderTail (b ++ ':' :: d :: t) digits isError message) :
    ∃ rest, HeaderTail b digits isError rest := by
  obtain ⟨hne, hd, heq⟩ := h
  -- a colon followed by a blank where the text has the digit `d`
  have hblank : ∀ as, d :: t = as ++ message → as.head? = some ' ' → False := by
    intro as has hhead
    cases as with
    | nil => simp at hhead
    | cons z zs =>
      simp only [List.head?_cons, Option.some.injEq] at hhead
      subst hhead
      simp only [List.cons_append, List.cons.injEq] at has
      simp [has.1, not_isDigit_space] at hdig
  rcases List.append_eq_append_iff.mp heq with ⟨as, has, hrest⟩ | ⟨bs, hb, -⟩
  · cases as with
    | nil => exact ⟨[], hne, hd, by simpa using has.symm⟩
    | cons x as =>
      simp only [List.cons_append, List.cons.injEq] at hrest
      obtain ⟨rfl, hrest⟩ := hrest
      rcases List.append_eq_append_iff.mp has with ⟨cs, -, hsep⟩ | ⟨ds, hds, hsep⟩
      · exact (hblank as hrest ((colonsSpaced_kindSeparator isError).head?_eq hsep)).elim
      · cases ds with
        | nil =>
          exact (hblank as hrest
            ((colonsSpaced_kindSeparator isError).head?_eq
              (show kindSeparator isError = [] ++ ':' :: as by simpa using hsep.symm))).elim
        | cons y ys =>
          simp only [List.cons_append, List.cons.injEq] at hsep
          have := hd ':' (by rw [hds, hsep.1]; simp)
          simp [not_isDigit_colon] at this
  · exact ⟨bs, hne, hd, hb⟩

/-! ### The search for the file -/

theorem eq_take_append_cons_drop {α : Type} {l : List α} {j : Nat} {a : α} (h : l[j]? = some a) :
    l = l.take j ++ a :: l.drop (j + 1) := by
  obtain ⟨hj, hget⟩ := List.getElem?_eq_some_iff.mp h
  calc l = l.take j ++ l.drop j := (List.take_append_drop j l).symm
    _ = l.take j ++ a :: l.drop (j + 1) := by rw [List.drop_eq_getElem_cons hj, hget]

/-- `findHeader` stops at the first colon from `i` on that a header tail follows. -/
theorem findHeader_eq_some {cs : List Char} {i j fuel : Nat} {n : List Char} {k : DiagnosticKind}
    {m : String} (hij : i ≤ j) (hfuel : j < i + fuel) (hj : cs[j]? = some ':')
    (ht : afterFile? (cs.drop (j + 1)) = some (n, k, m))
    (hbefore : ∀ j', i ≤ j' → j' < j → cs[j']? = some ':' → afterFile? (cs.drop (j' + 1)) = none) :
    findHeader cs i fuel = some (String.ofList (cs.take j), n, k, m) := by
  induction fuel generalizing i with
  | zero => omega
  | succ fuel ih =>
    have hlen : j < cs.length := (List.getElem?_eq_some_iff.mp hj).1
    rw [findHeader, if_neg (by omega)]
    rcases Nat.eq_or_lt_of_le hij with rfl | hlt
    · simp [hj, ht]
    · have hrec := ih (i := i + 1) (by omega) (by omega) fun j' h1 h2 => hbefore j' (by omega) h2
      by_cases hc : cs[i]? = some ':'
      · simp [hc, hbefore i le_rfl hlt hc, hrec]
      · simp [hc, hrec]

theorem findHeader_eq_none {cs : List Char} {i fuel : Nat}
    (hnone : ∀ j, i ≤ j → cs[j]? = some ':' → afterFile? (cs.drop (j + 1)) = none) :
    findHeader cs i fuel = none := by
  induction fuel generalizing i with
  | zero => rfl
  | succ fuel ih =>
    have hrec := ih (i := i + 1) fun j hj => hnone j (by omega)
    rw [findHeader]
    by_cases hc : cs[i]? = some ':'
    · simp [hc, hnone i le_rfl hc, hrec]
    · simp [hc, hrec]

/-- What `findHeader` finds is the first colon from `i` on that a header tail follows. -/
theorem findHeader_eq_some_imp {cs : List Char} {i fuel : Nat} {file : String} {n : List Char}
    {k : DiagnosticKind} {m : String} (h : findHeader cs i fuel = some (file, n, k, m)) :
    ∃ j, i ≤ j ∧ cs[j]? = some ':' ∧ afterFile? (cs.drop (j + 1)) = some (n, k, m) ∧
      file = String.ofList (cs.take j) ∧
      ∀ j', i ≤ j' → j' < j → cs[j']? = some ':' → afterFile? (cs.drop (j' + 1)) = none := by
  induction fuel generalizing i with
  | zero => simp [findHeader] at h
  | succ fuel ih =>
    rw [findHeader] at h
    split at h
    · simp at h
    split at h
    case isTrue hc =>
      have hc : cs[i]? = some ':' := by simpa using hc
      split at h
      case h_1 n' k' m' ht =>
        simp only [Option.some.injEq, Prod.mk.injEq] at h
        obtain ⟨rfl, rfl, rfl, rfl⟩ := h
        exact ⟨i, le_rfl, hc, ht, rfl, fun j' h1 h2 => by omega⟩
      case h_2 ht =>
        obtain ⟨j, hij, hj, ht', hf, hbefore⟩ := ih h
        refine ⟨j, by omega, hj, ht', hf, fun j' h1 h2 hc' => ?_⟩
        rcases Nat.eq_or_lt_of_le h1 with rfl | h1
        · exact ht
        · exact hbefore j' h1 h2 hc'
    case isFalse hc =>
      obtain ⟨j, hij, hj, ht', hf, hbefore⟩ := ih h
      refine ⟨j, by omega, hj, ht', hf, fun j' h1 h2 hc' => ?_⟩
      rcases Nat.eq_or_lt_of_le h1 with rfl | h1
      · simp [hc'] at hc
      · exact hbefore j' h1 h2 hc'

/-- The first pattern, `<file>:<digits>: error: <message>` (or `warning:`), read lazily: the file
of a positioned header is the shortest non-empty text that a colon and a header tail follow. -/
theorem positioned?_eq_some_iff {line file : String} {digits : List Char} {k : DiagnosticKind}
    {message : String} :
    positioned? line = some (file, digits, k, message) ↔
      file ≠ "" ∧
      (∃ isError tail, k = headerKind isError ∧ line.toList = file.toList ++ ':' :: tail ∧
        HeaderTail tail digits isError message.toList) ∧
      ∀ pre tail digits' isError' message', line.toList = pre ++ ':' :: tail →
        HeaderTail tail digits' isError' message' → pre ≠ [] → file.length ≤ pre.length := by
  constructor
  · intro h
    obtain ⟨j, hj1, hj, ht, rfl, hbefore⟩ := findHeader_eq_some_imp h
    obtain ⟨isError, rfl, htail⟩ := afterFile?_eq_some_iff.mp ht
    have hjlen : j < line.toList.length := (List.getElem?_eq_some_iff.mp hj).1
    refine ⟨?_, ⟨isError, _, rfl, by simpa using eq_take_append_cons_drop hj, htail⟩, ?_⟩
    · intro hempty
      have := congrArg String.length hempty
      simp at this
      rcases this with h0 | rfl
      · omega
      · simp at hjlen
    · intro pre tail digits' isError' message' hl ht' hpre
      by_contra hlt
      have hpos : 1 ≤ pre.length := List.length_pos_iff.mpr hpre
      have hc : line.toList[pre.length]? = some ':' := by simp [hl]
      have hdrop : line.toList.drop (pre.length + 1) = tail := by simp [hl]
      have hnone := hbefore pre.length hpos (by simp at hlt; omega) hc
      rw [hdrop, afterFile?_tail ht'] at hnone
      simp at hnone
  · rintro ⟨hfile, ⟨isError, tail, rfl, hl, htail⟩, hmin⟩
    have hlen : 0 < file.toList.length := List.length_pos_iff.mpr (by simpa using hfile)
    have hfind : findHeader line.toList 1 line.length = some (String.ofList
        (line.toList.take file.toList.length), digits, headerKind isError, message) :=
      findHeader_eq_some (by omega)
      (by rw [← String.length_toList, hl]; simp; omega) (by simp [hl])
      (by simpa [hl] using afterFile?_tail htail)
      (fun j' h1 h2 hc => by
        cases ht : afterFile? (line.toList.drop (j' + 1)) with
        | none => rfl
        | some t =>
          exfalso
          obtain ⟨n', k', m'⟩ := t
          obtain ⟨isError', -, htail'⟩ := afterFile?_eq_some_iff.mp ht
          have hj' : j' < line.toList.length := (List.getElem?_eq_some_iff.mp hc).1
          have := hmin _ _ _ _ _ (eq_take_append_cons_drop hc) htail'
            (by
              rw [Ne, ← List.length_eq_zero_iff]
              simp only [List.length_take, Nat.min_eq_zero_iff]
              omega)
          simp [← String.length_toList] at this
          omega)
    rw [positioned?, hfind]
    simp [hl]

/-- A positioned header reads back with its own file, when that file is non-empty and holds no
header infix: no colon of the file can be taken for the one that ends it. -/
theorem positioned?_header {file : String} {tail digits message : List Char} {isError : Bool}
    (hfile : file ≠ "") (hfree : ¬HasHeaderInfix file.toList)
    (htail : HeaderTail tail digits isError message) :
    positioned? (String.ofList (file.toList ++ ':' :: tail)) =
      some (file, digits, headerKind isError, String.ofList message) := by
  obtain ⟨d, ds, hdigits⟩ := List.exists_cons_of_ne_nil htail.1
  have hd : Text.isDigit d = true := htail.2.1 d (by simp [hdigits])
  refine positioned?_eq_some_iff.mpr ⟨hfile, ⟨isError, tail, rfl, by simp, by simpa using htail⟩, ?_⟩
  intro pre tail' digits' isError' message' hl htail' hpre
  by_contra hlt
  simp only [String.toList_ofList, not_le, ← String.length_toList] at hl hlt
  -- a shorter file would end at a colon of the file, after which a whole header tail would lie
  rcases List.append_eq_append_iff.mp hl.symm with ⟨as, hfile', has⟩ | ⟨bs, hpre', -⟩
  · cases as with
    | nil => simp [hfile'] at hlt
    | cons x b =>
      simp only [List.cons_append, List.cons.injEq] at has
      obtain ⟨rfl, rfl⟩ := has
      rw [htail.2.2, hdigits, List.cons_append, List.cons_append] at htail'
      obtain ⟨rest, hrest⟩ := HeaderTail.inside hd htail'
      exact hfree ⟨pre, b, digits', isError', rest, hfile', hrest⟩
  · rw [hpre', List.length_append] at hlt
    omega

/-- A line that starts with a fixed text whose colons are followed by blanks, such as `error: `,
is no positioned header unless the rest of it holds a header infix. -/
theorem positioned?_spaced {pre rest : List Char} (hpre : ColonsSpaced pre)
    (hrest : ¬HasHeaderInfix rest) : positioned? (String.ofList (pre ++ rest)) = none := by
  unfold positioned?
  apply findHeader_eq_none
  intro j _ hj
  rw [String.toList_ofList] at hj ⊢
  rcases Nat.lt_or_ge j pre.length with hlt | hge
  · -- a colon of the fixed text: a blank follows it
    rw [List.getElem?_append_left hlt] at hj
    have hblank := hpre j hlt hj
    have hnext : j + 1 < pre.length := (List.getElem?_eq_some_iff.mp hblank).1
    refine afterFile?_eq_none_of_head? (c := ' ') ?_ not_isDigit_space
    rw [List.head?_drop, List.getElem?_append_left hnext, hblank]
  · -- a colon of the rest: a header tail after it would be a header infix of the rest
    rw [List.getElem?_append_right hge] at hj
    cases ht : afterFile? ((pre ++ rest).drop (j + 1)) with
    | none => rfl
    | some t =>
      exfalso
      obtain ⟨n, k, m⟩ := t
      obtain ⟨isError, -, htail⟩ := afterFile?_eq_some_iff.mp ht
      have hdrop : (pre ++ rest).drop (j + 1) = rest.drop (j - pre.length + 1) := by
        rw [List.drop_append, List.drop_eq_nil_of_le (by omega), List.nil_append]
        congr 1
        omega
      rw [hdrop] at htail
      exact hrest ⟨_, _, _, _, _, eq_take_append_cons_drop hj, htail⟩

/-- A line without a colon is no positioned header. -/
theorem positioned?_of_colon_not_mem {line : String} (h : ':' ∉ line.toList) :
    positioned? line = none :=
  findHeader_eq_none fun _ _ hj => absurd (List.mem_of_getElem? hj) h

/-! ## Reading line by line -/

/-- The header that a line starts a diagnostic with, when it matches one of the three patterns,
tried in order: its kind, and the file and line number of a positioned header. -/
def header? (line : String) : Option (DiagnosticKind × Option String × Option Int) :=
  match positioned? line with
  | some (file, n, k, _) => some (k, some file, some (Text.digitsValue n))
  | none =>
    match kindAndMessage? line.toList with
    | some (k, _) => some (k, none, none)
    | none => (afterPrefix? "Note: " line.toList).map fun _ => (.note, none, none)

/-- The diagnostics that a state of the reader stands for: those done, and the pending one once
finished. -/
def settled (acc : List Diagnostic × Option Pending) : List Diagnostic :=
  acc.1 ++ (acc.2.map Pending.finish).toList

theorem readOutput_eq_settled (output : String) :
    readOutput output = settled (output.textLines.foldl readLine ([], none)) := by
  unfold readOutput settled
  split
  rename_i done pending h
  rw [h]
  cases pending <;> simp

theorem header?_eq_none_iff {line : String} :
    header? line = none ↔ positioned? line = none ∧ kindAndMessage? line.toList = none ∧
      afterPrefix? "Note: " line.toList = none := by
  unfold header?
  split
  · simp_all
  · split <;> simp_all

theorem readLine_positioned (acc : List Diagnostic × Option Pending) {line file : String}
    {n : List Char} {k : DiagnosticKind} {m : String} (h : positioned? line = some (file, n, k, m)) :
    readLine acc line = (settled acc,
      some ⟨{ kind := k, message := m, source := some file, line := some (Text.digitsValue n) }, 0⟩) := by
  obtain ⟨done, pending⟩ := acc
  cases pending <;> simp [readLine, h, settled]

theorem readLine_positionless (acc : List Diagnostic × Option Pending) {line : String}
    {k : DiagnosticKind} {m : String} (h1 : positioned? line = none)
    (h2 : kindAndMessage? line.toList = some (k, m)) :
    readLine acc line = (settled acc, some ⟨{ kind := k, message := m }, 3⟩) := by
  obtain ⟨done, pending⟩ := acc
  cases pending <;> simp [readLine, h1, h2, settled]

theorem readLine_note (acc : List Diagnostic × Option Pending) {line : String} {m : List Char}
    (h1 : positioned? line = none) (h2 : kindAndMessage? line.toList = none)
    (h3 : afterPrefix? "Note: " line.toList = some m) :
    readLine acc line = (settled acc ++ [{ kind := .note, message := String.ofList m }], none) := by
  obtain ⟨done, pending⟩ := acc
  cases pending <;> simp [readLine, h1, h2, h3, settled]

/-- A line that is no header leaves the diagnostics done as they are, and the kind, file and line
of the pending one. -/
theorem readLine_of_header?_eq_none {line : String} (h : header? line = none)
    (done : List Diagnostic) (pending : Option Pending) :
    (readLine (done, pending) line).1 = done ∧
      (readLine (done, pending) line).2.map (·.diagnostic.headerFields) =
        pending.map (·.diagnostic.headerFields) := by
  obtain ⟨h1, h2, h3⟩ := header?_eq_none_iff.mp h
  rcases pending with _ | p
  · simp only [readLine, h1, h2, h3]
    split_ifs <;> simp
  · simp only [readLine, h1, h2, h3]
    split_ifs <;> simp [Diagnostic.headerFields]

@[simp] theorem headerFields_finish (p : Pending) :
    p.finish.headerFields = p.diagnostic.headerFields := rfl

theorem settled_headerFields (acc : List Diagnostic × Option Pending) :
    (settled acc).map Diagnostic.headerFields =
      acc.1.map Diagnostic.headerFields ++ (acc.2.map (·.diagnostic.headerFields)).toList := by
  obtain ⟨done, pending⟩ := acc
  cases pending <;> simp [settled]

/-- One line adds the header it starts, if any, to the headers of the reader's state: a header
settles the pending diagnostic and opens one with its own fields, and any other line leaves the
kind, file and line of the pending one as they are. -/
theorem readLine_headerFields (acc : List Diagnostic × Option Pending) (line : String) :
    (settled (readLine acc line)).map Diagnostic.headerFields =
      (settled acc).map Diagnostic.headerFields ++ (header? line).toList := by
  cases h1 : positioned? line with
  | some r =>
    obtain ⟨file, n, k, m⟩ := r
    simp [readLine_positioned acc h1, header?, h1, settled, Pending.finish, Diagnostic.headerFields]
  | none =>
    cases h2 : kindAndMessage? line.toList with
    | some r =>
      obtain ⟨k, m⟩ := r
      simp [readLine_positionless acc h1 h2, header?, h1, h2, settled, Pending.finish,
        Diagnostic.headerFields]
    | none =>
      cases h3 : afterPrefix? "Note: " line.toList with
      | some m =>
        simp [readLine_note acc h1 h2 h3, header?, h1, h2, h3, settled, Diagnostic.headerFields]
      | none =>
        have hnone : header? line = none := header?_eq_none_iff.mpr ⟨h1, h2, h3⟩
        obtain ⟨done, pending⟩ := acc
        obtain ⟨hdone, hpending⟩ := readLine_of_header?_eq_none hnone done pending
        rw [settled_headerFields, settled_headerFields, hdone, hpending, hnone]
        simp

/-- Reading lines adds their headers, in order. -/
theorem foldl_readLine_headerFields (lines : List String) (acc : List Diagnostic × Option Pending) :
    (settled (lines.foldl readLine acc)).map Diagnostic.headerFields =
      (settled acc).map Diagnostic.headerFields ++ lines.filterMap header? := by
  induction lines generalizing acc with
  | nil => simp
  | cons line lines ih =>
    rw [List.foldl_cons, ih, readLine_headerFields, List.filterMap_cons]
    cases header? line <;> simp

/-- The reader gives one diagnostic per header line, in the order of the lines, with the kind,
file and line of its header. -/
theorem readOutput_headerFields (output : String) :
    (readOutput output).map Diagnostic.headerFields = output.textLines.filterMap header? := by
  rw [readOutput_eq_settled, foldl_readLine_headerFields]
  simp [settled]

/-- A positioned header whose line number has more digits than `Text.maxIntegerDigits`. -/
def LongHeader (line : String) : Prop :=
  ∃ h ∈ positioned? line, Text.maxIntegerDigits < h.2.1.length

/-- `readOutput?` reads a text exactly when no positioned header of it has too long a line number,
and then gives what `readOutput` gives; otherwise it names the count of digits of the first such
line number. -/
theorem readOutput?_cases (output : String) :
    (readOutput? output = .ok (readOutput output) ∧ ∀ line ∈ output.textLines, ¬LongHeader line) ∨
      ∃ count, Text.maxIntegerDigits < count ∧
        readOutput? output = .error (Text.digitLimitMessage count) ∧
        ∃ line ∈ output.textLines, LongHeader line := by
  dsimp only [readOutput?]
  split
  case h_1 count hfind =>
    obtain ⟨line, hl, hline⟩ := List.exists_of_findSome?_eq_some hfind
    split at hline
    case h_1 file digits k m hpos =>
      split at hline
      case isTrue hlong =>
        simp only [Option.some.injEq] at hline
        subst hline
        exact .inr ⟨_, hlong, rfl, line, hl, _, hpos, hlong⟩
      case isFalse => simp at hline
    case h_2 => simp at hline
  case h_2 hfind =>
    refine .inl ⟨rfl, fun line hl ⟨h, hpos, hlong⟩ => ?_⟩
    have hnone := List.findSome?_eq_none_iff.mp hfind line hl
    simp only [Option.mem_def] at hpos
    obtain ⟨file, digits, k, m⟩ := h
    simp [hpos, hlong] at hnone

/-! ## Printed text -/

/-! ### Line numbers -/

theorem toNat_of_mem_toDigits {c : Char} {n : Nat} (h : c ∈ Nat.toDigits 10 n) :
    48 ≤ c.toNat ∧ c.toNat ≤ 57 := by
  simpa using Char.isDigit_iff_toNat.mp (Nat.isDigit_of_mem_toDigits (by decide) (by decide) h)

theorem isDigit_of_mem_toDigits {c : Char} {n : Nat} (h : c ∈ Nat.toDigits 10 n) :
    Text.isDigit c = true := by
  obtain ⟨h1, h2⟩ := toNat_of_mem_toDigits h
  simp [Text.isDigit, Text.digitValue?_ascii c ⟨show '0' ≤ c from h1, show c ≤ '9' from h2⟩]

theorem digitValue?_digitChar {d : Nat} (hd : d < 10) : Text.digitValue? (Nat.digitChar d) = some d := by
  have h := Nat.toNat_digitChar_of_lt_ten hd
  rw [Text.digitValue?_ascii _ ⟨show 48 ≤ (Nat.digitChar d).toNat by omega,
    show (Nat.digitChar d).toNat ≤ 57 by omega⟩, h]
  simp

/-- The decimal digits of a number spell it back. -/
theorem digitsValue_toDigits (n : Nat) : Text.digitsValue (Nat.toDigits 10 n) = n := by
  induction n using Nat.strong_induction_on with
  | _ n ih =>
    rw [Nat.toDigits_eq_if (by decide)]
    split
    · simp [Text.digitsValue, digitValue?_digitChar ‹n < 10›]
    · rw [Text.digitsValue, List.foldl_append, ← Text.digitsValue, ih (n / 10) (by omega)]
      simp [digitValue?_digitChar (Nat.mod_lt n (by decide : 10 > 0))]
      omega

/-! ### Lines -/

/-- Whether a text holds a line end. -/
def HasLineEnd (s : String) : Prop := ∃ c ∈ s.toList, Text.isLineEnd c = true

instance : DecidablePred HasLineEnd := fun s =>
  decidable_of_iff (s.toList.any Text.isLineEnd = true) (by simp [HasLineEnd])

@[simp] theorem hasLineEnd_append (a b : String) :
    HasLineEnd (a ++ b) ↔ HasLineEnd a ∨ HasLineEnd b := by
  simp [HasLineEnd, or_and_right, exists_or]

theorem lines_go_append (l rest acc : List Char) (hl : ∀ c ∈ l, Text.isLineEnd c = false) :
    Text.lines.go (l ++ '\n' :: rest) acc =
      (acc.reverse ++ l) :: (if rest.isEmpty then [] else Text.lines.go rest []) := by
  induction l generalizing acc with
  | nil => simp [Text.lines.go, Text.isLineEnd, Text.lineEndCodes]
  | cons c l ih =>
    have hc : Text.isLineEnd c = false := hl c (by simp)
    have hr : c ≠ '\r' := by rintro rfl; simp [Text.isLineEnd, Text.lineEndCodes] at hc
    rw [List.cons_append, Text.lines.go.eq_3 _ _ _ (by simp [hr]), if_neg (by simp [hc]),
      ih _ fun c' h' => hl c' (by simp [h'])]
    simp

theorem lines_append (l rest : List Char) (hl : ∀ c ∈ l, Text.isLineEnd c = false) :
    Text.lines (l ++ '\n' :: rest) = l :: Text.lines rest := by
  rw [Text.lines.eq_2 _ (by simp), lines_go_append l rest [] hl]
  cases rest <;> simp [Text.lines]

/-- A text made of lines, each ended by a line feed, has those lines, when none holds a line
end. -/
theorem textLines_join (ls : List String) (h : ∀ l ∈ ls, ¬HasLineEnd l) :
    (String.join (ls.map (· ++ "\n"))).textLines = ls := by
  induction ls with
  | nil => simp [String.textLines, Text.lines]
  | cons l ls ih =>
    have hl : ∀ c ∈ l.toList, Text.isLineEnd c = false := by
      simpa [HasLineEnd] using h l (by simp)
    have hrest := ih fun l' h' => h l' (by simp [h'])
    simp [String.textLines] at hrest ⊢
    simp [lines_append _ _ hl, hrest]

/-! ### Blanks -/

theorem trimStart_of_head? {cs : List Char} {a : Char} (h : cs.head? = some a)
    (ha : Text.isBlank a = false) : Text.trimStart cs = cs := by
  cases cs with
  | nil => simp at h
  | cons c cs => simp_all [Text.trimStart]

theorem trimEnd_of_getLast? {cs : List Char} {z : Char} (h : cs.getLast? = some z)
    (hz : Text.isBlank z = false) : Text.trimEnd cs = cs := by
  have hrev : cs.reverse.dropWhile Text.isBlank = cs.reverse :=
    trimStart_of_head? (a := z) (by simpa [List.head?_reverse] using h) hz
  rw [Text.trimEnd, hrev, List.reverse_reverse]

/-- A text whose trimmed form is empty is all blank. -/
theorem isBlank_of_trim_eq_nil {cs : List Char} (h : Text.trim cs = []) :
    ∀ c ∈ cs, Text.isBlank c = true := by
  unfold Text.trim Text.trimEnd Text.trimStart at h
  rw [List.reverse_eq_nil_iff, List.dropWhile_eq_nil_iff] at h
  have hnil : cs.dropWhile Text.isBlank = [] := by
    cases hd : cs.dropWhile Text.isBlank with
    | nil => rfl
    | cons c rest =>
      have hc := List.head?_dropWhile_not Text.isBlank cs
      have hb := h c (by simp [hd])
      simp [hd, hb] at hc
  exact List.dropWhile_eq_nil_iff.mp hnil

/-! ## Printed diagnostics -/

/-- A diagnostic as javac prints it. -/
inductive Printed where
  /-- A diagnostic tied to a position: the header `<file>:<line>: <kind>: <first>`, the source
  line, a caret after `indent` blanks, and detail lines. -/
  | positioned (isError : Bool) (file : String) (line : Nat) (indent : Nat) (first : String)
      (echo : String) (details : List String)
  /-- A diagnostic without position: the header `<kind>: <first>` and detail lines. -/
  | positionless (isError : Bool) (first : String) (details : List String)
  /-- A note, on the single line `Note: <message>`. -/
  | note (message : String)

/-- The caret line that marks column `indent + 1`. -/
def caretLine (indent : Nat) : String := String.ofList (List.replicate indent ' ') ++ "^"

/-- The lines that javac prints for a diagnostic. -/
def Printed.lines : Printed → List String
  | .positioned e file n indent first echo details =>
    (file ++ ":" ++ toString n ++ ": " ++ headerWord e ++ ": " ++ first) :: echo ::
      caretLine indent :: details
  | .positionless e first details => (headerWord e ++ ": " ++ first) :: details
  | .note message => ["Note: " ++ message]

/-- The message of a diagnostic with detail lines: its first line, then each detail line on a
line of its own, without its trailing blanks. -/
def detailedMessage (first : String) (details : List String) : String :=
  first ++ String.join (details.map fun d => "\n" ++ d.trimBlanksEnd)

/-- The code that its message gives a warning. -/
def warningCode (kind : DiagnosticKind) (message : String) : Option String :=
  if kind == .warning then messageCode? message else none

/-- The diagnostic that a printed one stands for. -/
def Printed.diagnostic : Printed → Diagnostic
  | .positioned e file n indent first _ details =>
    { kind := headerKind e, message := detailedMessage first details, source := some file,
      line := some n, column := some (indent + 1 : Nat),
      code := warningCode (headerKind e) (detailedMessage first details) }
  | .positionless e first details =>
    { kind := headerKind e, message := detailedMessage first details,
      code := warningCode (headerKind e) (detailedMessage first details) }
  | .note message => { kind := .note, message }

/-- A count line at the end of javac's output, such as `1 error` or `2 warnings`. -/
structure Trailer where
  count : Nat
  isError : Bool
  plural : Bool

/-- The text of a count line. -/
def Trailer.text (t : Trailer) : String :=
  toString t.count ++ " " ++ headerWord t.isError ++ (if t.plural then "s" else "")

/-- javac's output: the lines of the diagnostics, then the count lines, each ended by a line
feed. -/
def printedOutput (ps : List Printed) (ts : List Trailer) : String :=
  String.join ((ps.flatMap Printed.lines ++ ts.map Trailer.text).map (· ++ "\n"))

/-- A line that the reader takes for no header and for no count line. -/
def Plain (line : String) : Prop :=
  header? line = none ∧ isCountLine line.trimBlanks.toList = false

instance : DecidablePred Plain := fun line =>
  inferInstanceAs (Decidable (header? line = none ∧ isCountLine line.trimBlanks.toList = false))

/-- A detail line as it must be printed: on one line, plain, and not blank. -/
def DetailLine (line : String) : Prop :=
  ¬HasLineEnd line ∧ Plain line ∧ line.isBlankText = false

instance : DecidablePred DetailLine := fun line =>
  inferInstanceAs (Decidable (¬HasLineEnd line ∧ Plain line ∧ line.isBlankText = false))

/-- The conditions under which a printed diagnostic reads back as itself. Its lines hold no line
end, its echo and detail lines are plain and its detail lines not blank. A file is non-empty and
holds no header infix; no more does the message of a header that the first pattern would
otherwise take for a positioned one. A line number has at most `Text.maxIntegerDigits` digits. -/
def Printed.Readable : Printed → Prop
  | .positioned _ file n _ first echo details =>
    file ≠ "" ∧ ¬HasLineEnd file ∧ ¬HasHeaderInfix file.toList ∧
      (toString n).length ≤ Text.maxIntegerDigits ∧ ¬HasLineEnd first ∧ ¬HasLineEnd echo ∧
      Plain echo ∧ ∀ d ∈ details, DetailLine d
  | .positionless _ first details =>
    ¬HasLineEnd first ∧ ¬HasHeaderInfix first.toList ∧ ∀ d ∈ details, DetailLine d
  | .note message => ¬HasLineEnd message ∧ ¬HasHeaderInfix message.toList

/-! ### Reading the lines of a printed diagnostic -/

/-- A line that has no colon and starts with none of the letters that open `error: `,
`warning: ` and `Note: ` is no header. -/
theorem header?_of_head? {line : String} {c : Char} (hcolon : ':' ∉ line.toList)
    (hc : line.toList.head? = some c) (he : c ≠ 'e') (hw : c ≠ 'w') (hn : c ≠ 'N') :
    header? line = none := by
  refine header?_eq_none_iff.mpr ⟨positioned?_of_colon_not_mem hcolon, ?_, ?_⟩
  · cases h : kindAndMessage? line.toList with
    | none => rfl
    | some r =>
      obtain ⟨isError, -, hline⟩ := kindAndMessage?_eq_some_iff.mp h
      rw [hline] at hc
      cases isError
      · have hw' : 'w' = c := by simpa [headerWord] using hc
        exact (hw hw'.symm).elim
      · have he' : 'e' = c := by simpa [headerWord] using hc
        exact (he he'.symm).elim
  · cases h : afterPrefix? "Note: " line.toList with
    | none => rfl
    | some r =>
      rw [afterPrefix?_eq_some_iff.mp h] at hc
      have hN : 'N' = c := by simpa using hc
      exact (hn hN.symm).elim

theorem readLine_count {line : String} (h : header? line = none)
    (hc : isCountLine line.trimBlanks.toList = true) (acc : List Diagnostic × Option Pending) :
    readLine acc line = acc := by
  obtain ⟨h1, h2, h3⟩ := header?_eq_none_iff.mp h
  obtain ⟨done, pending⟩ := acc
  simp [readLine, h1, h2, h3, hc]

/-- After a positioned header, any plain line is its source echo. -/
theorem readLine_echo {line : String} (h : Plain line) (done : List Diagnostic) (d : Diagnostic) :
    readLine (done, some ⟨d, 0⟩) line = (done, some ⟨d, 1⟩) := by
  obtain ⟨h1, h2, h3⟩ := header?_eq_none_iff.mp h.1
  simp [readLine, h1, h2, h3, h.2]

theorem caretLine_toList (indent : Nat) :
    (caretLine indent).toList = List.replicate indent ' ' ++ ['^'] := by
  simp [caretLine]

theorem header?_caretLine (indent : Nat) : header? (caretLine indent) = none := by
  cases indent with
  | zero =>
    exact header?_of_head? (c := '^') (by simp [caretLine_toList]) (by simp [caretLine_toList])
      (by decide) (by decide) (by decide)
  | succ i =>
    exact header?_of_head? (c := ' ') (by simp [caretLine_toList])
      (by simp [caretLine_toList, List.replicate_succ]) (by decide) (by decide) (by decide)

theorem trimBlanks_caretLine (indent : Nat) : (caretLine indent).trimBlanks = "^" := by
  have hstart : Text.trimStart (List.replicate indent ' ' ++ ['^']) = ['^'] := by
    rw [Text.trimStart, List.dropWhile_append_of_pos (by simp [Text.isBlank, Text.blankCodes])]
    decide
  simp only [String.trimBlanks, Text.trim, caretLine_toList, hstart]
  decide

/-- After the source echo, the caret line gives the column. -/
theorem readLine_caretLine (indent : Nat) (done : List Diagnostic) (d : Diagnostic) :
    readLine (done, some ⟨d, 1⟩) (caretLine indent) =
      (done, some ⟨{ d with column := some (indent + 1 : Nat) }, 2⟩) := by
  obtain ⟨h1, h2, h3⟩ := header?_eq_none_iff.mp (header?_caretLine indent)
  have hidx : (caretLine indent).toList.findIdx? (· == '^') = some indent := by
    simp [caretLine_toList, List.findIdx?_append]
  have hcaret : Text.isDigit '^' = false := by decide
  simp [readLine, h1, h2, h3, trimBlanks_caretLine, hidx, isCountLine, hcaret]

theorem trimBlanks_ne_empty {line : String} (h : line.isBlankText = false) :
    line.trimBlanks.isEmpty = false := by
  by_contra hempty
  have htrim : Text.trim line.toList = [] := by
    simpa [String.trimBlanks] using hempty
  have hall := isBlank_of_trim_eq_nil htrim
  simp [String.isBlankText, List.all_eq_true.mpr hall] at h

/-- After the caret line, and after a header without position, a detail line adds a line to the
message. -/
theorem readLine_detail {line : String} (h : DetailLine line) (done : List Diagnostic)
    (d : Diagnostic) {stage : Nat} (hstage : stage = 2 ∨ stage = 3) :
    readLine (done, some ⟨d, stage⟩) line =
      (done, some ⟨{ d with message := d.message ++ "\n" ++ line.trimBlanksEnd }, stage⟩) := by
  obtain ⟨-, hplain, hblank⟩ := h
  obtain ⟨h1, h2, h3⟩ := header?_eq_none_iff.mp hplain.1
  have hs0 : (stage == 0) = false := by rcases hstage with rfl | rfl <;> rfl
  have hs1 : (stage == 1) = false := by rcases hstage with rfl | rfl <;> rfl
  simp [readLine, h1, h2, h3, hplain.2, hs0, hs1, trimBlanks_ne_empty hblank]

theorem foldl_readLine_details {details : List String} (h : ∀ l ∈ details, DetailLine l)
    (done : List Diagnostic) (d : Diagnostic) {stage : Nat} (hstage : stage = 2 ∨ stage = 3) :
    details.foldl readLine (done, some ⟨d, stage⟩) =
      (done, some ⟨{ d with message := detailedMessage d.message details }, stage⟩) := by
  induction details generalizing d with
  | nil => simp [detailedMessage]
  | cons l details ih =>
    rw [List.foldl_cons, readLine_detail (h l (by simp)) done d hstage,
      ih (fun l' h' => h l' (by simp [h'])) _]
    simp [detailedMessage, String.append_assoc]

/-! ### Reading the headers of printed diagnostics -/

theorem positionedHeader_toList (file : String) (n : Nat) (e : Bool) (first : String) :
    (file ++ ":" ++ toString n ++ ": " ++ headerWord e ++ ": " ++ first).toList =
      file.toList ++ ':' :: (Nat.toDigits 10 n ++ kindSeparator e ++ first.toList) := by
  simp [kindSeparator, Nat.repr]

theorem headerTail_toDigits (n : Nat) (e : Bool) (first : List Char) :
    HeaderTail (Nat.toDigits 10 n ++ kindSeparator e ++ first) (Nat.toDigits 10 n) e first :=
  ⟨List.ne_nil_of_length_pos Nat.length_toDigits_pos, fun _ hc => isDigit_of_mem_toDigits hc, rfl⟩

theorem positioned?_positionedHeader {file : String} (n : Nat) (e : Bool) (first : String)
    (hfile : file ≠ "") (hfree : ¬HasHeaderInfix file.toList) :
    positioned? (file ++ ":" ++ toString n ++ ": " ++ headerWord e ++ ": " ++ first) =
      some (file, Nat.toDigits 10 n, headerKind e, first) := by
  have h := positioned?_header hfile hfree (headerTail_toDigits n e first.toList)
  rwa [← positionedHeader_toList, String.ofList_toList, String.ofList_toList] at h

theorem positioned?_positionlessHeader (e : Bool) {first : String}
    (hfree : ¬HasHeaderInfix first.toList) : positioned? (headerWord e ++ ": " ++ first) = none := by
  have h := positioned?_spaced (colonsSpaced_headerWord e) hfree
  rwa [← String.toList_append, String.ofList_toList] at h

theorem kindAndMessage?_positionlessHeader (e : Bool) (first : String) :
    kindAndMessage? (headerWord e ++ ": " ++ first).toList = some (headerKind e, first) := by
  rw [String.toList_append, kindAndMessage?_header, String.ofList_toList]

theorem positioned?_noteLine {message : String} (hfree : ¬HasHeaderInfix message.toList) :
    positioned? ("Note: " ++ message) = none := by
  have h := positioned?_spaced colonsSpaced_note hfree
  rwa [← String.toList_append, String.ofList_toList] at h

theorem kindAndMessage?_noteLine (message : String) :
    kindAndMessage? ("Note: " ++ message).toList = none := by
  cases h : kindAndMessage? ("Note: " ++ message).toList with
  | none => rfl
  | some r =>
    obtain ⟨isError, -, hline⟩ := kindAndMessage?_eq_some_iff.mp h
    cases isError <;> simp [headerWord] at hline

/-- A printed diagnostic that is readable reads back as itself, whatever the reader's state
before it: its header settles what was pending. -/
theorem Printed.settled_foldl_lines {p : Printed} (hp : p.Readable)
    (acc : List Diagnostic × Option Pending) :
    settled (p.lines.foldl readLine acc) = settled acc ++ [p.diagnostic] := by
  cases p with
  | positioned e file n indent first echo details =>
    obtain ⟨hfile, -, hfree, -, -, -, hecho, hdetails⟩ := hp
    rw [Printed.lines, List.foldl_cons, List.foldl_cons, List.foldl_cons,
      readLine_positioned acc (positioned?_positionedHeader n e first hfile hfree),
      readLine_echo hecho, readLine_caretLine, foldl_readLine_details hdetails _ _ (.inl rfl)]
    simp [settled, Pending.finish, Printed.diagnostic, digitsValue_toDigits, warningCode]
  | positionless e first details =>
    obtain ⟨-, hfree, hdetails⟩ := hp
    rw [Printed.lines, List.foldl_cons,
      readLine_positionless acc (positioned?_positionlessHeader e hfree)
        (kindAndMessage?_positionlessHeader e first),
      foldl_readLine_details hdetails _ _ (.inr rfl)]
    simp [settled, Pending.finish, Printed.diagnostic, warningCode]
  | note message =>
    obtain ⟨-, hfree⟩ := hp
    rw [Printed.lines, List.foldl_cons, List.foldl_nil,
      readLine_note acc (positioned?_noteLine hfree) (kindAndMessage?_noteLine message)
        (m := message.toList) (by rw [String.toList_append, afterPrefix?_append])]
    simp [settled, Printed.diagnostic]

/-- Readable printed diagnostics read back as themselves, in order. -/
theorem settled_foldl_printed {ps : List Printed} (h : ∀ p ∈ ps, p.Readable)
    (acc : List Diagnostic × Option Pending) :
    settled ((ps.flatMap Printed.lines).foldl readLine acc) =
      settled acc ++ ps.map Printed.diagnostic := by
  induction ps generalizing acc with
  | nil => simp
  | cons p ps ih =>
    rw [List.flatMap_cons, List.foldl_append, ih (fun q hq => h q (by simp [hq])),
      Printed.settled_foldl_lines (h p (by simp))]
    simp

/-! ### Count lines -/

theorem Trailer.text_toList (t : Trailer) :
    t.text.toList = Nat.toDigits 10 t.count ++ ' ' ::
      (headerWord t.isError ++ (if t.plural then "s" else "")).toList := by
  simp [Trailer.text, Nat.repr]

theorem colon_not_mem_toDigits (n : Nat) : ':' ∉ Nat.toDigits 10 n := fun h => by
  have := toNat_of_mem_toDigits h
  simp at this

theorem Trailer.header?_text (t : Trailer) : header? t.text = none := by
  obtain ⟨d, ds, hdigits⟩ := List.exists_cons_of_ne_nil
    (List.ne_nil_of_length_pos (Nat.length_toDigits_pos (b := 10) (n := t.count)))
  have hd := toNat_of_mem_toDigits (n := t.count) (c := d) (by simp [hdigits])
  refine header?_of_head? (c := d) ?_ (by simp [Trailer.text_toList, hdigits]) ?_ ?_ ?_
  · rw [Trailer.text_toList]
    have := colon_not_mem_toDigits t.count
    cases t.isError <;> cases t.plural <;> simp_all [headerWord]
  all_goals
    rintro rfl
    simp at hd

theorem Trailer.trimBlanks_text (t : Trailer) : t.text.trimBlanks = t.text := by
  obtain ⟨d, ds, hdigits⟩ := List.exists_cons_of_ne_nil
    (List.ne_nil_of_length_pos (Nat.length_toDigits_pos (b := 10) (n := t.count)))
  have hd := toNat_of_mem_toDigits (n := t.count) (c := d) (by simp [hdigits])
  have hstart : Text.trimStart t.text.toList = t.text.toList :=
    trimStart_of_head? (a := d) (by simp [Trailer.text_toList, hdigits]) (by
      simp only [Text.isBlank, Text.blankCodes]
      simp
      omega)
  have hend : Text.trimEnd t.text.toList = t.text.toList := by
    rw [Trailer.text_toList]
    cases t.isError <;> cases t.plural <;>
      exact trimEnd_of_getLast? (by simp [headerWord, List.getLast?_append]; rfl) (by decide)
  simp [String.trimBlanks, Text.trim, hstart, hend]

theorem Trailer.isCountLine_text (t : Trailer) : isCountLine t.text.trimBlanks.toList = true := by
  have htake : (Nat.toDigits 10 t.count ++ ' ' ::
      (headerWord t.isError ++ (if t.plural then "s" else "")).toList).takeWhile Text.isDigit =
      Nat.toDigits 10 t.count := by
    rw [List.takeWhile_append_of_pos fun _ hc => isDigit_of_mem_toDigits hc]
    simp [not_isDigit_space]
  have hne : Nat.toDigits 10 t.count ≠ [] := List.ne_nil_of_length_pos Nat.length_toDigits_pos
  simp only [Trailer.trimBlanks_text, isCountLine, Trailer.text_toList, htake, List.drop_left]
  cases t.isError <;> cases t.plural <;> simp [hne, headerWord]

/-- The count lines at the end of the output change nothing. -/
theorem foldl_readLine_trailers (ts : List Trailer) (acc : List Diagnostic × Option Pending) :
    (ts.map Trailer.text).foldl readLine acc = acc := by
  induction ts generalizing acc with
  | nil => rfl
  | cons t ts ih =>
    rw [List.map_cons, List.foldl_cons, readLine_count t.header?_text t.isCountLine_text, ih]

/-! ### The whole output -/

theorem not_hasLineEnd_repr (n : Nat) : ¬HasLineEnd n.repr := by
  rintro ⟨c, hc, hend⟩
  have := toNat_of_mem_toDigits (n := n) (c := c) (by simpa [Nat.repr] using hc)
  simp only [Text.isLineEnd, Text.lineEndCodes] at hend
  simp at hend
  omega

theorem not_hasLineEnd_headerWord (e : Bool) : ¬HasLineEnd (headerWord e) := by
  cases e <;> decide

theorem not_hasLineEnd_caretLine (indent : Nat) : ¬HasLineEnd (caretLine indent) := by
  rintro ⟨c, hc, hend⟩
  rw [caretLine_toList] at hc
  simp only [List.mem_append, List.mem_replicate, List.mem_singleton] at hc
  rcases hc with ⟨-, rfl⟩ | rfl <;> simp [Text.isLineEnd, Text.lineEndCodes] at hend

theorem Printed.not_hasLineEnd_lines {p : Printed} (hp : p.Readable) :
    ∀ l ∈ p.lines, ¬HasLineEnd l := by
  cases p with
  | positioned e file n indent first echo details =>
    obtain ⟨-, hfile, -, -, hfirst, hecho, -, hdetails⟩ := hp
    simp only [Printed.lines, List.mem_cons]
    rintro l (rfl | rfl | rfl | hl)
    · simp only [hasLineEnd_append, not_or]
      exact ⟨⟨⟨⟨⟨⟨hfile, by decide⟩, not_hasLineEnd_repr n⟩, by decide⟩,
        not_hasLineEnd_headerWord e⟩, by decide⟩, hfirst⟩
    · exact hecho
    · exact not_hasLineEnd_caretLine indent
    · exact (hdetails l hl).1
  | positionless e first details =>
    obtain ⟨hfirst, -, hdetails⟩ := hp
    simp only [Printed.lines, List.mem_cons]
    rintro l (rfl | hl)
    · simp only [hasLineEnd_append, not_or]
      exact ⟨⟨not_hasLineEnd_headerWord e, by decide⟩, hfirst⟩
    · exact (hdetails l hl).1
  | note message =>
    obtain ⟨hmessage, -⟩ := hp
    simp only [Printed.lines, List.mem_singleton]
    rintro l rfl
    simp only [hasLineEnd_append, not_or]
    exact ⟨by decide, hmessage⟩

theorem Trailer.not_hasLineEnd_text (t : Trailer) : ¬HasLineEnd t.text := by
  simp only [Trailer.text, hasLineEnd_append, not_or]
  refine ⟨⟨⟨not_hasLineEnd_repr _, by decide⟩, not_hasLineEnd_headerWord _⟩, ?_⟩
  split <;> decide

theorem not_longHeader_of_positioned?_eq_none {line : String} (h : positioned? line = none) :
    ¬LongHeader line := by
  simp [LongHeader, h]

theorem Printed.not_longHeader_lines {p : Printed} (hp : p.Readable) :
    ∀ l ∈ p.lines, ¬LongHeader l := by
  have plain : ∀ {l}, Plain l → ¬LongHeader l := fun h =>
    not_longHeader_of_positioned?_eq_none (header?_eq_none_iff.mp h.1).1
  cases p with
  | positioned e file n indent first echo details =>
    obtain ⟨hfile, -, hfree, hdigits, -, -, hecho, hdetails⟩ := hp
    simp only [Printed.lines, List.mem_cons]
    rintro l (rfl | rfl | rfl | hl)
    · simp only [LongHeader, positioned?_positionedHeader n e first hfile hfree,
        Option.mem_def, Option.some.injEq, exists_eq_left', not_lt]
      simpa [Nat.repr] using hdigits
    · exact plain hecho
    · exact not_longHeader_of_positioned?_eq_none
        (header?_eq_none_iff.mp (header?_caretLine indent)).1
    · exact plain (hdetails l hl).2.1
  | positionless e first details =>
    obtain ⟨-, hfree, hdetails⟩ := hp
    simp only [Printed.lines, List.mem_cons]
    rintro l (rfl | hl)
    · exact not_longHeader_of_positioned?_eq_none (positioned?_positionlessHeader e hfree)
    · exact plain (hdetails l hl).2.1
  | note message =>
    obtain ⟨-, hfree⟩ := hp
    simp only [Printed.lines, List.mem_singleton]
    rintro l rfl
    exact not_longHeader_of_positioned?_eq_none (positioned?_noteLine hfree)

theorem textLines_printedOutput {ps : List Printed} (h : ∀ p ∈ ps, p.Readable) (ts : List Trailer) :
    (printedOutput ps ts).textLines = ps.flatMap Printed.lines ++ ts.map Trailer.text := by
  refine textLines_join _ fun l hl => ?_
  simp only [List.mem_append, List.mem_flatMap, List.mem_map] at hl
  rcases hl with ⟨p, hp, hl⟩ | ⟨t, -, rfl⟩
  · exact Printed.not_hasLineEnd_lines (h p hp) l hl
  · exact t.not_hasLineEnd_text

/-- Readable diagnostics printed as javac prints them, followed by count lines, read back as
themselves. -/
theorem readOutput_printedOutput {ps : List Printed} (h : ∀ p ∈ ps, p.Readable)
    (ts : List Trailer) : readOutput (printedOutput ps ts) = ps.map Printed.diagnostic := by
  rw [readOutput_eq_settled, textLines_printedOutput h, List.foldl_append, foldl_readLine_trailers,
    settled_foldl_printed h]
  simp [settled]

theorem readOutput?_printedOutput {ps : List Printed} (h : ∀ p ∈ ps, p.Readable)
    (ts : List Trailer) : readOutput? (printedOutput ps ts) = .ok (ps.map Printed.diagnostic) := by
  rcases readOutput?_cases (printedOutput ps ts) with ⟨hok, -⟩ | ⟨-, -, -, line, hl, hlong⟩
  · rw [hok, readOutput_printedOutput h]
  · exfalso
    rw [textLines_printedOutput h] at hl
    simp only [List.mem_append, List.mem_flatMap, List.mem_map] at hl
    rcases hl with ⟨p, hp, hl⟩ | ⟨t, -, rfl⟩
    · exact Printed.not_longHeader_lines (h p hp) line hl hlong
    · exact not_longHeader_of_positioned?_eq_none
        (header?_eq_none_iff.mp t.header?_text).1 hlong

/-! ## What the reader recovers -/

/-- javac's output reads back as its diagnostics. Whatever the text, the reader gives one
diagnostic per header line, in the order of the lines, with the kind, file and line of its
header, unless a line number has more than `Text.maxIntegerDigits` digits, and then it refuses
the text; and readable diagnostics printed as javac prints them, followed by count lines, read
back as themselves. -/
theorem readOutput_recovers_printed :
    (∀ output, (∀ line ∈ output.textLines, ¬LongHeader line) →
      ∃ ds, readOutput? output = .ok ds ∧
        ds.map Diagnostic.headerFields = output.textLines.filterMap header?) ∧
    (∀ output, (∃ line ∈ output.textLines, LongHeader line) →
      ∃ count, Text.maxIntegerDigits < count ∧
        readOutput? output = .error (Text.digitLimitMessage count)) ∧
    ∀ ps ts, (∀ p ∈ ps, Printed.Readable p) →
      readOutput? (printedOutput ps ts) = .ok (ps.map Printed.diagnostic) := by
  refine ⟨fun output hshort => ?_, fun output hlong => ?_,
    fun ps ts h => readOutput?_printedOutput h ts⟩
  · rcases readOutput?_cases output with ⟨hok, -⟩ | ⟨-, -, -, line, hl, hlong⟩
    · exact ⟨_, hok, readOutput_headerFields output⟩
    · exact absurd hlong (hshort line hl)
  · rcases readOutput?_cases output with ⟨-, hshort⟩ | ⟨count, hcount, herr, -⟩
    · obtain ⟨line, hl, hlong⟩ := hlong
      exact absurd hlong (hshort line hl)
    · exact ⟨count, hcount, herr⟩

/-- An error with its source echo, caret and a detail line, and a note, followed by a count
line, read back. -/
theorem readOutput_recovers_error_and_note :
    readOutput? (printedOutput
        [.positioned true "A.java" 3 4 "cannot find symbol" "    foo();" ["  symbol: method foo()"],
          .note "Some input files use unchecked or unsafe operations."]
        [⟨1, true, false⟩]) =
      .ok [{ kind := .error, message := "cannot find symbol\n  symbol: method foo()",
             source := some "A.java", line := some 3, column := some 5 },
        { kind := .note, message := "Some input files use unchecked or unsafe operations." }] :=
  (readOutput_recovers_printed.2.2 _ _ (by
    simp only [List.mem_cons, List.not_mem_nil, or_false, forall_eq_or_imp, forall_eq]
    refine ⟨?_, ?_⟩
    · simp only [Printed.Readable]
      exact ⟨by decide, by decide, not_hasHeaderInfix_of_colon_not_mem (by decide), by decide,
        by decide, by decide, by decide, by decide⟩
    · exact ⟨by decide, not_hasHeaderInfix_of_colon_not_mem (by decide)⟩)).trans (by decide +kernel)

theorem textLines_line {line : String} (h : ¬HasLineEnd line) : (line ++ "\n").textLines = [line] := by
  simpa using textLines_join [line] (by simpa using h)

/-- A positioned header whose line number has more digits than `Text.maxIntegerDigits`. -/
theorem longHeader_of_digits {file : String} {digits : List Char} (hfile : file ≠ "")
    (hcolon : ':' ∉ file.toList) (hdigits : ∀ c ∈ digits, Text.isDigit c = true)
    (hlong : Text.maxIntegerDigits < digits.length) (isError : Bool) (message : String) :
    LongHeader (file ++ ":" ++ String.ofList digits ++ ": " ++ headerWord isError ++ ": " ++
      message) := by
  have htail : HeaderTail (digits ++ kindSeparator isError ++ message.toList) digits isError
      message.toList :=
    ⟨List.ne_nil_of_length_pos (by omega), hdigits, rfl⟩
  have hline : file ++ ":" ++ String.ofList digits ++ ": " ++ headerWord isError ++ ": " ++ message =
      String.ofList (file.toList ++ ':' :: (digits ++ kindSeparator isError ++ message.toList)) := by
    rw [← String.toList_inj]
    simp [kindSeparator]
  rw [hline, LongHeader, positioned?_header hfile (not_hasHeaderInfix_of_colon_not_mem hcolon) htail]
  simpa using hlong

/-- Four outputs on which the reader does not give back what was printed: a line number of more
than `Text.maxIntegerDigits` digits makes it refuse the text; a message without position that
holds `:3: error: ` is read as a positioned header; a header with an empty file is not read as a
header; and a file that holds a line end loses what stands before it. -/
theorem readOutput_misreads_beyond_readable :
    (∃ count, readOutput? ("A.java" ++ ":" ++ String.ofList (List.replicate 4301 '9') ++ ": " ++
      headerWord true ++ ": " ++ "c" ++ "\n") = .error (Text.digitLimitMessage count)) ∧
    readOutput (printedOutput [.positionless true "see A.java:3: error: x" []] []) =
      [{ kind := .error, message := "x", source := some "error: see A.java", line := some 3 }] ∧
    readOutput (printedOutput [.positioned true "" 2 0 "c" "x" []] []) = [] ∧
    readOutput (printedOutput [.positioned true "a\nb" 2 0 "c" "x" []] []) =
      [{ kind := .error, message := "c", source := some "b", line := some 2, column := some 1 }] := by
  refine ⟨?_, by decide +kernel, by decide +kernel, by decide +kernel⟩
  have hlong : LongHeader ("A.java" ++ ":" ++ String.ofList (List.replicate 4301 '9') ++ ": " ++
      headerWord true ++ ": " ++ "c") := longHeader_of_digits (by decide) (by decide)
    (fun c hc => by rw [(List.mem_replicate.mp hc).2]; decide)
    (by rw [List.length_replicate]; decide) true "c"
  have hend : ¬HasLineEnd ("A.java" ++ ":" ++ String.ofList (List.replicate 4301 '9') ++ ": " ++
      headerWord true ++ ": " ++ "c") := by
    simp only [hasLineEnd_append, not_or]
    refine ⟨⟨⟨⟨⟨⟨by decide, by decide⟩, ?_⟩, by decide⟩, not_hasLineEnd_headerWord true⟩, by decide⟩,
      by decide⟩
    rintro ⟨c, hc, hc'⟩
    rw [String.toList_ofList] at hc
    rw [(List.mem_replicate.mp hc).2] at hc'
    exact absurd hc' (by decide)
  rcases readOutput?_cases ("A.java" ++ ":" ++ String.ofList (List.replicate 4301 '9') ++ ": " ++
      headerWord true ++ ": " ++ "c" ++ "\n") with ⟨-, hshort⟩ | ⟨count, -, herr, -⟩
  · exact absurd hlong (hshort _ (by rw [textLines_line hend]; exact List.mem_singleton_self _))
  · exact ⟨count, herr⟩

end Javac

end JavaBuild
