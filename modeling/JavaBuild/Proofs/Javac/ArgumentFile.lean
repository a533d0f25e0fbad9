import Mathlib.Data.List.Basic
import JavaBuild.Javac.ArgumentFile

/-!
# An argument file reads back as its arguments

javac reads the text of an argument file back as exactly the arguments written into it, in
order, whatever they hold (`readArgumentFile_argumentFileText`).

The proof follows the reader line by line. An argument that holds no special character is
written as it is, and the reader keeps every one of its characters: none is a blank, a line end
or a quote, and it does not start with `#` (`run_plain`). Any other argument is written in
double quotes, and each of its characters is written either as itself, when it is neither a line
end nor a backslash nor the double quote, or as a backslash and a code that `unescape` takes
back to it (`escapeInQuotes_cases`); so the reader, inside the quotes, rebuilds the argument one
character at a time (`run_quoted`). Either way the line feed after the argument ends it and the
reader is between arguments again (`run_escapeArgument`).
-/

namespace JavaBuild.Javac

open ArgumentReader

/-- Inside quotes, a character is written either as itself, which the reader keeps, or as a
backslash and a code that stands for it. -/
theorem escapeInQuotes_cases (c : Char) :
    (∃ e, escapeInQuotes c = ['\\', e] ∧ unescape e = c) ∨
      (escapeInQuotes c = [c] ∧ c ≠ '\\' ∧ c ≠ '"' ∧ isLineEnd c = false) := by
  unfold escapeInQuotes
  split
  -- the last arm keeps the character, which is none of those escaped before it
  case h_8 hb _ hd hn hr _ _ => exact .inr ⟨rfl, hb, hd, by simpa [isLineEnd] using And.intro hn hr⟩
  all_goals exact .inl ⟨_, rfl, rfl⟩

/-- Reading a character that an argument written in double quotes holds as itself. -/
theorem run_kept (held : List Char) (c : Char) (cs : List Char) (hb : c ≠ '\\') (hq : c ≠ '"')
    (hl : isLineEnd c = false) :
    run (.inArgument held (some '"')) (c :: cs) = run (.inArgument (held ++ [c]) (some '"')) cs := by
  simp [run, step, stepInArgument, hb, hq, hl]

/-- Reading a backslash and the code of a character inside double quotes. -/
theorem run_backslash (held : List Char) (e : Char) (cs : List Char) :
    run (.inArgument held (some '"')) ('\\' :: e :: cs) =
      run (.inArgument (held ++ [unescape e]) (some '"')) cs := by
  simp [run, step, stepInArgument, isLineEnd]

/-- Inside double quotes, the escaped characters of an argument are read back one by one, and
the closing quote and the line feed end the argument. -/
theorem run_quoted (held cs rest : List Char) :
    run (.inArgument held (some '"')) (cs.flatMap escapeInQuotes ++ '"' :: '\n' :: rest) =
      String.ofList (held ++ cs) :: run .between rest := by
  induction cs generalizing held with
  | nil => simp [run, step, stepInArgument, isLineEnd, isArgumentBlank]
  | cons c cs ih =>
    rw [List.flatMap_cons, List.append_assoc]
    rcases escapeInQuotes_cases c with ⟨e, he, hu⟩ | ⟨he, hb, hq, hl⟩
    · rw [he, List.cons_append, List.cons_append, List.nil_append, run_backslash, hu, ih]
      simp
    · rw [he, List.cons_append, List.nil_append, run_kept held c _ hb hq hl, ih]
      simp

/-- Outside quotes, the reader keeps every character that is no blank, line end or quote, and
the line feed ends the argument. -/
theorem run_plain (held cs rest : List Char)
    (hcs : ∀ c ∈ cs, isArgumentBlank c = false ∧ isLineEnd c = false ∧ c ≠ '\'' ∧ c ≠ '"') :
    run (.inArgument held none) (cs ++ '\n' :: rest) =
      String.ofList (held ++ cs) :: run .between rest := by
  induction cs generalizing held with
  | nil => simp [run, step, stepInArgument, isLineEnd]
  | cons c cs ih =>
    obtain ⟨hb, hl, hq, hd⟩ := hcs c (List.mem_cons_self ..)
    have hquote : (c == '\'' || c == '"') = false := by simp [hq, hd]
    have hrest := ih (held ++ [c]) fun d hd => hcs d (List.mem_cons_of_mem _ hd)
    simp only [List.cons_append, run, step, stepInArgument, hb, hl, hquote, Bool.or_false,
      Bool.false_eq_true, ↓reduceIte, Option.toList_none, List.nil_append]
    rw [hrest]
    simp

/-- A character that forces no quotes is none of the characters the reader treats apart outside
quotes. -/
theorem plain_char {c : Char} (h : specialChars.contains c = false) :
    isArgumentBlank c = false ∧ isLineEnd c = false ∧ c ≠ '\'' ∧ c ≠ '"' ∧ c ≠ '#' := by
  have h' : c ∉ specialChars := by simpa using h
  simp only [specialChars, List.mem_cons, List.not_mem_nil, not_or] at h'
  obtain ⟨hs, hq, hd, hn, hr, ht, hf, hh, -⟩ := h'
  exact ⟨by simp [isArgumentBlank, hs, ht, hf], by simp [isLineEnd, hn, hr], hq, hd, hh⟩

/-- The written form of an argument that holds a special character: in double quotes, each
character escaped. -/
theorem escapeArgument_of_special {a : String} (he : a.isEmpty = false)
    (hs : a.toList.any specialChars.contains = true) :
    (escapeArgument a).toList = '"' :: (a.toList.flatMap escapeInQuotes ++ ['"']) := by
  simp [escapeArgument, he, hs]

/-- The written form of an argument without special character: the argument itself. -/
theorem escapeArgument_of_plain {a : String} (he : a.isEmpty = false)
    (hs : a.toList.any specialChars.contains = false) : escapeArgument a = a := by
  simp [escapeArgument, he, hs]

/-- An argument written on its line, followed by more lines, reads as that argument and then
whatever the following lines hold. -/
theorem run_escapeArgument (a : String) (rest : List Char) :
    run .between ((escapeArgument a).toList ++ '\n' :: rest) = a :: run .between rest := by
  cases he : a.isEmpty
  case true =>
    have ha : a = "" := String.isEmpty_iff.mp he
    subst ha
    simp [escapeArgument, run, step, stepInArgument, isLineEnd, isArgumentBlank]
  case false =>
    cases hs : a.toList.any specialChars.contains
    case true =>
      -- the opening quote starts a quoted section, read up to the closing quote
      have hopen : run .between ('"' :: (a.toList.flatMap escapeInQuotes ++ '"' :: '\n' :: rest)) =
          run (.inArgument [] (some '"')) (a.toList.flatMap escapeInQuotes ++ '"' :: '\n' :: rest) := by
        simp [run, step, stepInArgument, isLineEnd, isArgumentBlank]
      rw [escapeArgument_of_special he hs, List.cons_append, List.append_assoc, List.singleton_append,
        hopen, run_quoted]
      simp
    case false =>
      have hplain : ∀ c ∈ a.toList, specialChars.contains c = false := by
        simpa using hs
      obtain ⟨c, cs, hcs⟩ : ∃ c cs, a.toList = c :: cs := by
        cases h : a.toList with
        | nil => simp [String.toList_eq_nil_iff.mp h] at he
        | cons c cs => exact ⟨c, cs, rfl⟩
      -- the first character is no `#`, so it starts the argument rather than a comment
      obtain ⟨hb, hl, hq, hd, hh⟩ := plain_char (hplain c (by simp [hcs]))
      have hquote : (c == '\'' || c == '"') = false := by simp [hq, hd]
      have hfirst : run .between (c :: (cs ++ '\n' :: rest)) =
          run (.inArgument [c] none) (cs ++ '\n' :: rest) := by
        simp [run, step, stepInArgument, hb, hl, hquote, hh]
      have hmore : ∀ d ∈ cs, isArgumentBlank d = false ∧ isLineEnd d = false ∧ d ≠ '\'' ∧ d ≠ '"' :=
        fun d hd =>
          let ⟨b, l, q, d', _⟩ := plain_char (hplain d (by simp [hcs, hd]))
          ⟨b, l, q, d'⟩
      rw [escapeArgument_of_plain he hs, hcs, List.cons_append, hfirst, run_plain [c] cs rest hmore,
        List.singleton_append, ← hcs, String.ofList_toList]

/-- javac reads the text of an argument file back as exactly the arguments written into it, in
their order. -/
theorem readArgumentFile_argumentFileText (args : List String) :
    readArgumentFile (argumentFileText args) = args := by
  suffices h : ∀ rest : List Char,
      run .between ((argumentFileText args).toList ++ rest) = args ++ run .between rest by
    simpa [readArgumentFile, run, finish] using h []
  induction args with
  | nil => simp [argumentFileText]
  | cons a args ih =>
    intro rest
    have htext : (argumentFileText (a :: args)).toList =
        (escapeArgument a).toList ++ '\n' :: (argumentFileText args).toList := by
      simp [argumentFileText]
    rw [htext, List.append_assoc, List.cons_append, run_escapeArgument, ih]
    rfl

end JavaBuild.Javac
