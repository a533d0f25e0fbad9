import Mathlib.Data.List.Lex
import JavaBuild.Data.Assoc

/-!
# The order of texts

Texts are ordered by the code points of their characters, a stand-in at the place of the
surrogate it stands for (`codePoint`). No valid character has a surrogate's code, and stand-ins
take distinct surrogates, so `codePoint` is injective and `textLt` is the lexicographic order of
the lists of code points pulled back along an injective map: a strict total order. `sortTexts`
therefore sorts, and on a list without repeats it sorts strictly; on a sorted list it changes
nothing.
-/

namespace JavaBuild.Text

/-- A character's code is a Unicode scalar value: below the surrogates or above them. -/
theorem toNat_valid (c : Char) : c.toNat < 0xD800 ∨ (0xDFFF < c.toNat ∧ c.toNat < 0x110000) :=
  c.valid

theorem codePoint_eq (c : Char) : codePoint c =
    if standInFirst ≤ c.toNat then c.toNat - standInFirst + surrogateFirst else c.toNat := by
  unfold codePoint standInSurrogate?
  split <;> rfl

/-- Distinct characters have distinct code points: a stand-in takes a surrogate's code, which
no valid character has. -/
theorem codePoint_injective : Function.Injective codePoint := by
  intro a b h
  have ha := toNat_valid a
  have hb := toNat_valid b
  rw [codePoint_eq, codePoint_eq] at h
  apply Char.ext
  apply UInt32.toNat_inj.mp
  show a.toNat = b.toNat
  by_cases hA : standInFirst ≤ a.toNat <;> by_cases hB : standInFirst ≤ b.toNat <;>
    simp only [hA, hB, ↓reduceIte] at h <;> simp only [standInFirst, surrogateFirst] at * <;> omega

theorem codesLt_eq (as bs : List Char) :
    codesLt as bs = decide (as.map codePoint < bs.map codePoint) := by
  fun_induction codesLt as bs with
  | case1 => simp
  | case2 b bs => simp [List.nil_lt_cons]
  | case3 a as => simp [List.not_lt_nil]
  | case4 a as b bs h ih => simp_all
  | case5 a as b bs h => simp_all [List.cons_lt_cons_iff]

theorem textLt_eq (a b : String) :
    textLt a b = decide (a.toList.map codePoint < b.toList.map codePoint) :=
  codesLt_eq _ _

theorem textLe_eq (a b : String) :
    textLe a b = decide (a.toList.map codePoint ≤ b.toList.map codePoint) := by
  simp only [textLe, textLt_eq, ← decide_not, decide_eq_decide]
  exact not_lt

@[simp] theorem textLt_irrefl (a : String) : textLt a a = false := by
  simp [textLt_eq]

theorem textLt_trans {a b c : String} (hab : textLt a b) (hbc : textLt b c) : textLt a c := by
  simp only [textLt_eq, decide_eq_true_eq] at *
  exact lt_trans hab hbc

theorem textLt_asymm {a b : String} (h : textLt a b) : textLt b a = false := by
  simp only [textLt_eq, decide_eq_true_eq, decide_eq_false_iff_not] at *
  exact lt_asymm h

/-- Two distinct texts are in order one way or the other. -/
theorem textLt_or_textLt_of_ne {a b : String} (h : a ≠ b) : textLt a b ∨ textLt b a := by
  simp only [textLt_eq, decide_eq_true_eq]
  have hne : a.toList.map codePoint ≠ b.toList.map codePoint := fun he =>
    h (String.toList_inj.mp ((List.map_injective_iff.mpr codePoint_injective) he))
  exact lt_or_gt_of_ne hne

theorem textLt_of_textLe_of_ne {a b : String} (hle : textLe a b) (hne : a ≠ b) : textLt a b := by
  have hba : textLt b a = false := by simpa [textLe] using hle
  rcases textLt_or_textLt_of_ne hne with h | h
  · exact h
  · simp [h] at hba

theorem textLe_trans (a b c : String) (hab : textLe a b) (hbc : textLe b c) : textLe a c := by
  simp only [textLe_eq, decide_eq_true_eq] at *
  exact le_trans hab hbc

theorem textLe_total (a b : String) : (textLe a b || textLe b a) = true := by
  simp only [textLe_eq, Bool.or_eq_true, decide_eq_true_eq]
  exact le_total _ _

theorem textLe_of_textLt {a b : String} (h : textLt a b) : textLe a b := by
  simp [textLe, textLt_asymm h]

end JavaBuild.Text

namespace JavaBuild

open Text

theorem sortTexts_perm (xs : List String) : (sortTexts xs).Perm xs :=
  List.mergeSort_perm _ _

@[simp] theorem mem_sortTexts {a : String} {xs : List String} : a ∈ sortTexts xs ↔ a ∈ xs :=
  (sortTexts_perm xs).mem_iff

theorem sortTexts_sorted (xs : List String) : (sortTexts xs).Pairwise (textLe · ·) :=
  List.pairwise_mergeSort textLe_trans textLe_total xs

/-- A list without repeats sorts into a strictly increasing one. -/
theorem sortTexts_strictly_sorted {xs : List String} (h : xs.Nodup) :
    (sortTexts xs).Pairwise (textLt · ·) := by
  have hnd : (sortTexts xs).Nodup := (sortTexts_perm xs).nodup_iff.mpr h
  exact ((sortTexts_sorted xs).and hnd).imp fun ⟨hle, hne⟩ => textLt_of_textLe_of_ne hle hne

/-- A strictly increasing list is its own sort. -/
theorem sortTexts_of_sorted {xs : List String} (h : xs.Pairwise (textLt · ·)) :
    sortTexts xs = xs :=
  List.mergeSort_of_pairwise (h.imp textLe_of_textLt)

end JavaBuild
