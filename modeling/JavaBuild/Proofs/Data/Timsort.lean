import Mathlib.Data.List.Basic
import JavaBuild.Data.Timsort

/-!
# Timsort leaves an ascending input as it is

When no element of the input is less than the one before it, the whole input is one ascending
natural run (`countRun`), at least as long as the least run (`minRun_le`), and it is the only run
ever pushed: the stack holds one run and nothing is merged. The sort then returns its input, and
the only comparisons it makes are those of each element with the one before it, so a comparison
that would fail on another pair is never asked (`sortList_of_isChain`).
-/

namespace JavaBuild.Timsort

variable {α ε : Type} [Inhabited α] {lt : Less α ε}

theorem minRun_go_le (n r fuel : Nat) (hr : r ≤ 1) : minRun.go n r fuel ≤ n + r := by
  induction fuel generalizing n r with
  | zero => simp [minRun.go]
  | succ fuel ih =>
    rw [minRun.go]
    split
    · -- the halving keeps one bit of what it drops
      have hbit : r ||| n % 2 < 2 ^ 1 := Nat.or_lt_two_pow (by omega) (by omega)
      have := ih (n / 2) (r ||| n % 2) (by omega)
      omega
    · exact Nat.le_refl _

/-- The least run is never longer than the input. -/
theorem minRun_le (n : Nat) : minRun n ≤ n := by
  unfold minRun
  simpa using minRun_go_le n 0 n (Nat.zero_le 1)

/-- No element of the array is less than the one before it. -/
def Ascends (lt : Less α ε) (xs : Array α) : Prop :=
  ∀ i, i + 1 < xs.size → lt (elem xs (i + 1)) (elem xs i) = .ok false

/-- An ascending run goes on to the end. -/
theorem countRun_go_of_ascends {xs : Array α} (h : Ascends lt xs) {hi : Nat} (hhi : hi ≤ xs.size) :
    ∀ fuel i n, 1 ≤ i → hi - i ≤ fuel →
      countRun.go lt xs hi false i n fuel = .ok (n + (hi - i))
  | 0, i, n, _, hf => by
    rw [countRun.go, show hi - i = 0 by omega]
    rfl
  | fuel + 1, i, n, hi1, hf => by
    rw [countRun.go]
    by_cases hend : hi ≤ i
    · simp only [hend, if_true, pure, Except.pure]
      rw [show hi - i = 0 by omega]
      rfl
    · have hlt : lt (elem xs i) (elem xs (i - 1)) = .ok false := by
        have := h (i - 1) (by omega)
        rwa [Nat.sub_add_cancel hi1] at this
      have hrest := countRun_go_of_ascends h hhi fuel (i + 1) (n + 1) (by omega) (by omega)
      simp only [hend, hlt, hrest, if_false, bind, Except.bind, pure, Except.pure, beq_self_eq_true,
        if_true]
      rw [show n + 1 + (hi - (i + 1)) = n + (hi - i) by omega]

/-- An ascending input is one run. -/
theorem countRun_of_ascends {xs : Array α} (h : Ascends lt xs) (hn : 2 ≤ xs.size) :
    countRun lt xs 0 xs.size = .ok (xs.size, false) := by
  have h1 : lt (elem xs 1) (elem xs 0) = .ok false := h 0 (by omega)
  have hgo := countRun_go_of_ascends h (Nat.le_refl _) xs.size 2 2 (by omega) (by omega)
  simp only [countRun, Nat.zero_add, Nat.sub_zero, h1, hgo, bind, Except.bind, pure, Except.pure]
  rw [if_neg (by omega)]
  simp only [Bool.false_eq_true, if_false]
  congr 3
  omega

/-- The runs of an ascending input: the input itself, pushed on the empty stack. -/
theorem runs_of_ascends {xs : Array α} (h : Ascends lt xs) (hn : 2 ≤ xs.size) (g : Nat) :
    sort.runs lt ⟨xs, #[], g⟩ 0 (xs.size + 1) = .ok ⟨xs, #[⟨0, xs.size, 0⟩], g⟩ := by
  have hrun := countRun_of_ascends h hn
  have hmin : ¬ xs.size < minRun xs.size := Nat.not_lt.mpr (minRun_le xs.size)
  obtain ⟨m, hm⟩ : ∃ m, xs.size = m + 1 := ⟨xs.size - 1, by omega⟩
  rw [sort.runs]
  simp only [Nat.le_zero, hrun, hmin, bind, Except.bind, pure, Except.pure, if_false,
    Bool.false_eq_true, pushRun, Array.isEmpty]
  rw [if_neg (by omega)]
  simp only [Nat.zero_add, hm, Array.size_empty, decide_true, if_true]
  rw [sort.runs, if_pos (by simp [hm])]
  rfl

/-- With one run or none, nothing is left to merge. -/
theorem forceCollapse_of_size_le_one (st : State α) (hst : st.runs.size ≤ 1) (fuel : Nat) :
    forceCollapse lt st fuel = .ok st := by
  cases fuel with
  | zero => rfl
  | succ fuel => simp [forceCollapse, hst, pure, Except.pure]

/-- An ascending array sorts into itself. -/
theorem sort_of_ascends {xs : Array α} (h : Ascends lt xs) : sort lt xs = .ok xs := by
  by_cases hn : xs.size < 2
  · simp [sort, hn, pure, Except.pure]
  · have hruns := runs_of_ascends h (by omega) initialGallop
    simp only [sort, hn, if_false, hruns, bind, Except.bind]
    rw [forceCollapse_of_size_le_one _ (by simp)]
    rfl

/-- A list in which no element is less than the one before it sorts into itself. -/
theorem sortList_of_isChain {xs : List α} (h : xs.IsChain fun a b => lt b a = .ok false) :
    sortList lt xs = .ok xs := by
  have hasc : Ascends lt xs.toArray := by
    intro i hi
    have := List.isChain_iff_getElem.mp h i (by simpa using hi)
    simpa [elem, List.getElem?_eq_getElem (show i < xs.length by simp at hi; omega),
      List.getElem?_eq_getElem (show i + 1 < xs.length by simpa using hi)] using this
  simp [sortList, sort_of_ascends hasc, Except.map]

end JavaBuild.Timsort
