import Mathlib.Data.List.Nodup

/-!
# Lists without repeats

`List.eraseDups` keeps the first occurrence of each element, so its result has no repeats. The
change tracker's lists of files and the module lists of a resolved patch are built with it.
-/

namespace JavaBuild

theorem eraseDups_nodup {α : Type} [BEq α] [LawfulBEq α] : ∀ l : List α, l.eraseDups.Nodup
  | [] => by simp
  | a :: as => by
    rw [List.eraseDups_cons, List.nodup_cons]
    refine ⟨?_, eraseDups_nodup _⟩
    simp [List.mem_eraseDups]
termination_by l => l.length
decreasing_by exact Nat.lt_succ_of_le (List.length_filter_le _ _)

end JavaBuild
