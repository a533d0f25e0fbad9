import JavaBuild.Text.Surrogate

/-!
# Ordered tables

A table is a list of key-value pairs with distinct keys, kept in the order in which the keys
were first put. Putting a key that is present replaces its value in place.
-/

namespace JavaBuild.Assoc

variable {α β : Type}

/-- The table with `k` mapped to `v`: in place if present, at the end otherwise. -/
def put [BEq α] (t : List (α × β)) (k : α) (v : β) : List (α × β) :=
  if t.any (·.1 == k) then t.map fun (a, b) => if a == k then (a, v) else (a, b)
  else t ++ [(k, v)]

/-- The table with the value of `k` changed by `f`, starting from `d` if absent. -/
def modify [BEq α] (t : List (α × β)) (k : α) (d : β) (f : β → β) : List (α × β) :=
  match t.lookup k with
  | some b => put t k (f b)
  | none => t ++ [(k, f d)]

/-- The table with `k` mapped to `v` unless `k` is present. -/
def putIfAbsent [BEq α] (t : List (α × β)) (k : α) (v : β) : List (α × β) :=
  if t.any (·.1 == k) then t else t ++ [(k, v)]

/-- The keys of a table, in order. -/
def keys (t : List (α × β)) : List α := t.map (·.1)

end JavaBuild.Assoc

namespace JavaBuild

/-- Sorts texts by code points and drops repeats. -/
def sortedSet (xs : List String) : List String :=
  (xs.mergeSort Text.textLe).eraseDups

/-- Sorts texts by code points. -/
def sortTexts (xs : List String) : List String := xs.mergeSort Text.textLe

end JavaBuild
