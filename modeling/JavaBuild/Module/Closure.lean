import JavaBuild.Module.Descriptor
import JavaBuild.Text.Printable

/-!
# Closures of module graphs

`closure` collects the modules that a list of roots requires, directly or through other modules,
among a set of observable modules. A root is a module name, looked up among the observable
modules, or a descriptor of its own. Only the requirements whose modifiers pass a test are
followed, and a module is entered once by name, so cycles end.

The walk is depth-first, in the order of the roots and of each module's requirements, and the
first name that no observable module has stops it with an error when the walk is strict; a
lenient walk passes over it. Of two observable modules with one name, the later is the one
found.

The walk ends because every step either drops a pending name or reaches a new observable name:
the measure is the number of observable names not reached yet, then the number of pending names.
-/

namespace JavaBuild.Module

/-- A name required by the walk that no observable module has; `known` are the observable
names, sorted. -/
structure NotObservable where
  name : String
  known : List String
deriving DecidableEq, Repr

/-- The message of a name that is not observable. -/
def NotObservable.message (e : NotObservable) : String :=
  s!"{e.name} is not in the set of observable modules {Text.listLiteral e.known}"

/-- Where a closure starts: a module by name, or a descriptor. -/
inductive Root where
  | named (name : String)
  | given (d : Descriptor)
deriving Inhabited

/-- The observable module of a name; of two with that name, the later. -/
def lookup (mods : List Descriptor) (name : String) : Option Descriptor :=
  mods.reverse.find? (·.name == name)

theorem lookup_mem {mods : List Descriptor} {name : String} {d : Descriptor}
    (h : lookup mods name = some d) : d ∈ mods :=
  List.mem_reverse.1 (List.mem_of_find?_eq_some h)

theorem lookup_name {mods : List Descriptor} {name : String} {d : Descriptor}
    (h : lookup mods name = some d) : d.name = name := by
  have := List.find?_some h
  simpa using this

/-- The names required by a module along requirements whose modifiers pass `follow`. -/
def followed (follow : List String → Bool) (d : Descriptor) : List String :=
  (d.requires.filter fun r => follow r.2).map (·.1)

/-- The names of `names` not yet in `reached`. -/
def unreached (names reached : List String) : Nat :=
  (names.filter fun n => !reached.contains n).length

theorem filter_length_le {α : Type} {p q : α → Bool} (himp : ∀ x, q x = true → p x = true) :
    ∀ l : List α, (l.filter q).length ≤ (l.filter p).length
  | [] => by simp
  | a :: rest => by
    have ih := filter_length_le himp rest
    by_cases hq : q a = true
    · simp [hq, himp a hq]
      exact ih
    · by_cases hp : p a = true
      · simp [hq, hp]
        omega
      · simp [hq, hp]
        exact ih

theorem filter_length_lt {α : Type} {p q : α → Bool} (himp : ∀ x, q x = true → p x = true)
    {n : α} (hp : p n = true) (hq : q n = false) :
    ∀ l : List α, n ∈ l → (l.filter q).length < (l.filter p).length
  | [] => by simp
  | a :: rest => by
    intro hn
    have hle := filter_length_le himp rest
    rcases List.mem_cons.1 hn with h | h
    · subst h
      simp [hq, hp]
      omega
    · have ih := filter_length_lt himp hp hq rest h
      by_cases hqa : q a = true
      · simp [hqa, himp a hqa]
        exact ih
      · by_cases hpa : p a = true
        · simp [hqa, hpa]
          omega
        · simp [hqa, hpa]
          exact ih

theorem unreached_lt {names reached : List String} {n : String} (hu : n ∈ names)
    (hr : n ∉ reached) : unreached names (reached ++ [n]) < unreached names reached := by
  unfold unreached
  apply filter_length_lt _ _ _ names hu
  · intro x hx
    simp_all
  · simpa using hr
  · simp

/-- Walks the pending names depth-first, adding each observable module reached to `reached`. -/
def walk (mods : List Descriptor) (follow : List String → Bool) (strict : Bool)
    (reached : List String) (pending : List String) : Except NotObservable (List String) :=
  match pending with
  | [] => .ok reached
  | name :: rest =>
    match _h : lookup mods name with
    | none =>
      if strict then .error ⟨name, sortedSet (mods.map (·.name))⟩
      else walk mods follow strict reached rest
    | some d =>
      if _hr : d.name ∈ reached then walk mods follow strict reached rest
      else walk mods follow strict (reached ++ [d.name]) (followed follow d ++ rest)
termination_by (unreached (mods.map (·.name)) reached, pending.length)
decreasing_by
  · exact Prod.Lex.right _ (by simp)
  · exact Prod.Lex.right _ (by simp)
  · exact Prod.Lex.left _ _
      (unreached_lt (List.mem_map_of_mem (lookup_mem _h)) _hr)

/-- Enters one root. -/
def enterRoot (mods : List Descriptor) (follow : List String → Bool) (strict : Bool)
    (reached : List String) : Root → Except NotObservable (List String)
  | .named n => walk mods follow strict reached [n]
  | .given d =>
    if reached.contains d.name then .ok reached
    else walk mods follow strict (reached ++ [d.name]) (followed follow d)

/-- The names of the modules reached from the roots, in the order they were reached. -/
def reach (mods : List Descriptor) (roots : List Root) (follow : List String → Bool := fun _ => true)
    (strict : Bool := true) : Except NotObservable (List String) :=
  roots.foldlM (enterRoot mods follow strict) []

/-- The sorted names of the closure of the roots. -/
def closureNames (mods : List Descriptor) (roots : List Root)
    (follow : List String → Bool := fun _ => true) (strict : Bool := true) :
    Except NotObservable (List String) :=
  sortedSet <$> reach mods roots follow strict

end JavaBuild.Module
