/-!
# Sorting with a comparison that may fail

Stored values are put in order with a comparison that can refuse a pair: a text and a number
cannot be compared. Which pair is refused first, and the order that values that are not totally
ordered (a NaN among numbers) end up in, depend on the exact comparisons the sort makes. `sort`
is the adaptive merge sort known as timsort, comparison for comparison:

1. the input is cut into natural runs, each ascending, or strictly descending and then
   reversed (`countRun`); a run shorter than `minRun` is extended by binary insertion
   (`binaryInsert`);
2. each run is pushed on a stack, and runs are merged while the run below the top has a greater
   *power* than the boundary of the new run (`power`), the power being the first bit in which
   the midpoints of the two runs differ, as fractions of the input length;
3. a merge first skips the elements already in place at both ends by galloping
   (`gallopRight`, `gallopLeft`), then merges from the front when the left run is the shorter
   (`mergeLow`) or from the back (`mergeHigh`), switching to galloping while one run keeps
   winning, with a threshold (`minGallop`) that adapts to how well galloping pays;
4. at the end the remaining runs are merged from the top of the stack.

The sort is stable. The first comparison that fails ends it with its error. Every loop carries an
explicit fuel, the number of elements involved plus one, which each round consumes at least one
of.
-/

namespace JavaBuild.Timsort

variable {α ε : Type}

/-- A comparison: whether the first value is less than the second, or why the two cannot be
compared. -/
abbrev Less (α ε : Type) := α → α → Except ε Bool

/-- The element at an index, or the default value past the end. -/
def elem [Inhabited α] (xs : Array α) (i : Nat) : α := xs[i]?.getD default

/-- The elements from `lo` to `hi`. -/
def slice (xs : Array α) (lo hi : Nat) : Array α := xs.extract lo hi

/-- The array with the elements from `lo` to `hi` replaced by `seg`. -/
def splice (xs : Array α) (lo hi : Nat) (seg : Array α) : Array α :=
  xs.extract 0 lo ++ seg ++ xs.extract hi xs.size

/-- The number of galloping wins in a row that makes merging gallop at first. -/
def initialGallop : Nat := 7

/-- The least length of a run for an input of `n` elements: `n` itself below 64, else a number
from 32 to 64 such that `n` divided by it is a power of two or a little less. -/
def minRun (n : Nat) : Nat := go n 0 n
where
  go (n r : Nat) : Nat → Nat
    | 0 => n + r
    | fuel + 1 => if n ≥ 64 then go (n / 2) (r ||| n % 2) fuel else n + r

/-- The length of the natural run from `lo` (not past `hi`) and whether it descends. A run
ascends while no element is less than the one before it, and descends while each is less. -/
def countRun [Inhabited α] (lt : Less α ε) (xs : Array α) (lo hi : Nat) :
    Except ε (Nat × Bool) := do
  if hi ≤ lo + 1 then return (1, false)
  if ← lt (elem xs (lo + 1)) (elem xs lo) then return (← go true (lo + 2) 2 (hi - lo), true)
  else return (← go false (lo + 2) 2 (hi - lo), false)
where
  go (descending : Bool) (i n : Nat) : Nat → Except ε Nat
    | 0 => pure n
    | fuel + 1 => do
      if hi ≤ i then return n
      let less ← lt (elem xs i) (elem xs (i - 1))
      if less == descending then go descending (i + 1) (n + 1) fuel else return n

/-- The place of `pivot` among the sorted elements from `l` to `r`: after every element it is not
less than, found by halving. -/
def insertionPoint [Inhabited α] (lt : Less α ε) (xs : Array α) (pivot : α) :
    Nat → Nat → Nat → Except ε Nat
  | l, _, 0 => pure l
  | l, r, fuel + 1 => do
    if r ≤ l then return l
    let p := l + (r - l) / 2
    if ← lt pivot (elem xs p) then insertionPoint lt xs pivot l p fuel
    else insertionPoint lt xs pivot (p + 1) r fuel

/-- Sorts the elements from `lo` to `hi`, of which those before `start` are sorted, by inserting
each following element at its place. -/
def binaryInsert [Inhabited α] (lt : Less α ε) (xs : Array α) (lo hi start : Nat) :
    Except ε (Array α) :=
  go xs (if start == lo then start + 1 else start) (hi - start + 1)
where
  go (xs : Array α) (start : Nat) : Nat → Except ε (Array α)
    | 0 => pure xs
    | fuel + 1 => do
      if hi ≤ start then return xs
      let pivot := elem xs start
      let l ← insertionPoint lt xs pivot lo start (start - lo + 1)
      let moved := splice xs l (start + 1) (#[pivot] ++ slice xs l start)
      go moved (start + 1) fuel

/-- The power of the boundary between a run of `n1` elements from `s1` and the run of `n2`
elements after it, in an input of `n`: the position of the first bit in which the binary
fractions of their midpoints differ. -/
def power (s1 n1 n2 n : Nat) : Nat := go (2 * s1 + n1) (2 * s1 + 2 * n1 + n2) 0 (n + 2)
where
  go (a b result : Nat) : Nat → Nat
    | 0 => result + 1
    | fuel + 1 =>
      if a ≥ n then go (2 * (a - n)) (2 * (b - n)) (result + 1) fuel
      else if b ≥ n then result + 1
      else go (2 * a) (2 * b) (result + 1) fuel

/-- Galloping to the right from `hint`: while `ahead ofs` holds, the offset becomes `2·ofs + 1`;
the last offset that held and the first that did not, up to `maxofs`. -/
def gallopOut (ahead : Nat → Except ε Bool) (maxofs : Nat) :
    Nat → Nat → Nat → Except ε (Nat × Nat)
  | lastofs, ofs, 0 => pure (lastofs, min ofs maxofs)
  | lastofs, ofs, fuel + 1 => do
    if maxofs ≤ ofs then return (lastofs, maxofs)
    if ← ahead ofs then gallopOut ahead maxofs ofs (2 * ofs + 1) fuel
    else return (lastofs, ofs)

/-- The least index from `lo` to `hi` at which `before` fails, for a `before` that holds up to
some index and fails from there on, found by halving. -/
def boundary (before : Nat → Except ε Bool) : Nat → Nat → Nat → Except ε Nat
  | lo, _, 0 => pure lo
  | lo, hi, fuel + 1 => do
    if hi ≤ lo then return hi
    let m := lo + (hi - lo) / 2
    if ← before m then boundary before (m + 1) hi fuel else boundary before lo m fuel

/-- The place of `key` in the sorted `a` before every element not less than it, searched from
`hint`: the number of elements less than `key`. -/
def gallopLeft [Inhabited α] (lt : Less α ε) (key : α) (a : Array α) (hint : Nat) :
    Except ε Nat := do
  let n := a.size
  let fuel := n + 1
  let (lo, hi) ← if ← lt (elem a hint) key then do
      let (lastofs, ofs) ← gallopOut (fun ofs => lt (elem a (hint + ofs)) key) (n - hint) 0 1 fuel
      pure (lastofs + hint + 1, ofs + hint)
    else do
      let (lastofs, ofs) ← gallopOut (fun ofs => do return !(← lt (elem a (hint - ofs)) key))
        (hint + 1) 0 1 fuel
      pure (hint + 1 - ofs, hint - lastofs)
  boundary (fun m => lt (elem a m) key) lo hi fuel

/-- The place of `key` in the sorted `a` after every element it is not less than, searched from
`hint`: the number of elements not greater than `key`. -/
def gallopRight [Inhabited α] (lt : Less α ε) (key : α) (a : Array α) (hint : Nat) :
    Except ε Nat := do
  let n := a.size
  let fuel := n + 1
  let (lo, hi) ← if ← lt key (elem a hint) then do
      let (lastofs, ofs) ← gallopOut (fun ofs => lt key (elem a (hint - ofs))) (hint + 1) 0 1 fuel
      pure (hint + 1 - ofs, hint - lastofs)
    else do
      let (lastofs, ofs) ← gallopOut (fun ofs => do return !(← lt key (elem a (hint + ofs))))
        (n - hint) 0 1 fuel
      pure (lastofs + hint + 1, ofs + hint)
  boundary (fun m => do return !(← lt key (elem a m))) lo hi fuel

/-- Where a merge stands: the next elements of both runs and what is merged so far. -/
structure Merging (α : Type) where
  /-- The left run. -/
  a : Array α
  /-- The right run. -/
  b : Array α
  /-- From the front: the next index of each run; from the back: the number left of each. -/
  i : Nat
  j : Nat
  /-- The merged elements: from the front, in order; from the back, the finished end. -/
  done : Array α
  /-- The galloping threshold. -/
  gallop : Nat

/-- Merges two adjacent sorted runs from the front, `a` being the shorter and its first element
belonging after the first of `b`, and the last of `a` after every element of `b`. The merged
elements and the galloping threshold after. -/
def mergeLow [Inhabited α] (lt : Less α ε) (a b : Array α) (gallop : Nat) :
    Except ε (Array α × Nat) := do
  let s : Merging α := { a, b, i := 0, j := 1, done := #[elem b 0], gallop }
  if b.size == 1 then return finish s
  if a.size == 1 then return copyB s
  linear s 0 0 (a.size + b.size + 1)
where
  /-- What is left of `a` follows the merged elements, then what is left of `b`. -/
  finish (s : Merging α) : Array α × Nat :=
    (s.done ++ slice s.a s.i s.a.size ++ slice s.b s.j s.b.size, s.gallop)
  /-- The one element left of `a` goes after all that is left of `b`. -/
  copyB (s : Merging α) : Array α × Nat :=
    (s.done ++ slice s.b s.j s.b.size ++ #[elem s.a s.i], s.gallop)
  /-- One element at a time, counting the wins in a row of each run. -/
  linear (s : Merging α) (acount bcount : Nat) : Nat → Except ε (Array α × Nat)
    | 0 => pure (finish s)
    | fuel + 1 => do
      if ← lt (elem s.b s.j) (elem s.a s.i) then
        let s := { s with done := s.done.push (elem s.b s.j), j := s.j + 1 }
        if s.j == s.b.size then return finish s
        if bcount + 1 ≥ s.gallop then galloping { s with gallop := s.gallop + 1 } fuel
        else linear s 0 (bcount + 1) fuel
      else
        let s := { s with done := s.done.push (elem s.a s.i), i := s.i + 1 }
        if s.i + 1 == s.a.size then return copyB s
        if acount + 1 ≥ s.gallop then galloping { s with gallop := s.gallop + 1 } fuel
        else linear s (acount + 1) 0 fuel
  /-- Runs of elements at a time, found by galloping, while a run of either is long. -/
  galloping (s : Merging α) : Nat → Except ε (Array α × Nat)
    | 0 => pure (finish s)
    | fuel + 1 => do
      let s := { s with gallop := s.gallop - (if s.gallop > 1 then 1 else 0) }
      let k ← gallopRight lt (elem s.b s.j) (slice s.a s.i s.a.size) 0
      let s := { s with done := s.done ++ slice s.a s.i (s.i + k), i := s.i + k }
      if k > 0 && s.i + 1 == s.a.size then return copyB s
      if k > 0 && s.i == s.a.size then return finish s
      let s := { s with done := s.done.push (elem s.b s.j), j := s.j + 1 }
      if s.j == s.b.size then return finish s
      let k' ← gallopLeft lt (elem s.a s.i) (slice s.b s.j s.b.size) 0
      let s := { s with done := s.done ++ slice s.b s.j (s.j + k'), j := s.j + k' }
      if k' > 0 && s.j == s.b.size then return finish s
      let s := { s with done := s.done.push (elem s.a s.i), i := s.i + 1 }
      if s.i + 1 == s.a.size then return copyB s
      if k ≥ initialGallop || k' ≥ initialGallop then galloping s fuel
      else linear { s with gallop := s.gallop + 1 } 0 0 fuel

/-- Merges two adjacent sorted runs from the back, `b` being the shorter, under the same
conditions as `mergeLow`. Here `i` and `j` count the elements left of `a` and `b`, and `done`
is the merged end. -/
def mergeHigh [Inhabited α] (lt : Less α ε) (a b : Array α) (gallop : Nat) :
    Except ε (Array α × Nat) := do
  let s : Merging α :=
    { a, b, i := a.size - 1, j := b.size, done := #[elem a (a.size - 1)], gallop }
  if s.i == 0 then return finish s
  if s.j == 1 then return copyA s
  linear s 0 0 (a.size + b.size + 1)
where
  /-- What is left of `a`, then what is left of `b`, precede the merged end. -/
  finish (s : Merging α) : Array α × Nat :=
    (slice s.a 0 s.i ++ slice s.b 0 s.j ++ s.done, s.gallop)
  /-- The one element left of `b` goes before all that is left of `a`. -/
  copyA (s : Merging α) : Array α × Nat :=
    (#[elem s.b 0] ++ slice s.a 0 s.i ++ s.done, s.gallop)
  /-- One element at a time from the back, counting the wins in a row of each run. -/
  linear (s : Merging α) (acount bcount : Nat) : Nat → Except ε (Array α × Nat)
    | 0 => pure (finish s)
    | fuel + 1 => do
      if ← lt (elem s.b (s.j - 1)) (elem s.a (s.i - 1)) then
        let s := { s with done := #[elem s.a (s.i - 1)] ++ s.done, i := s.i - 1 }
        if s.i == 0 then return finish s
        if acount + 1 ≥ s.gallop then galloping { s with gallop := s.gallop + 1 } fuel
        else linear s (acount + 1) 0 fuel
      else
        let s := { s with done := #[elem s.b (s.j - 1)] ++ s.done, j := s.j - 1 }
        if s.j == 1 then return copyA s
        if bcount + 1 ≥ s.gallop then galloping { s with gallop := s.gallop + 1 } fuel
        else linear s 0 (bcount + 1) fuel
  /-- Runs of elements at a time from the back, found by galloping, while a run of either is
  long. -/
  galloping (s : Merging α) : Nat → Except ε (Array α × Nat)
    | 0 => pure (finish s)
    | fuel + 1 => do
      let s := { s with gallop := s.gallop - (if s.gallop > 1 then 1 else 0) }
      let k := s.i - (← gallopRight lt (elem s.b (s.j - 1)) (slice s.a 0 s.i) (s.i - 1))
      let s := { s with done := slice s.a (s.i - k) s.i ++ s.done, i := s.i - k }
      if k > 0 && s.i == 0 then return finish s
      let s := { s with done := #[elem s.b (s.j - 1)] ++ s.done, j := s.j - 1 }
      if s.j == 1 then return copyA s
      let k' := s.j - (← gallopLeft lt (elem s.a (s.i - 1)) (slice s.b 0 s.j) (s.j - 1))
      let s := { s with done := slice s.b (s.j - k') s.j ++ s.done, j := s.j - k' }
      if k' > 0 && s.j == 1 then return copyA s
      if k' > 0 && s.j == 0 then return finish s
      let s := { s with done := #[elem s.a (s.i - 1)] ++ s.done, i := s.i - 1 }
      if s.i == 0 then return finish s
      if k ≥ initialGallop || k' ≥ initialGallop then galloping s fuel
      else linear { s with gallop := s.gallop + 1 } 0 0 fuel

/-- A pending run: where it starts, its length, and the power of its boundary with the next. -/
structure Run where
  start : Nat
  len : Nat
  power : Nat := 0

/-- The state of a sort: the elements, the stack of pending runs, and the galloping threshold. -/
structure State (α : Type) where
  xs : Array α
  runs : Array Run
  gallop : Nat

/-- The pending run at an index. -/
def runAt (runs : Array Run) (i : Nat) : Run := runs[i]?.getD ⟨0, 0, 0⟩

/-- Merges the pending runs `i` and `i + 1`. -/
def mergeAt [Inhabited α] (lt : Less α ε) (st : State α) (i : Nat) : Except ε (State α) := do
  let ra := runAt st.runs i
  let rb := runAt st.runs (i + 1)
  let runs := st.runs.set! i { ra with len := ra.len + rb.len }
  let runs := if i + 3 == runs.size then runs.set! (i + 1) (runAt runs (i + 2)) else runs
  let st := { st with runs := runs.pop }
  let a := slice st.xs ra.start (ra.start + ra.len)
  let b := slice st.xs rb.start (rb.start + rb.len)
  let k ← gallopRight lt (elem b 0) a 0
  if k == a.size then return st
  let a := slice a k a.size
  let nb ← gallopLeft lt (elem a (a.size - 1)) b (b.size - 1)
  if nb == 0 then return st
  let b := slice b 0 nb
  let (merged, gallop) ← if a.size ≤ b.size then mergeLow lt a b st.gallop
    else mergeHigh lt a b st.gallop
  return { st with xs := splice st.xs (ra.start + k) (rb.start + nb) merged, gallop }

/-- Pushes a new run of `len` elements from `lo`, first merging the runs below whose power
exceeds that of its boundary. -/
def pushRun [Inhabited α] (lt : Less α ε) (st : State α) (lo len : Nat) :
    Except ε (State α) := do
  if st.runs.isEmpty then return { st with runs := #[⟨lo, len, 0⟩] }
  let top := runAt st.runs (st.runs.size - 1)
  let p := power top.start top.len len st.xs.size
  let st ← collapse st p (st.runs.size + 1)
  let runs := st.runs.set! (st.runs.size - 1) { runAt st.runs (st.runs.size - 1) with power := p }
  return { st with runs := runs.push ⟨lo, len, 0⟩ }
where
  collapse (st : State α) (p : Nat) : Nat → Except ε (State α)
    | 0 => pure st
    | fuel + 1 => do
      if st.runs.size > 1 && (runAt st.runs (st.runs.size - 2)).power > p then
        collapse (← mergeAt lt st (st.runs.size - 2)) p fuel
      else return st

/-- Merges all pending runs, the top two at a time, or the two below the top when the run
below them is the shorter than the top. -/
def forceCollapse [Inhabited α] (lt : Less α ε) (st : State α) : Nat → Except ε (State α)
  | 0 => pure st
  | fuel + 1 => do
    if st.runs.size ≤ 1 then return st
    let n := st.runs.size - 2
    let n := if n > 0 && (runAt st.runs (n - 1)).len < (runAt st.runs (n + 1)).len then n - 1
      else n
    forceCollapse lt (← mergeAt lt st n) fuel

/-- The elements in ascending order, stable, or the error of the first comparison that fails. -/
def sort [Inhabited α] (lt : Less α ε) (xs : Array α) : Except ε (Array α) := do
  let n := xs.size
  if n < 2 then return xs
  let st ← runs { xs, runs := #[], gallop := initialGallop } 0 (n + 1)
  return (← forceCollapse lt st (st.runs.size + 1)).xs
where
  runs (st : State α) (lo : Nat) : Nat → Except ε (State α)
    | 0 => pure st
    | fuel + 1 => do
      let n := st.xs.size
      if n ≤ lo then return st
      let (len, descending) ← countRun lt st.xs lo n
      let xs := if descending then splice st.xs lo (lo + len) (slice st.xs lo (lo + len)).reverse
        else st.xs
      let least := minRun n
      let (xs, len) ← if len < least then do
          let force := min least (n - lo)
          pure (← binaryInsert lt xs lo (lo + force) (lo + len), force)
        else pure (xs, len)
      let st ← pushRun lt { st with xs } lo len
      runs st (lo + len) fuel

/-- A list in ascending order, stable, or the error of the first comparison that fails. -/
def sortList [Inhabited α] (lt : Less α ε) (xs : List α) : Except ε (List α) :=
  (sort lt xs.toArray).map Array.toList

end JavaBuild.Timsort
