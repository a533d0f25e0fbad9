import JavaBuild.Proofs.Build.Synthesis
import JavaBuild.Proofs.Build.Task
import JavaBuild.Proofs.Patch.Load

/-!
# Running the tasks of a scope in order

`runInOrder` runs the tasks of a scope one after another and stops at the first that fails. What
it gives and does, for every list of tasks and whatever each compilation gives
(`runInOrder_leaves_completed_prefix`):

* the tasks are left completed up to the first failure, failed there and pending after it
  (`leftStates`);
* each task that ran, ran from the state that the completed tasks before it left
  (`CompletedRuns`), and a task after a failure never runs: the sequence ends in the state the
  failed task left, after the note of the skipped tasks;
* the sequence completes exactly when every task completed, and otherwise its failure is the
  failure of the failed task.

After a failed compilation the record of the build keeps the current files of no task that
failed or stayed pending (`keptFiles`). A task that overwrites the main declaration compiles in
two steps, the test declaration and the other sources (`UnitTask.steps`), and the files of both
steps count as the task's: the record lists exactly the current files that no failed or pending
task compiles in any step, each with its current status.
-/

namespace JavaBuild

namespace HostM

variable {α β : Type}

theorem run_bind (x : HostM α) (f : α → HostM β) (h : Host) :
    (x >>= f).run.run h = match x.run.run h with
      | (.ok a, h') => (f a).run.run h'
      | (.error e, h') => (.error e, h') := by
  simp only [ExceptT.run_bind, StateT.run_bind]
  rcases x.run.run h with ⟨_ | _, _⟩ <;> rfl

end HostM

namespace BuildM

variable {α : Type}

/-- An attempt returns the outcome of the computation as a value, in the state it left. -/
theorem run_attempt (x : BuildM α) (s : BuildState) :
    (attempt x).run.run s = (.ok (x.run.run s).1, (x.run.run s).2) := by
  -- a run of `x` from `s` is `x s`; the attempt maps its outcome into a value
  rcases h : x s with ⟨_ | _, s'⟩ <;>
    simp only [attempt, tryCatch, tryCatchThe, MonadExceptOf.tryCatch, ExceptT.tryCatch,
      Functor.map, ExceptT.map, ExceptT.run, ExceptT.mk, bind, StateT.bind, StateT.run, pure,
      StateT.pure, ExceptT.pure, h]

theorem run_pure (x : α) (s : BuildState) : (pure x : BuildM α).run.run s = (.ok x, s) := rfl

/-- A line printed in verbose mode, within a build, never fails. -/
theorem logVerbose_ok (line : String) (s : BuildState) :
    ∃ s₁, (HostM.logVerbose line : BuildM Unit).run.run s = (.ok (), s₁) := by
  obtain ⟨_, h', hrun, -⟩ := run_of_triple (HostM.logVerbose_sameFiles s.host line) (s := s.host)
    ⟨rfl, rfl⟩
  exact ⟨{ s with host := h' }, by rw [run_liftM, hrun]⟩

end BuildM

/-! ## The run of a sequence -/

theorem announce_ok (t : UnitTask) (s : BuildState) :
    ∃ s₁, (announce t).run.run s = (.ok (), s₁) :=
  BuildM.logVerbose_ok _ s

theorem noteSkipped_ok (e : Failure) (n : Nat) (s : BuildState) :
    ∃ s', (noteSkipped e n).run.run s = (.ok (), s') := by
  unfold noteSkipped
  split
  · split
    · exact BuildM.logVerbose_ok _ s
    · exact ⟨s, rfl⟩
  · exact ⟨s, rfl⟩

/-- `CompletedRuns b a ts s s'`: the tasks `ts` run one after another from `s`, each to its end:
a task is announced, then runs from the state the tasks before it left, and the last leaves
`s'`. -/
inductive CompletedRuns (b : Backend) (a : Option String) :
    List UnitTask → BuildState → BuildState → Prop
  | nil (s : BuildState) : CompletedRuns b a [] s s
  | cons {t : UnitTask} {ts : List UnitTask} {s s₁ s₂ s₃ : BuildState} :
      (announce t).run.run s = (.ok (), s₁) → (t.run b a).run.run s₁ = (.ok (), s₂) →
      CompletedRuns b a ts s₂ s₃ → CompletedRuns b a (t :: ts) s s₃

/-- The states `n` tasks are left in when the first `k` completed: completed, then, if the
sequence failed, the failed task and the pending rest. -/
def leftStates (n k : Nat) (failed : Bool) : List TaskState :=
  List.replicate k .completed ++
    if failed then .failed :: List.replicate (n - k - 1) .pending else []

theorem leftStates_succ (n k : Nat) (failed : Bool) :
    leftStates (n + 1) (k + 1) failed = .completed :: leftStates n k failed := by
  simp [leftStates, List.replicate_succ]

/-- Running tasks in order: the first `k` run to their end one after another; then either all
tasks ran, or the next one failed, its failure ends the sequence after the note of the skipped
tasks, and the tasks after it never run. The tasks are left completed up to the failure, failed
there and pending after it. -/
theorem runInOrder_run (b : Backend) (a : Option String) (tasks : List UnitTask)
    (s : BuildState) :
    ∃ k f s', (runInOrder b a tasks).run.run s = (.ok (f, leftStates tasks.length k f.isSome), s') ∧
      ∃ sₖ, CompletedRuns b a (tasks.take k) s sₖ ∧
        match f with
        | none => k = tasks.length ∧ s' = sₖ
        | some e => ∃ t s₁ s₂, tasks[k]? = some t ∧ (announce t).run.run sₖ = (.ok (), s₁) ∧
            (t.run b a).run.run s₁ = (.error e, s₂) ∧
            (noteSkipped e (tasks.length - k - 1)).run.run s₂ = (.ok (), s') := by
  induction tasks generalizing s with
  | nil => exact ⟨0, none, s, rfl, s, .nil s, rfl, rfl⟩
  | cons t ts ih =>
    obtain ⟨s₁, h₁⟩ := announce_ok t s
    rcases h₂ : (t.run b a).run.run s₁ with ⟨_ | ⟨⟩, s₂⟩
    case error e =>
      -- the first task fails: it is left failed and every other task pending
      obtain ⟨s', h₃⟩ := noteSkipped_ok e ts.length s₂
      refine ⟨0, some e, s', ?_, s, .nil s, t, s₁, s₂, rfl, h₁, h₂, by simpa using h₃⟩
      simp only [runInOrder, BuildM.run_bind, h₁, BuildM.run_attempt, h₂, h₃, BuildM.run_pure]
      simp [leftStates, List.map_const']
    case ok =>
      -- the first task completes: the rest runs from the state it left
      obtain ⟨k, f, s', hrun, sₖ, hruns, hf⟩ := ih s₂
      refine ⟨k + 1, f, s', ?_, sₖ, .cons h₁ h₂ hruns, ?_⟩
      · simp only [runInOrder, BuildM.run_bind, h₁, BuildM.run_attempt, h₂, hrun, BuildM.run_pure,
          List.length_cons, leftStates_succ]
      · cases f with
        | none => exact ⟨by simp [hf.1], hf.2⟩
        | some e =>
          obtain ⟨t', s₁', s₂', ht, h₁', h₂', h₃'⟩ := hf
          exact ⟨t', s₁', s₂', by simpa using ht, h₁', h₂', by simpa using h₃'⟩

/-! ## What the record keeps after a failed compilation -/

/-- The compilations a unit task runs: for an overwriting task, that of the test declaration and
that of the other sources. -/
def UnitTask.steps : UnitTask → List CompileTask
  | .compile t => [t]
  | .overwriting d s _ => d :: s.toList

theorem UnitTask.files_eq_flatMap_steps (t : UnitTask) : t.files = t.steps.flatMap (·.files) := by
  cases t with
  | compile t => simp [UnitTask.steps]
  | overwriting d s sub => cases s <;> simp [UnitTask.steps]

/-- A file is kept exactly when it is current and no task that failed or stayed pending compiles
it in one of its steps. -/
theorem mem_keptFiles {current : List String} {tasks : List UnitTask} {states : List TaskState}
    {p : String} :
    p ∈ keptFiles current tasks states ↔ p ∈ current ∧
      ∀ t st, (t, st) ∈ tasks.zip states → (st = .failed ∨ st = .pending) →
        ∀ c ∈ t.steps, p ∉ c.files := by
  simp only [keptFiles, List.mem_filter, Bool.not_eq_true', List.contains_eq_mem,
    decide_eq_false_iff_not, List.mem_flatMap, not_exists, not_and, Prod.forall]
  refine and_congr_right fun _ => forall₂_congr fun t st => imp_congr_right fun _ => ?_
  rw [UnitTask.files_eq_flatMap_steps]
  cases st <;> simp

/-- Folding over listed files a step that puts the current status of each file into a table that
holds the current status of the files done so far: the table then holds those of the listed
files too, and of no other file. -/
theorem lookup_foldl_current {current : List (String × Change.FileStatus)}
    {step : List (String × Change.FileStatus) → String → List (String × Change.FileStatus)}
    (hstep : ∀ acc p q, (step acc p).lookup q =
      if q = p then (current.lookup p).or (acc.lookup q) else acc.lookup q)
    (cs done : List String) (acc : List (String × Change.FileStatus))
    (hacc : ∀ q, acc.lookup q = if q ∈ done then current.lookup q else none) (q : String) :
    (cs.foldl step acc).lookup q = if q ∈ done ++ cs then current.lookup q else none := by
  induction cs generalizing done acc with
  | nil => simpa using hacc q
  | cons c cs ih =>
    -- after the first file, the table holds the current status of the files done and of it
    have hnext : ∀ q,
        (step acc c).lookup q = if q ∈ done ++ [c] then current.lookup q else none := by
      intro q
      rw [hstep, hacc]
      by_cases hqc : q = c
      · subst hqc
        cases current.lookup q <;> simp
      · simp [hqc]
    rw [List.foldl_cons, ih (done ++ [c]) _ hnext, List.append_assoc, List.singleton_append]

/-- A record of a build that keeps only some files lists each of them that is current, with its
current status, and no other file. -/
theorem createRecord_lookup {current : List (String × Change.FileStatus)} {fingerprint : String}
    {dependencies outputs cs : List String} {h h' : Host} {r : Change.Record}
    (hrun : (Change.Tracker.createRecord current fingerprint dependencies outputs
      (some cs)).run.run h = (.ok r, h')) (p : String) :
    r.files.lookup p = if p ∈ cs then current.lookup p else none := by
  unfold Change.Tracker.createRecord at hrun
  rw [HostM.run_bind] at hrun
  rcases hm : (Change.outputManifest outputs).run.run h with ⟨_ | m, h₁⟩ <;>
    rw [hm] at hrun <;> dsimp only at hrun
  · cases hrun
  · -- the record lists the files of the fold, from an empty table
    cases hrun
    -- the step of the fold puts the current status of a file, when there is one
    refine (lookup_foldl_current ?_ cs [] [] (fun _ => rfl) p).trans (by rw [List.nil_append])
    intro acc q p
    split <;> simp [Assoc.lookup_put, *]

theorem isSome_lookup_iff {β : Type} (t : List (String × β)) (p : String) :
    (t.lookup p).isSome ↔ p ∈ t.map (·.1) := by
  induction t with
  | nil => simp
  | cons e t ih =>
    obtain ⟨q, v⟩ := e
    by_cases hpq : p = q
    · simp [hpq]
    · simp [List.lookup, beq_false_of_ne hpq, hpq, ih]

theorem forall_leftStates_completed (n k : Nat) (failed : Bool) :
    (∀ st ∈ leftStates n k failed, st = .completed) ↔ failed = false := by
  cases failed with
  | false => simp [leftStates]
  | true =>
    -- the failed task is among the states
    simp only [leftStates, if_true, Bool.true_eq_false, iff_false, not_forall]
    exact ⟨.failed, by simp, by decide⟩

/-! ## The sequence and its record -/

/-- Running the tasks of a scope in order, whatever each compilation gives: the tasks are left
completed up to the first failure, failed there and pending after it, and each task that ran,
ran from the state that the completed tasks before it left. The sequence completes exactly when
every task did; otherwise its failure is that of the failed task. The record of a build that
keeps the files of the tasks so left lists exactly the current files that no failed or pending
task compiles in any of its steps, each with its current status. -/
theorem runInOrder_leaves_completed_prefix (b : Backend) (a : Option String)
    (tasks : List UnitTask) (s : BuildState) :
    ∃ k f states s', (runInOrder b a tasks).run.run s = (.ok (f, states), s') ∧
      states = leftStates tasks.length k f.isSome ∧
      (∃ sₖ, CompletedRuns b a (tasks.take k) s sₖ ∧
        match f with
        | none => k = tasks.length ∧ s' = sₖ
        | some e => ∃ t s₁ s₂, tasks[k]? = some t ∧ (announce t).run.run sₖ = (.ok (), s₁) ∧
            (t.run b a).run.run s₁ = (.error e, s₂) ∧
            (noteSkipped e (tasks.length - k - 1)).run.run s₂ = (.ok (), s')) ∧
      (f = none ↔ ∀ st ∈ states, st = .completed) ∧
      ∀ (current : List (String × Change.FileStatus)) (fingerprint : String)
        (dependencies outputs : List String) (h h' : Host) (r : Change.Record),
        (Change.Tracker.createRecord current fingerprint dependencies outputs
          (some (keptFiles (current.map (·.1)) tasks states))).run.run h = (.ok r, h') →
        ∀ p, ((r.files.lookup p).isSome ↔ p ∈ current.map (·.1) ∧
            ∀ t st, (t, st) ∈ tasks.zip states → (st = .failed ∨ st = .pending) →
              ∀ c ∈ t.steps, p ∉ c.files) ∧
          ∀ st, r.files.lookup p = some st → current.lookup p = some st := by
  obtain ⟨k, f, s', hrun, hruns⟩ := runInOrder_run b a tasks s
  refine ⟨k, f, _, s', hrun, rfl, hruns, ?_, ?_⟩
  · rw [forall_leftStates_completed]
    cases f <;> simp
  · intro current fingerprint dependencies outputs h h' r hrec p
    have hlookup := createRecord_lookup hrec p
    refine ⟨?_, fun st hst => ?_⟩
    · rw [hlookup, ← mem_keptFiles]
      by_cases hp : p ∈ keptFiles (current.map (·.1)) tasks (leftStates tasks.length k f.isSome)
      · -- a kept file is current, so the record has its status
        have hcur : p ∈ current.map (·.1) := (mem_keptFiles.mp hp).1
        rw [if_pos hp, isSome_lookup_iff]
        exact iff_of_true hcur hp
      · rw [if_neg hp]
        exact iff_of_false (by simp) hp
    · rw [hlookup] at hst
      split at hst
      · exact hst
      · cases hst

end JavaBuild
