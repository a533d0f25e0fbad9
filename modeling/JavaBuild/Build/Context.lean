import JavaBuild.Host
import JavaBuild.Dependency
import JavaBuild.Patch.Reader
import JavaBuild.Diagnostic.Report
import JavaBuild.Compiler

/-!
# The state of a build

A build works on the host and keeps, besides the host's files and console:

- the dependencies, with the module descriptors read from their artifacts so far (none when the
  project has no dependency information);
- its context: the module that the main sources declare (looked up once), the modules that the
  module patches add to or limit the module graph with, and the modules that the source
  directories declare, each with its roots;
- the diagnostics reported so far;
- the invocations of the stub compiler, in order.

`BuildM` is a computation on this state that may fail. A failure keeps the state it met, as
files written before an error stay written: the diagnostics and invocations of a failed build
can still be reported.
-/

namespace JavaBuild

/-- What the parts of one build share. -/
structure BuildContext where
  /-- The module that the main sources declare, once it has been looked up. -/
  mainModule : Option (Option String) := none
  /-- The modules that the module patches of the build add or limit. -/
  shared : Patch.SharedModules := {}
  /-- The modules that the source directories declare, each with its roots. -/
  projectModules : List (String × List String) := []
deriving Inhabited

/-- Everything that a build changes. -/
structure BuildState where
  host : Host
  dependencies : Option Resolution := none
  context : BuildContext := {}
  diagnostics : DiagnosticLog := {}
  invocations : List Invocation := []

/-- A computation of a build; a failure keeps the state. -/
abbrev BuildM := ExceptT Failure (StateM BuildState)

namespace BuildM

/-- Runs a computation on the host within a build. -/
def ofHost {α : Type} (x : HostM α) : BuildM α :=
  ExceptT.mk fun s =>
    let (r, h) := Id.run (x.run.run s.host)
    (r, { s with host := h })

/-- Runs a computation on the dependencies within a build; descriptors read on the way are kept
when it succeeds. -/
def ofResolve {α : Type} (x : ResolveM α) : BuildM α :=
  ExceptT.mk fun s =>
    let (r, h) := Id.run ((x.run (s.dependencies.getD {})).run.run s.host)
    match r with
    | .ok (a, deps) => (.ok a, { s with host := h, dependencies := s.dependencies.map fun _ => deps })
    | .error e => (.error e, { s with host := h })

instance : MonadLift HostM BuildM := ⟨ofHost⟩

/-- The state of the build. -/
def state : BuildM BuildState := getThe BuildState

/-- The context of the build. -/
def context : BuildM BuildContext := return (← state).context

/-- Changes the context of the build. -/
def modifyContext (f : BuildContext → BuildContext) : BuildM Unit :=
  modifyThe BuildState fun s => { s with context := f s.context }

/-- Reports a diagnostic. -/
def report (d : Diagnostic) : BuildM Unit := do
  let log ← ofHost ((← state).diagnostics.report d)
  modifyThe BuildState fun s => { s with diagnostics := log }

/-- Runs a computation, giving its failure instead of failing. -/
def attempt {α : Type} (x : BuildM α) : BuildM (Except Failure α) :=
  tryCatch (Except.ok <$> x) fun e => pure (.error e)

/-- Runs a computation, then `final` whether it failed or not; the failure, if any, stands. -/
def andFinally {α : Type} (x : BuildM α) (final : BuildM Unit) : BuildM α :=
  do
    let r ← attempt x
    final
    match r with
    | .ok a => pure a
    | .error e => throw e

/-- Runs a build on the host, which keeps what the build did: the outcome and the final state. -/
def runOnHost {α : Type} (x : BuildM α) (dependencies : Option Resolution) :
    HostM (Except Failure α × BuildState) := do
  let (r, s) := Id.run (x.run.run { host := ← getThe Host, dependencies })
  set s.host
  return (r, s)

end BuildM

end JavaBuild
