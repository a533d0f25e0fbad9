import JavaBuild.Host
import JavaBuild.Source.Unit
import JavaBuild.Change.Record

/-!
# Substituting the module declaration of the tests

When the tests declare the main module themselves, their compiled declaration takes the place of
the main one while the other test sources compile, and the test declaration's source is hidden
from that compilation. A `Substitution` records every move it made, so that `restore` moves each
file back, the last move first, whatever happened in between.

A move is a rename that replaces its target. `swap` makes three: the test source to its backup
(`.bak`), the main class to its backup when there is one, and the test class in place of the main
class; when one of them fails, those already made are undone and the swap reports that it did not
happen. `recover` first puts back the backups that a build killed during a swap left behind.
-/

namespace JavaBuild

/-- The files swapped while the tests compile, and the moves made so far. -/
structure Substitution where
  testSource : String
  mainClass : String
  testClass : String
  moves : List (String × String) := []
deriving Inhabited

namespace Substitution

/-- The substitution of an overwrite, with the classes of the tests in `testOutput`. -/
def make (o : Source.Overwrite) (testOutput : String) : Substitution :=
  { testSource := o.testModuleInfo, mainClass := Path.join o.mainOutput Change.moduleClass,
    testClass := Path.join testOutput Change.moduleClass }

/-- The backup of a file. -/
def backup (p : String) : String := p ++ ".bak"

/-- Puts back the backup of a file that an interrupted build left: the main class always, the
test source only where it is missing. -/
def recoverFile (s : Substitution) (original : String) : HostM Unit := do
  if ← HostM.pathExists (backup original) then
    if original == s.mainClass || !(← HostM.pathExists original) then
      HostM.warn s!"Restoring {original} left over by an interrupted build"
      HostM.rename (backup original) original

/-- Puts back the backups of an interrupted build, the test source's first. -/
def recover (s : Substitution) : HostM Unit := do
  s.recoverFile s.testSource
  s.recoverFile s.mainClass

/-- Moves a file and records the move. -/
def move (s : Substitution) (src dst : String) : HostM Substitution := do
  HostM.rename src dst
  HostM.logDebug s!"Moved {src} to {dst}"
  return { s with moves := s.moves ++ [(src, dst)] }

/-- Moves a file back; the move, described, if it failed. -/
def moveBack (move : String × String) : HostM (List String) :=
  let (src, dst) := move
  tryCatch (do HostM.rename dst src; HostM.logDebug s!"Restored {src}"; pure []) fun
    | .os e => pure [s!"{dst} -> {src}: {e.message}"]
    | e => throw e

/-- Moves files back, the last move first; gives the moves that failed, described. -/
def undo : List (String × String) → HostM (List String)
  | [] => return []
  | move :: moves => do
    let errors ← undo moves
    return errors ++ (← moveBack move)

/-- Runs a move, giving its file error instead of failing with it. -/
def attempt (act : HostM Substitution) : HostM (Except OsError Substitution) :=
  tryCatch (Except.ok <$> act) fun
    | .os e => pure (.error e)
    | e => throw e

/-- Puts the test class in place of the main class; whether it did. When a move fails, the moves
of this swap are undone, with a warning. -/
def swap (s : Substitution) : HostM (Bool × Substitution) := do
  let done := s.moves.length
  let failed (e : OsError) (c : Substitution) : HostM (Bool × Substitution) := do
    HostM.warn s!"Cannot substitute {s.mainClass} with {s.testClass}: {e.message}"
    let _ ← undo (c.moves.drop done)
    return (false, { c with moves := c.moves.take done })
  match ← attempt (s.move s.testSource (backup s.testSource)) with
  | .error e => failed e s
  | .ok c =>
    let next ← if ← HostM.pathExists s.mainClass then attempt (c.move s.mainClass (backup s.mainClass))
      else pure (.ok c)
    match next with
    | .error e => failed e c
    | .ok c =>
      match ← attempt (c.move s.testClass s.mainClass) with
      | .error e => failed e c
      | .ok c => return (true, c)

/-- Moves every file back; fails, naming the moves that could not be undone, if any. -/
def restore (s : Substitution) : HostM Substitution := do
  let errors ← undo s.moves
  if !errors.isEmpty then
    throw (.restore ("Cannot restore the module descriptors:\n" ++ "\n".intercalate errors))
  return { s with moves := [] }

end Substitution

end JavaBuild
