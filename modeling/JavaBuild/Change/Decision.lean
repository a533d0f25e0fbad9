import JavaBuild.Data.Json

/-!
# Build decisions

What the change tracker decides: compile everything (with the cause, and the changed items that
show it), compile some files (and delete the classes of removed ones), or nothing. A decision of
any other kind is reported as a full build.
-/

namespace JavaBuild

/-- The kind of a decision. -/
inductive DecisionKind where
  | full
  | incremental
  | noOp
  /-- A kind of another name, treated as a full build. -/
  | other (name : String)
deriving DecidableEq, Repr, Inhabited

/-- The name of a kind. -/
def DecisionKind.name : DecisionKind → String
  | .full => "full"
  | .incremental => "incremental"
  | .noOp => "no-op"
  | .other n => n

/-- The kind of a name. -/
def DecisionKind.ofName : String → DecisionKind
  | "full" => .full
  | "incremental" => .incremental
  | "no-op" => .noOp
  | n => .other n

/-- A decision of the change tracker. -/
structure Decision where
  kind : DecisionKind
  files : List String := []
  removed : List String := []
  cause : Option String := none
  details : List String := []
deriving DecidableEq, Repr, Inhabited

namespace Decision

/-- Compile everything. -/
def full (cause : Option String := none) (details : List String := []) : Decision :=
  { kind := .full, cause, details }

/-- Compile the files, and delete the classes of the removed ones. -/
def incremental (files removed : List String) : Decision := { kind := .incremental, files, removed }

/-- Compile nothing. -/
def noOp : Decision := { kind := .noOp }

/-- `s` after a count other than one. -/
def plural (n : Nat) : String := if n == 1 then "" else "s"

/-- What the decision tells the user; with `showChanges`, a full build lists its details. -/
def message (d : Decision) (showChanges : Bool) : String :=
  match d.kind with
  | .noOp => "Nothing to compile - all classes are up to date."
  | .incremental =>
    let n := d.files.length
    if n == 0 && !d.removed.isEmpty then
      s!"Deleting the classes of {d.removed.length} removed source file{plural d.removed.length}."
    else s!"Compiling {n} modified source file{plural n}."
  | _ =>
    match d.cause with
    | none => "Compiling all files."
    | some c =>
      if !d.details.isEmpty && showChanges then
        s!"Recompiling all files because {c}:\n" ++ "\n".intercalate d.details
      else s!"Recompiling all files because {c}."

/-- A decision as data: its kind, files, removed files, cause, details and message. -/
def toJson (d : Decision) (showChanges : Bool) : Json :=
  .obj [("kind", .str d.kind.name), ("files", .arr (d.files.map .str)),
    ("removed", .arr (d.removed.map .str)),
    ("cause", match d.cause with | some c => .str c | none => .null),
    ("details", .arr (d.details.map .str)), ("message", .str (d.message showChanges))]

end Decision

end JavaBuild
