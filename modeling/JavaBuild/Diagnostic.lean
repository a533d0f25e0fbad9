import JavaBuild.Data.Json

/-!
# Diagnostics

A diagnostic is a message of the compiler: its kind, its text, and the source file, line and
column it is about when it is tied to a position. Warnings may carry a code such as
`deprecation`, taken from a leading `[code]` of their text.
-/

namespace JavaBuild

/-- The kind of a diagnostic. Kinds other than the four named ones keep their name. -/
inductive DiagnosticKind where
  | error
  | warning
  | mandatoryWarning
  | note
  | other (name : String)
deriving DecidableEq, Repr, Inhabited

/-- The name of a kind: `ERROR`, `WARNING`, `MANDATORY_WARNING`, `NOTE` or its own. -/
def DiagnosticKind.name : DiagnosticKind → String
  | .error => "ERROR"
  | .warning => "WARNING"
  | .mandatoryWarning => "MANDATORY_WARNING"
  | .note => "NOTE"
  | .other n => n

/-- The kind with this name. -/
def DiagnosticKind.ofName : String → DiagnosticKind
  | "ERROR" => .error
  | "WARNING" => .warning
  | "MANDATORY_WARNING" => .mandatoryWarning
  | "NOTE" => .note
  | n => .other n

/-- A message of the compiler. -/
structure Diagnostic where
  kind : DiagnosticKind
  message : String
  source : Option String := none
  line : Option Int := none
  column : Option Int := none
  code : Option String := none
deriving DecidableEq, Repr, Inhabited

/-- Whether a diagnostic is an error. -/
def Diagnostic.isError (d : Diagnostic) : Bool := d.kind == .error

/-- Whether a diagnostic is a warning of either kind. -/
def Diagnostic.isWarning (d : Diagnostic) : Bool :=
  d.kind == .warning || d.kind == .mandatoryWarning

/-- The diagnostic as a JSON object. -/
def Diagnostic.toJson (d : Diagnostic) : Json :=
  let text (o : Option String) : Json := match o with | some s => .str s | none => .null
  let num (o : Option Int) : Json := match o with | some n => .int n | none => .null
  .obj [("kind", .str d.kind.name), ("message", .str d.message), ("source", text d.source),
    ("line", num d.line), ("column", num d.column), ("code", text d.code)]

end JavaBuild
