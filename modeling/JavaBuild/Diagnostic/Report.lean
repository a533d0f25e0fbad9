import JavaBuild.Diagnostic
import JavaBuild.Host
import JavaBuild.Files.Path
import JavaBuild.Text.Blank

/-!
# Reporting diagnostics

A `DiagnosticLog` prints each diagnostic as it arrives and keeps the counts for the summary at
the end of a compilation. Errors go to the error stream, warnings are printed as warnings, other
kinds go to the output; blank messages are dropped. A diagnostic is shown as its message,
followed by `at <file>[line,column]` when it is tied to a file; the file is shown relative to the
log's directory unless that path would climb out of it.

The summary counts the warning codes (most frequent first, ties in order of arrival), then the
total of warnings and errors, the numbers right-aligned to the widest of them.
-/

namespace JavaBuild

/-- What a compilation reported so far. -/
structure DiagnosticLog where
  directory : Option String := none
  numErrors : Nat := 0
  numWarnings : Nat := 0
  firstError : Option String := none
  codeCount : List (String × Nat) := []
  errorMessages : List String := []
deriving Repr, Inhabited

namespace DiagnosticLog

/-- A source path as the log shows it: relative to the directory unless that climbs out. -/
def relativize (cwd : String) (log : DiagnosticLog) (file : String) : String :=
  match log.directory with
  | none => file
  | some dir =>
    if file.isEmpty then file
    else
      let rel := Path.relative cwd file dir
      if rel.startsWith ".." then file else rel

/-- The text of a diagnostic: its message and, when tied to a file, where. -/
def format (cwd : String) (log : DiagnosticLog) (d : Diagnostic) : String :=
  let source := if !(d.isError || d.isWarning) && d.line.isNone then none else d.source
  match source with
  | none => d.message
  | some s =>
    let pos := if d.line.isNone && d.column.isNone then ""
      else "[" ++ (match d.line with | some l => toString l | none => "") ++
        (match d.column with | some c => "," ++ toString c | none => "") ++ "]"
    d.message ++ "\n    at " ++ log.relativize cwd s ++ pos

/-- Adds one to the count of a code, keeping the order in which codes first came. -/
def bump (counts : List (String × Nat)) (code : String) : List (String × Nat) :=
  if counts.any (·.1 == code) then counts.map fun (k, n) => if k == code then (k, n + 1) else (k, n)
  else counts ++ [(code, 1)]

/-- Prints a diagnostic and counts it. -/
def report (log : DiagnosticLog) (d : Diagnostic) : HostM DiagnosticLog := do
  if d.message.isBlankText then return log
  let text := log.format (← get).cwd d
  let log ←
    if d.isError then do
      HostM.logError text
      pure { log with firstError := log.firstError.orElse fun _ => some d.message,
                      errorMessages := log.errorMessages ++ [text], numErrors := log.numErrors + 1 }
    else if d.isWarning then do
      HostM.warn text
      pure { log with numWarnings := log.numWarnings + 1 }
    else do
      HostM.log text
      pure log
  match d.code with
  | some c => pure { log with codeCount := bump log.codeCount c }
  | none => pure log

/-- A number right-aligned to a width. -/
def alignRight (width n : Nat) : String :=
  let s := toString n
  String.ofList (List.replicate (width - s.length) ' ') ++ s

/-- The lines of the summary. -/
def summaryLines (log : DiagnosticLog) : List String :=
  let entries := log.codeCount.mergeSort fun a b => decide (b.2 ≤ a.2)
  let widest := max (entries.head?.map (·.2) |>.getD 0) (max log.numWarnings log.numErrors)
  let width := (toString widest).length
  let line (n : Nat) (what : String) := "    " ++ alignRight width n ++ " " ++ what
  let codes := if entries.isEmpty then []
    else "Summary of compiler messages:" :: entries.map fun (c, n) => line n c
  let total := if log.numWarnings > 0 || log.numErrors > 0 then ["Total:"] else []
  let warnings := if log.numWarnings > 0 then
      [line log.numWarnings "warning" ++ (if log.numWarnings > 1 then "s" else "")] else []
  let errors := if log.numErrors > 0 then
      [line log.numErrors "error" ++ (if log.numErrors > 1 then "s" else "")] else []
  codes ++ total ++ warnings ++ errors

/-- Prints the summary, if there is anything to sum up. -/
def logSummary (log : DiagnosticLog) : HostM Unit := do
  let lines := log.summaryLines
  if !lines.isEmpty then HostM.log ("\n".intercalate lines)

end DiagnosticLog

end JavaBuild
