import JavaBuild.Diagnostic
import JavaBuild.Text.Blank
import JavaBuild.Text.Digit
import JavaBuild.Text.Word

/-!
# Reading javac's output

javac prints a diagnostic tied to a position as a header `<file>:<line>: error: <message>` (or
`warning:`), the source line it is about, a caret line whose `^` marks the column, and detail
lines. A diagnostic without position has the header `error: <message>` and detail lines, a note
is the single line `Note: <message>`, and the output ends with counts such as `2 errors`.

`readOutput` turns such text into diagnostics, one per header line, in order; `readOutput?`
first refuses a header whose line number has too many digits to be read as a number. The file of a
positioned header is the shortest prefix that is followed by `:<digits>: error: ` or
`:<digits>: warning: `. Count lines are skipped wherever they appear; so are lines before the
first header. Detail lines are appended to the message on lines of their own, without trailing
blanks; blank detail lines are dropped. A warning whose message starts with `[code] ` carries
that code.
-/

namespace JavaBuild.Javac

/-- The rest of a text after a prefix. -/
def afterPrefix? (pfx : String) (cs : List Char) : Option (List Char) :=
  if pfx.toList.isPrefixOf cs then some (cs.drop pfx.length) else none

/-- The kind and message of `error: <message>` or `warning: <message>`. -/
def kindAndMessage? (cs : List Char) : Option (DiagnosticKind × String) :=
  match afterPrefix? "error: " cs with
  | some m => some (.error, String.ofList m)
  | none =>
    match afterPrefix? "warning: " cs with
    | some m => some (.warning, String.ofList m)
    | none => none

/-- The digits of the line number, the kind and the message after the colon that ends the file
of a header. -/
def afterFile? (cs : List Char) : Option (List Char × DiagnosticKind × String) :=
  let digits := cs.takeWhile Text.isDigit
  if digits.isEmpty then none
  else
    match afterPrefix? ": " (cs.drop digits.length) with
    | none => none
    | some rest => (kindAndMessage? rest).map fun (k, m) => (digits, k, m)

/-- Finds the first colon at position `i` or later (with a non-empty file before it) where a
positioned header continues. -/
def findHeader (cs : List Char) (i : Nat) (fuel : Nat) :
    Option (String × List Char × DiagnosticKind × String) :=
  match fuel with
  | 0 => none
  | fuel + 1 =>
    if cs.length ≤ i then none
    else if cs[i]? == some ':' then
      match afterFile? (cs.drop (i + 1)) with
      | some (n, k, m) => some (String.ofList (cs.take i), n, k, m)
      | none => findHeader cs (i + 1) fuel
    else findHeader cs (i + 1) fuel

/-- A positioned header: file, digits of the line, kind and message. -/
def positioned? (line : String) : Option (String × List Char × DiagnosticKind × String) :=
  findHeader line.toList 1 line.length

/-- Whether a trimmed line counts errors or warnings: `3 errors`, `1 warning`. -/
def isCountLine (cs : List Char) : Bool :=
  let digits := cs.takeWhile Text.isDigit
  let rest := cs.drop digits.length
  !digits.isEmpty &&
    (rest == " error".toList || rest == " errors".toList || rest == " warning".toList ||
      rest == " warnings".toList)

/-- The code of a warning message `[code] …`: word characters, dots and hyphens. -/
def messageCode? (m : String) : Option String :=
  match m.toList with
  | '[' :: rest =>
    let code := rest.takeWhile fun c => Text.isWordChar c || c == '.' || c == '-'
    if !code.isEmpty && (rest.drop code.length).take 2 == [']', ' '] then some (String.ofList code)
    else none
  | _ => none

/-- A diagnostic being read, with where its continuation lines stand: after a positioned header
(0), after its source line (1), after its caret line (2), or without position (3). -/
structure Pending where
  diagnostic : Diagnostic
  stage : Nat

/-- The diagnostic of a finished pending one, with the code of a warning. -/
def Pending.finish (p : Pending) : Diagnostic :=
  let d := p.diagnostic
  { d with code := if d.kind == .warning then messageCode? d.message else none }

/-- Reads one line: it may start a diagnostic, finish the pending one, or continue it. -/
def readLine (acc : List Diagnostic × Option Pending) (line : String) :
    List Diagnostic × Option Pending :=
  let (done, pending) := acc
  let flush := match pending with
    | some p => done ++ [p.finish]
    | none => done
  match positioned? line with
  | some (file, n, k, m) =>
    (flush, some ⟨{ kind := k, message := m, source := some file, line := some (Text.digitsValue n) }, 0⟩)
  | none =>
    match kindAndMessage? line.toList with
    | some (k, m) => (flush, some ⟨{ kind := k, message := m }, 3⟩)
    | none =>
      match afterPrefix? "Note: " line.toList with
      | some m => (flush ++ [{ kind := .note, message := String.ofList m }], none)
      | none =>
        let trimmed := line.trimBlanks
        if isCountLine trimmed.toList then (done, pending)
        else
          match pending with
          | none => (done, none)
          | some p =>
            if p.stage == 0 then (done, some { p with stage := 1 })
            else if p.stage == 1 && trimmed == "^" then
              let col := (line.toList.findIdx? (· == '^')).getD 0 + 1
              (done, some ⟨{ p.diagnostic with column := some col }, 2⟩)
            else if !trimmed.isEmpty then
              let d := p.diagnostic
              (done, some { p with diagnostic := { d with message := d.message ++ "\n" ++ line.trimBlanksEnd } })
            else (done, some p)

/-- The diagnostics in javac's output, in order. -/
def readOutput (output : String) : List Diagnostic :=
  let (done, pending) := output.textLines.foldl readLine ([], none)
  match pending with
  | some p => done ++ [p.finish]
  | none => done

/-- The diagnostics in javac's output, or why a header's line number cannot be read: it has more
than `Text.maxIntegerDigits` digits (the first such header counts). -/
def readOutput? (output : String) : Except String (List Diagnostic) :=
  let tooLong (line : String) : Option Nat :=
    match positioned? line with
    | some (_, digits, _, _) =>
      if digits.length > Text.maxIntegerDigits then some digits.length else none
    | none => none
  match output.textLines.findSome? tooLong with
  | some n => .error (Text.digitLimitMessage n)
  | none => .ok (readOutput output)

end JavaBuild.Javac
