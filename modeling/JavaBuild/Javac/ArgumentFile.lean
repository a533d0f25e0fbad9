/-!
# Argument files

javac reads arguments from a file named with `@`. In such a file blanks separate arguments and
`#` starts a comment, so an argument that holds a blank, a quote or `#` is written in double
quotes, with backslash escapes for the backslash, both quotes, line feed, carriage return, tab
and form feed. The empty argument is written `""`. Each argument takes a line of its own.

`readArgumentFile` is how javac reads such a file back: a reader that walks the text one
character at a time, between arguments, in a comment, in an argument (inside a quoted section or
not), or just after a backslash inside quotes.
-/

namespace JavaBuild.Javac

/-- The characters that force an argument into quotes. -/
def specialChars : List Char := [' ', '\'', '"', '\n', '\r', '\t', '\x0c', '#']

/-- The escape of one character inside quotes. -/
def escapeInQuotes (c : Char) : List Char :=
  match c with
  | '\\' => ['\\', '\\']
  | '\'' => ['\\', '\'']
  | '"' => ['\\', '"']
  | '\n' => ['\\', 'n']
  | '\r' => ['\\', 'r']
  | '\t' => ['\\', 't']
  | '\x0c' => ['\\', 'f']
  | c => [c]

/-- An argument as an argument file writes it. -/
def escapeArgument (arg : String) : String :=
  if arg.isEmpty then "\"\""
  else if !(arg.toList.any specialChars.contains) then arg
  else String.ofList ('"' :: arg.toList.flatMap escapeInQuotes ++ ['"'])

/-- The text of an argument file: each escaped argument on a line of its own. -/
def argumentFileText (args : List String) : String :=
  String.join (args.map fun a => escapeArgument a ++ "\n")

/-- A blank that separates arguments outside quotes. -/
def isArgumentBlank (c : Char) : Bool := c == ' ' || c == '\t' || c == '\x0c'

/-- A line end, which ends an argument even inside quotes. -/
def isLineEnd (c : Char) : Bool := c == '\n' || c == '\r'

/-- The character a backslash and `c` stand for inside quotes. -/
def unescape (c : Char) : Char :=
  match c with
  | 'n' => '\n'
  | 'r' => '\r'
  | 't' => '\t'
  | 'f' => '\x0c'
  | c => c

/-- Where the reader of an argument file stands. -/
inductive ArgumentReader where
  /-- Between arguments. -/
  | between
  /-- In a comment, up to the end of its line. -/
  | comment
  /-- In an argument: what it holds so far, and the quote of the section it is in, if any. -/
  | inArgument (held : List Char) (quote : Option Char)
  /-- Just after a backslash inside a section quoted by `quote`. -/
  | escaped (held : List Char) (quote : Char)

namespace ArgumentReader

/-- One character read inside an argument: the next state, and the argument if it ends here.
Outside quotes a blank or a line end ends it and a quote opens a section; inside, a line end
ends it, the same quote closes the section and a backslash escapes the next character. -/
def stepInArgument (held : List Char) : Option Char → Char → ArgumentReader × Option String
  | none, c =>
    if isArgumentBlank c || isLineEnd c then (.between, some (String.ofList held))
    else if c == '\'' || c == '"' then (.inArgument held (some c), none)
    else (.inArgument (held ++ [c]) none, none)
  | some q, c =>
    if isLineEnd c then (.between, some (String.ofList held))
    else if c == q then (.inArgument held none, none)
    else if c == '\\' then (.escaped held q, none)
    else (.inArgument (held ++ [c]) (some q), none)

/-- One character read: the next state, and the argument that ends here, if any. Between
arguments blanks and line ends are skipped and `#` starts a comment. -/
def step : ArgumentReader → Char → ArgumentReader × Option String
  | .between, c =>
    if isArgumentBlank c || isLineEnd c then (.between, none)
    else if c == '#' then (.comment, none)
    else stepInArgument [] none c
  | .comment, c => (if isLineEnd c then .between else .comment, none)
  | .inArgument held q, c => stepInArgument held q c
  | .escaped held q, c => (.inArgument (held ++ [unescape c]) (some q), none)

/-- The argument being read when the text ends, if any. -/
def finish : ArgumentReader → List String
  | .inArgument held _ => [String.ofList held]
  | .escaped held _ => [String.ofList held]
  | _ => []

/-- The arguments read from the rest of a text. -/
def run : ArgumentReader → List Char → List String
  | r, [] => r.finish
  | r, c :: cs => (r.step c).2.toList ++ run (r.step c).1 cs

end ArgumentReader

/-- The arguments javac reads from the text of an argument file. -/
def readArgumentFile (text : String) : List String := ArgumentReader.between.run text.toList

end JavaBuild.Javac
