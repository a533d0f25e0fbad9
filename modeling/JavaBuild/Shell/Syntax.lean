import JavaBuild.Text.Blank

/-!
# Shell scripts: syntax

The small part of the POSIX shell language that the tool stand-ins of a build are written in:
simple commands with variable assignments, `&&` and `||` lists, `{ … }` groups, `for` loops and
`case` selections, here-documents, and the expansions `$name`, `${name}`, `${name#pattern}`
(and `##`, `%`, `%%`, `-`, `:-`), the positional parameters, `$#`, `$@` and `$(( … ))`.

A script is read in two steps. `lex` cuts the text into words, operators and line ends; a word
keeps, for each of its parts, whether it was quoted, because quoting decides field splitting and
pattern matching later. A here-document's body is taken out of the text where its line ends and
attached to its operator. `parse` then builds the commands.

Both steps are bounded by fuel computed from the length of the text: every step of the lexer
consumes a character, and every level of the parser consumes a token.
-/

namespace JavaBuild.Shell

/-- A part of a word. -/
inductive Segment where
  /-- Literal text. -/
  | lit (text : String) (quoted : Bool)
  /-- A parameter: a variable, a positional parameter, `#` or `@`. -/
  | param (name : String) (quoted : Bool)
  /-- A parameter with an operator such as `#` (remove the shortest matching prefix). -/
  | transform (name : String) (op : String) (word : String) (quoted : Bool)
  /-- An arithmetic expansion. -/
  | arith (expr : String) (quoted : Bool)
deriving Repr, Inhabited, BEq

/-- A word: its parts in order. -/
abbrev Word := List Segment

/-- The literal text of a word made only of unquoted literal parts. -/
def Word.plain? (w : Word) : Option String :=
  w.foldr (fun s acc => match s, acc with
    | .lit t false, some rest => some (t ++ rest)
    | _, _ => none) (some "")

/-- A token of a script. -/
inductive Token where
  | word (w : Word)
  | op (s : String)
  | newline
  /-- `<<delimiter` with its body; the body is expanded when the delimiter is not quoted. -/
  | heredoc (body : String) (expand : Bool)
  /-- An output redirection; the output is dropped. -/
  | redirect
deriving Repr, Inhabited

/-- Whether a character ends an unquoted word. -/
def isMeta (c : Char) : Bool :=
  c == ' ' || c == '\t' || c == '\n' || c == ';' || c == '&' || c == '|' || c == '(' ||
    c == ')' || c == '<' || c == '>'

/-- Whether a character may stand in a variable name. -/
def isNameChar (c : Char) : Bool := c.isAlphanum || c == '_'

/-- The text up to the matching `))` of an arithmetic expansion, and the rest after it. -/
def arithBody (depth : Nat) (acc : List Char) : List Char → Option (String × List Char)
  | [] => none
  | ')' :: ')' :: rest =>
    if depth == 0 then some (String.ofList acc.reverse, rest)
    else arithBody (depth - 1) (')' :: acc) (')' :: rest)
  | '(' :: rest => arithBody (depth + 1) ('(' :: acc) rest
  | ')' :: rest => arithBody (depth - 1) (')' :: acc) rest
  | c :: rest => arithBody depth (c :: acc) rest

/-- The operators of `${name<op>word}`, longest first. -/
def braceOps : List String := ["##", "%%", ":-", "#", "%", "-"]

/-- A `${…}` expansion from its inner text. -/
def braceSegment (inner : String) (quoted : Bool) : Segment :=
  let cs := inner.toList
  let name :=
    match cs with
    | c :: _ => if c.isDigit || "#@*?$!".toList.contains c then [c] else cs.takeWhile isNameChar
    | [] => []
  let rest := cs.drop name.length
  match braceOps.find? fun op => op.toList.isPrefixOf rest with
  | some op => .transform (String.ofList name) op (String.ofList (rest.drop op.length)) quoted
  | none => .param (String.ofList name) quoted

/-- Reads an expansion after `$`: the segment and the rest, or none for a lone `$`. -/
def dollar (cs : List Char) (quoted : Bool) : Option (Segment × List Char) :=
  match cs with
  | '(' :: '(' :: rest => (arithBody 0 [] rest).map fun (e, r) => (.arith e quoted, r)
  | '{' :: rest =>
    let inner := rest.takeWhile (· != '}')
    if inner.length < rest.length then
      some (braceSegment (String.ofList inner) quoted, rest.drop (inner.length + 1))
    else none
  | c :: rest =>
    if c.isDigit || "#@*?$!".toList.contains c then some (.param (String.singleton c) quoted, rest)
    else if c.isAlpha || c == '_' then
      let name := cs.takeWhile isNameChar
      some (.param (String.ofList name) quoted, cs.drop name.length)
    else none
  | [] => none

/-- Appends a literal character to the segments read so far (newest first). -/
def pushChar (segs : List Segment) (c : Char) (quoted : Bool) : List Segment :=
  match segs with
  | .lit t q :: rest => if q == quoted then .lit (t.push c) q :: rest else .lit (String.singleton c) quoted :: segs
  | _ => .lit (String.singleton c) quoted :: segs

/-- Reads the inside of double quotes: the segments (newest first) and the rest after the
closing quote. -/
def doubleQuoted (fuel : Nat) (segs : List Segment) (cs : List Char) : List Segment × List Char :=
  match fuel with
  | 0 => (segs, cs)
  | fuel + 1 =>
    match cs with
    | [] => (segs, [])
    | '"' :: rest => (segs, rest)
    | '\\' :: '\n' :: rest => doubleQuoted fuel segs rest
    | '\\' :: c :: rest =>
      if "$\"\\`".toList.contains c then doubleQuoted fuel (pushChar segs c true) rest
      else doubleQuoted fuel (pushChar (pushChar segs '\\' true) c true) rest
    | '$' :: rest =>
      match dollar rest true with
      | some (s, r) => doubleQuoted fuel (s :: segs) r
      | none => doubleQuoted fuel (pushChar segs '$' true) rest
    | c :: rest => doubleQuoted fuel (pushChar segs c true) rest

/-- Reads a word: its segments (newest first) and the rest of the text. -/
def readWord (fuel : Nat) (segs : List Segment) (cs : List Char) : List Segment × List Char :=
  match fuel with
  | 0 => (segs, cs)
  | fuel + 1 =>
    match cs with
    | [] => (segs, [])
    | c :: rest =>
      if isMeta c then (segs, cs)
      else if c == '\'' then
        let inner := rest.takeWhile (· != '\'')
        let segs := if inner.isEmpty then pushQuotedEmpty segs else
          inner.foldl (fun s ch => pushChar s ch true) segs
        readWord fuel segs (rest.drop (inner.length + 1))
      else if c == '"' then
        let (segs', r) := doubleQuoted (rest.length + 1) (pushQuotedEmpty segs) rest
        readWord fuel segs' r
      else if c == '\\' then
        match rest with
        | '\n' :: r => readWord fuel segs r
        | d :: r => readWord fuel (pushChar segs d true) r
        | [] => (pushChar segs '\\' false, [])
      else if c == '$' then
        match dollar rest false with
        | some (s, r) => readWord fuel (s :: segs) r
        | none => readWord fuel (pushChar segs '$' false) rest
      else readWord fuel (pushChar segs c false) rest
where
  /-- Marks that a word has a quoted part even when the quotes hold nothing. -/
  pushQuotedEmpty (segs : List Segment) : List Segment := .lit "" true :: segs

/-- Splits text at its first line end: the line and what follows the line end. -/
def splitLine (cs : List Char) : List Char × List Char :=
  let line := cs.takeWhile (· != '\n')
  (line, cs.drop (line.length + 1))

/-- Takes a here-document body of lines up to the delimiter line: the body and the rest. -/
def takeBody (delim : String) (stripTabs : Bool) (fuel : Nat) (acc : String) (cs : List Char) :
    String × List Char :=
  match fuel with
  | 0 => (acc, cs)
  | fuel + 1 =>
    if cs.isEmpty then (acc, [])
    else
      let (line, rest) := splitLine cs
      let line := if stripTabs then line.dropWhile (· == '\t') else line
      if String.ofList line == delim then (acc, rest)
      else takeBody delim stripTabs fuel (acc ++ String.ofList line ++ "\n") rest

/-- Cuts a script into tokens. -/
def lexWith (fuel : Nat) (acc : List Token) (cs : List Char) : List Token :=
  match fuel with
  | 0 => acc.reverse
  | fuel + 1 =>
    match cs with
    | [] => acc.reverse
    | ' ' :: rest | '\t' :: rest => lexWith fuel acc rest
    | '\\' :: '\n' :: rest => lexWith fuel acc rest
    | '\n' :: rest => lexWith fuel (.newline :: acc) rest
    | '#' :: rest => lexWith fuel acc (rest.dropWhile (· != '\n'))
    | ';' :: ';' :: rest => lexWith fuel (.op ";;" :: acc) rest
    | '&' :: '&' :: rest => lexWith fuel (.op "&&" :: acc) rest
    | '|' :: '|' :: rest => lexWith fuel (.op "||" :: acc) rest
    | '<' :: '<' :: rest =>
      let (stripTabs, rest) := match rest with
        | '-' :: r => (true, r)
        | r => (false, r)
      let rest := rest.dropWhile fun c => c == ' ' || c == '\t'
      let (segs, rest) := readWord (rest.length + 1) [] rest
      let quoted := segs.any fun s => match s with | .lit _ q => q | _ => true
      let delim := String.join (segs.reverse.map fun s => match s with | .lit t _ => t | _ => "")
      let (line, after) := splitLine rest
      let (body, after) := takeBody delim stripTabs (after.length + 1) "" after
      lexWith fuel (Token.heredoc body (!quoted) :: acc) (line ++ '\n' :: after)
    | '>' :: rest | '<' :: rest =>
      let rest := match rest with
        | '>' :: r => r
        | '&' :: r => r
        | r => r
      let rest := rest.dropWhile fun c => c == ' ' || c == '\t'
      let (_, rest) := readWord (rest.length + 1) [] rest
      lexWith fuel (.redirect :: acc) rest
    | c :: rest =>
      if c.isDigit && (rest.head? == some '>' || rest.head? == some '<') then lexWith fuel acc rest
      else if c == ';' || c == '&' || c == '|' || c == '(' || c == ')' then
        lexWith fuel (.op (String.singleton c) :: acc) rest
      else
        let (segs, rest') := readWord (cs.length + 1) [] cs
        lexWith fuel (.word segs.reverse :: acc) rest'

/-- The tokens of a script. -/
def lex (text : String) : List Token := lexWith (2 * text.length + 2) [] text.toList

mutual
/-- A command. -/
inductive Command where
  /-- Assignments, words, and the here-document given as input. -/
  | simple (assigns : List (String × Word)) (words : List Word) (input : Option (String × Bool))
  | group (body : List Pipeline)
  | forIn (var : String) (items : Option (List Word)) (body : List Pipeline)
  | caseOf (subject : Word) (arms : List (List Word × List Pipeline))
/-- Commands joined by `&&` and `||`: the first, then each operator (true for `&&`) and
command. -/
inductive Pipeline where
  | chain (first : Command) (rest : List (Bool × Command))
end

instance : Inhabited Command := ⟨.simple [] [] none⟩

/-- Whether a token is the plain word `w`. -/
def isWord (t : Token) (w : String) : Bool :=
  match t with
  | .word ws => ws.plain? == some w
  | _ => false

/-- Whether a token ends a list of commands. -/
def endsList (t : Token) : Bool :=
  ["done", "esac", "\x7d", "do", "then", "fi", "elif", "else", "in"].any (isWord t) ||
    match t with
    | .op ";;" | .op ")" => true
    | _ => false

/-- Drops separators: line ends and semicolons. -/
def skipSeparators : List Token → List Token
  | .newline :: rest => skipSeparators rest
  | .op ";" :: rest => skipSeparators rest
  | .op "&" :: rest => skipSeparators rest
  | ts => ts

/-- Drops line ends. -/
def skipNewlines : List Token → List Token
  | .newline :: rest => skipNewlines rest
  | ts => ts

/-- A variable assignment `name=value`. -/
def assignment? (w : Word) : Option (String × Word) :=
  match w with
  | .lit t false :: rest =>
    match t.splitOn "=" with
    | name :: value :: more =>
      if !name.isEmpty && name.toList.all isNameChar && !(name.toList.head?.map Char.isDigit).getD true then
        some (name, .lit ("=".intercalate (value :: more)) false :: rest)
      else none
    | _ => none
  | _ => none

mutual
/-- Parses commands up to a token that ends a list. -/
def parseList (fuel : Nat) (ts : List Token) : List Pipeline × List Token :=
  match fuel with
  | 0 => ([], ts)
  | fuel + 1 =>
    let ts := skipSeparators ts
    match ts with
    | [] => ([], [])
    | t :: _ =>
      if endsList t then ([], ts)
      else
        let (p, rest) := parsePipeline fuel ts
        let (ps, rest) := parseList fuel rest
        (p :: ps, rest)

/-- Parses commands joined by `&&` and `||`. -/
def parsePipeline (fuel : Nat) (ts : List Token) : Pipeline × List Token :=
  match fuel with
  | 0 => (.chain default [], ts)
  | fuel + 1 =>
    let (c, rest) := parseCommand fuel ts
    let (more, rest) := parseChain fuel rest
    (.chain c more, rest)

/-- Parses the `&&` and `||` links after a command. -/
def parseChain (fuel : Nat) (ts : List Token) : List (Bool × Command) × List Token :=
  match fuel with
  | 0 => ([], ts)
  | fuel + 1 =>
    match ts with
    | .op "&&" :: rest =>
      let (c, rest) := parseCommand fuel (skipNewlines rest)
      let (more, rest) := parseChain fuel rest
      ((true, c) :: more, rest)
    | .op "||" :: rest =>
      let (c, rest) := parseCommand fuel (skipNewlines rest)
      let (more, rest) := parseChain fuel rest
      ((false, c) :: more, rest)
    | .op "|" :: rest =>
      -- the output of a pipe's left side is passed over; its right side runs alone
      let (c, rest) := parseCommand fuel (skipNewlines rest)
      let (more, rest) := parseChain fuel rest
      ((true, c) :: more, rest)
    | _ => ([], ts)

/-- Parses one command. -/
def parseCommand (fuel : Nat) (ts : List Token) : Command × List Token :=
  match fuel with
  | 0 => (default, ts)
  | fuel + 1 =>
    match ts with
    | t :: rest =>
      if isWord t "\x7b" then
        let (body, rest) := parseList fuel rest
        let rest := match rest with
          | t :: r => if isWord t "\x7d" then r else t :: r
          | [] => []
        (.group body, rest)
      else if isWord t "for" then
        match rest with
        | .word v :: rest =>
          let var := (Word.plain? v).getD ""
          let rest := skipNewlines rest
          let (items, rest) := match rest with
            | t :: r =>
              if isWord t "in" then
                let ws := r.takeWhile fun t => match t with | .word _ => true | _ => false
                (some (ws.filterMap fun t => match t with | .word w => some w | _ => none),
                  r.drop ws.length)
              else (none, t :: r)
            | [] => (none, [])
          let rest := skipSeparators rest
          let rest := match rest with
            | t :: r => if isWord t "do" then r else t :: r
            | [] => []
          let (body, rest) := parseList fuel rest
          let rest := match rest with
            | t :: r => if isWord t "done" then r else t :: r
            | [] => []
          (.forIn var items body, rest)
        | _ => (default, rest)
      else if isWord t "case" then
        match rest with
        | .word subject :: rest =>
          let rest := skipNewlines rest
          let rest := match rest with
            | t :: r => if isWord t "in" then r else t :: r
            | [] => []
          let (arms, rest) := parseArms fuel rest
          (.caseOf subject arms, rest)
        | _ => (default, rest)
      else parseSimple fuel [] [] none ts
    | [] => (default, [])

/-- Parses the arms of a `case` up to `esac`. -/
def parseArms (fuel : Nat) (ts : List Token) : List (List Word × List Pipeline) × List Token :=
  match fuel with
  | 0 => ([], ts)
  | fuel + 1 =>
    match skipNewlines ts with
    | [] => ([], [])
    | t :: rest =>
      if isWord t "esac" then ([], rest)
      else
        let ts := match t with
          | .op "(" => rest
          | _ => t :: rest
        let (pats, rest) := parsePatterns fuel ts
        let (body, rest) := parseList fuel rest
        let rest := match rest with
          | .op ";;" :: r => r
          | r => r
        let (arms, rest) := parseArms fuel rest
        ((pats, body) :: arms, rest)

/-- Parses `p1 | p2 … )`. -/
def parsePatterns (fuel : Nat) (ts : List Token) : List Word × List Token :=
  match fuel with
  | 0 => ([], ts)
  | fuel + 1 =>
    match ts with
    | .word w :: .op "|" :: rest =>
      let (ps, rest) := parsePatterns fuel rest
      (w :: ps, rest)
    | .word w :: .op ")" :: rest => ([w], rest)
    | .word w :: rest => ([w], rest)
    | _ :: rest => ([], rest)
    | [] => ([], [])

/-- Parses a simple command: assignments, then words, with redirections and here-documents. -/
def parseSimple (fuel : Nat) (assigns : List (String × Word)) (words : List Word)
    (input : Option (String × Bool)) (ts : List Token) : Command × List Token :=
  match fuel with
  | 0 => (.simple assigns.reverse words.reverse input, ts)
  | fuel + 1 =>
    match ts with
    | .word w :: rest =>
      match words, assignment? w with
      | [], some a => parseSimple fuel (a :: assigns) words input rest
      | _, _ => parseSimple fuel assigns (w :: words) input rest
    | .heredoc body expand :: rest => parseSimple fuel assigns words (some (body, expand)) rest
    | .redirect :: rest => parseSimple fuel assigns words input rest
    | _ => (.simple assigns.reverse words.reverse input, ts)
end

/-- The commands of a script. -/
def parse (text : String) : List Pipeline :=
  let ts := lex text
  (parseList (ts.length + 1) ts).1

end JavaBuild.Shell
