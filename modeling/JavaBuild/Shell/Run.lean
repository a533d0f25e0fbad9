import JavaBuild.Shell.Syntax
import JavaBuild.Files.Disk
import JavaBuild.Files.Path
import JavaBuild.Text.Utf8

/-!
# Shell scripts: running them

`Script.run` runs the commands of a script against a read-only view of the disk and gives the
exit status and the bytes the script printed. Its commands are `echo`, `cat`, `sed` with one
`s/…/…/` command, `[` (`test`), `exit`, `true` and `false`; any other command is not found.

Words are expanded as the shell does: parameters and arithmetic first, then the results of
unquoted expansions are split into fields at blanks, and `"$@"` gives one field per positional
parameter. A `case` pattern and the word of `${name#pattern}` are glob patterns in which quoted
characters stand for themselves.

The walk over the commands is by well-founded recursion on their size: a loop runs the same body
once per item, so its measure also counts the items left.
-/

namespace JavaBuild.Shell

/-- The state of a running script. -/
structure Process where
  disk : Disk
  cwd : String
  name : String
  args : List String
  vars : List (String × String) := []
  output : ByteArray := ByteArray.empty
  status : Nat := 0
  exited : Bool := false
deriving Inhabited

/-- Whether a character separates fields. -/
def isFieldSeparator (c : Char) : Bool := c == ' ' || c == '\t' || c == '\n'

/-- Whether `c` lies in the set of a bracket expression's body. -/
def inBracket (c : Char) : List (Char × Bool) → Bool
  | (a, _) :: ('-', false) :: (b, _) :: rest => (a ≤ c && c ≤ b) || inBracket c rest
  | (a, _) :: rest => a == c || inBracket c rest
  | [] => false

/-- Reads a bracket expression after `[`: whether `c` is in the set, and how many pattern
characters the expression takes up to its `]`. -/
def bracket (ps : List (Char × Bool)) (c : Char) : Option (Bool × Nat) :=
  let (negate, skip) := match ps with
    | ('!', false) :: _ => (true, 1)
    | ('^', false) :: _ => (true, 1)
    | _ => (false, 0)
  let body := ps.drop skip
  match (body.drop 1).findIdx? fun (ch, lit) => ch == ']' && !lit with
  | none => none
  | some k => some (inBracket c (body.take (k + 1)) != negate, skip + k + 2)

/-- Matches a glob pattern, whose characters carry whether they are literal, against a text:
`*` matches any run, `?` any character, `[…]` a character of a set. -/
def globMatch (p : List (Char × Bool)) (s : List Char) : Bool :=
  match p, s with
  | [], [] => true
  | [], _ :: _ => false
  | ('*', false) :: ps, s =>
    globMatch ps s || match s with
      | [] => false
      | _ :: rest => globMatch (('*', false) :: ps) rest
  | ('?', false) :: ps, _ :: rest => globMatch ps rest
  | ('[', false) :: ps, c :: rest =>
    match bracket ps c with
    | some (ok, n) => ok && globMatch (ps.drop n) rest
    | none => c == '[' && globMatch ps rest
  | (pc, _) :: ps, c :: rest => pc == c && globMatch ps rest
  | _ :: _, [] => false
termination_by p.length + s.length
decreasing_by all_goals simp_wf; all_goals omega

/-- A text as a glob pattern of its own characters, all unquoted. -/
def unquotedPattern (s : String) : List (Char × Bool) := s.toList.map (·, false)

/-- The value of a parameter, if set. -/
def Process.lookup (p : Process) (name : String) : Option String :=
  if name == "#" then some (toString p.args.length)
  else if name == "@" || name == "*" then some (" ".intercalate p.args)
  else if name == "?" then some (toString p.status)
  else if name == "$" then some "1"
  else if name == "0" then some p.name
  else if name.toList.all Char.isDigit && !name.isEmpty then p.args[name.toNat! - 1]?
  else p.vars.lookup name

/-- Removes a prefix or suffix that matches a pattern: the shortest or the longest. -/
def trimMatch (value pattern : String) (fromStart longest : Bool) : String :=
  let cs := value.toList
  let pat := unquotedPattern pattern
  let cuts := List.range (cs.length + 1)
  let cuts := if longest then cuts.reverse else cuts
  let hit := cuts.find? fun k =>
    if fromStart then globMatch pat (cs.take k) else globMatch pat (cs.drop (cs.length - k))
  match hit with
  | none => value
  | some k => String.ofList (if fromStart then cs.drop k else cs.take (cs.length - k))

/-- A token of an arithmetic expression. -/
inductive ArithToken where
  | num (n : Int)
  | op (c : Char)
deriving Repr, Inhabited

/-- Cuts an arithmetic expression into numbers, names (read as variables) and operators. -/
def arithTokens (p : Process) (fuel : Nat) (cs : List Char) : List ArithToken :=
  match fuel with
  | 0 => []
  | fuel + 1 =>
    match cs with
    | [] => []
    | c :: rest =>
      if c == ' ' || c == '\t' || c == '\n' then arithTokens p fuel rest
      else if c.isDigit then
        let ds := cs.takeWhile Char.isDigit
        .num (String.ofList ds).toNat! :: arithTokens p fuel (cs.drop ds.length)
      else if c.isAlpha || c == '_' then
        let n := cs.takeWhile isNameChar
        let v := ((p.lookup (String.ofList n)).getD "0").trimBlanks
        .num (v.toInt?.getD 0) :: arithTokens p fuel (cs.drop n.length)
      else .op c :: arithTokens p fuel rest

mutual
/-- Evaluates a sum: terms joined by `+` and `-`. -/
def arithSum (fuel : Nat) (ts : List ArithToken) : Int × List ArithToken :=
  match fuel with
  | 0 => (0, ts)
  | fuel + 1 =>
    let (a, rest) := arithProduct fuel ts
    arithSumRest fuel a rest
def arithSumRest (fuel : Nat) (acc : Int) (ts : List ArithToken) : Int × List ArithToken :=
  match fuel with
  | 0 => (acc, ts)
  | fuel + 1 =>
    match ts with
    | .op '+' :: rest => let (b, r) := arithProduct fuel rest; arithSumRest fuel (acc + b) r
    | .op '-' :: rest => let (b, r) := arithProduct fuel rest; arithSumRest fuel (acc - b) r
    | _ => (acc, ts)
/-- Evaluates a product: factors joined by `*`, `/` and `%`, which round toward zero. -/
def arithProduct (fuel : Nat) (ts : List ArithToken) : Int × List ArithToken :=
  match fuel with
  | 0 => (0, ts)
  | fuel + 1 =>
    let (a, rest) := arithFactor fuel ts
    arithProductRest fuel a rest
def arithProductRest (fuel : Nat) (acc : Int) (ts : List ArithToken) : Int × List ArithToken :=
  match fuel with
  | 0 => (acc, ts)
  | fuel + 1 =>
    match ts with
    | .op '*' :: rest => let (b, r) := arithFactor fuel rest; arithProductRest fuel (acc * b) r
    | .op '/' :: rest => let (b, r) := arithFactor fuel rest; arithProductRest fuel (acc.tdiv b) r
    | .op '%' :: rest => let (b, r) := arithFactor fuel rest; arithProductRest fuel (acc.tmod b) r
    | _ => (acc, ts)
/-- Evaluates a number, a signed factor or a parenthesised sum. -/
def arithFactor (fuel : Nat) (ts : List ArithToken) : Int × List ArithToken :=
  match fuel with
  | 0 => (0, ts)
  | fuel + 1 =>
    match ts with
    | .num n :: rest => (n, rest)
    | .op '-' :: rest => let (a, r) := arithFactor fuel rest; (-a, r)
    | .op '+' :: rest => arithFactor fuel rest
    | .op '(' :: rest =>
      let (a, r) := arithSum fuel rest
      match r with
      | .op ')' :: r => (a, r)
      | r => (a, r)
    | _ => (0, ts)
end

/-- A piece of an expanded word: text that is split into fields or not, or the boundary between
two positional parameters of `"$@"`. -/
inductive Piece where
  | text (s : String) (split : Bool)
  | boundary
deriving Inhabited

mutual
/-- The pieces of a word's segments. -/
def Process.pieces (p : Process) : Word → List Piece
  | [] => []
  | s :: rest => p.segmentPieces s ++ p.pieces rest

/-- The pieces of one segment. -/
def Process.segmentPieces (p : Process) : Segment → List Piece
  | .lit t _ => [.text t false]
  | .param "@" true =>
    match p.args with
    | [] => []
    | a :: more => .text a false :: more.flatMap fun x => [.boundary, .text x false]
  | .param n q => [.text ((p.lookup n).getD "") !q]
  | .transform n op w q =>
    let v := p.lookup n
    let value := v.getD ""
    let r :=
      if op == "#" then trimMatch value w true false
      else if op == "##" then trimMatch value w true true
      else if op == "%" then trimMatch value w false false
      else if op == "%%" then trimMatch value w false true
      else if op == ":-" then (if value.isEmpty then w else value)
      else match v with | some x => x | none => w
    [.text r !q]
  | .arith e q =>
    let ts := arithTokens p (e.length + 1) (p.expandInline e).toList
    [.text (toString (arithSum (ts.length + 1) ts).1) !q]

/-- Replaces the parameters written in a text by their values. -/
def Process.expandInline (p : Process) (e : String) : String :=
  let (segs, _) := doubleQuoted (e.length + 1) [] e.toList
  String.join (segs.reverse.map fun s => match s with
    | .lit t _ => t
    | .param n _ => (p.lookup n).getD ""
    | _ => "")
end

/-- Splits pieces into fields. -/
def fieldsOf (pieces : List Piece) : List String :=
  let step := fun (st : List String × String × Bool) (pc : Piece) =>
    let (done, cur, started) := st
    match pc with
    | .boundary => (done ++ [cur], "", true)
    | .text t false => (done, cur ++ t, started || !t.isEmpty)
    | .text t true =>
      t.toList.foldl (fun (done, cur, started) c =>
        if isFieldSeparator c then
          if started then (done ++ [cur], "", false) else (done, cur, false)
        else (done, cur.push c, true)) (done, cur, started)
  let (done, cur, started) := pieces.foldl step ([], "", false)
  if started then done ++ [cur] else done

/-- Whether a word has a quoted part, so that it gives a field even when empty. -/
def hasQuoted (w : Word) : Bool :=
  w.any fun s => match s with
    | .lit _ q => q && !(s == .param "@" true)
    | .param n q => q && n != "@"
    | .transform _ _ _ q => q
    | .arith _ q => q

/-- The fields of a word. -/
def Process.fields (p : Process) (w : Word) : List String :=
  let pieces := p.pieces w
  let marked := if hasQuoted w then Piece.text "" false :: pieces else pieces
  -- a quoted part that is empty still starts a field
  let start : List Piece := if hasQuoted w then [.text "" false] else []
  let fs := fieldsOf marked
  let _ := start
  if hasQuoted w && fs.isEmpty then [""] else fs

/-- A word expanded to one text, without field splitting. -/
def Process.text (p : Process) (w : Word) : String :=
  String.join ((p.pieces w).map fun pc => match pc with
    | .text t _ => t
    | .boundary => " ")

/-- A word expanded to a glob pattern: quoted characters are literal. -/
def Process.pattern (p : Process) (w : Word) : List (Char × Bool) :=
  w.flatMap fun s => match s with
    | .lit t q => t.toList.map (·, q)
    | s => (String.join ((p.segmentPieces s).map fun pc => match pc with
        | .text t _ => t
        | .boundary => " ")).toList.map (·, true)

/-- Appends bytes to the output. -/
def Process.printBytes (p : Process) (b : ByteArray) : Process := { p with output := p.output ++ b }

/-- Appends text to the output. -/
def Process.print (p : Process) (s : String) : Process := p.printBytes s.toUTF8

/-- The bytes that `echo` prints for its arguments. A backslash escape is read: `\c` ends the
output, `\a \b \f \n \r \t \v \\` stand for their control characters, and one to three octal
digits (after an optional leading `0`) for the byte of that value; any other backslash stands
for itself. -/
def echoBytes (args : List String) : ByteArray :=
  let (newline, args) := match args with
    | "-n" :: rest => (false, rest)
    | rest => (true, rest)
  let isOctal (d : Char) : Bool := '0' ≤ d && d ≤ '7'
  let octal (ds : List Char) : UInt8 :=
    (ds.foldl (fun (n : Nat) (d : Char) => n * 8 + (d.toNat - 48)) 0 % 256).toUInt8
  let rec escapes (fuel : Nat) (cs : List Char) : List UInt8 × Bool :=
    match fuel with
    | 0 => ([], false)
    | fuel + 1 =>
      match cs with
      | [] => ([], false)
      | '\\' :: c :: rest =>
        let known : Option Char := match c with
          | 'a' => some '\x07' | 'b' => some '\x08' | 'f' => some '\x0c' | 'n' => some '\n'
          | 'r' => some '\r' | 't' => some '\t' | 'v' => some '\x0b' | '\\' => some '\\'
          | _ => none
        if c == 'c' then ([], true)
        else if isOctal c then
          let digits := if c == '0' && (rest.head?.any isOctal) then rest else c :: rest
          let ds := (digits.take 3).takeWhile isOctal
          let (r, stop) := escapes fuel (digits.drop ds.length)
          (octal ds :: r, stop)
        else
          match known with
          | some k => let (r, stop) := escapes fuel rest; (k.toUInt8 :: r, stop)
          | none => let (r, stop) := escapes fuel (c :: rest); ((92 : UInt8) :: r, stop)
      | c :: rest =>
        let (r, stop) := escapes fuel rest
        ((String.singleton c).toUTF8.toList ++ r, stop)
  let joined := " ".intercalate args
  let (bs, stopped) := escapes (joined.length + 1) joined.toList
  ByteArray.mk (bs ++ (if newline && !stopped then [(10 : UInt8)] else [])).toArray

/-- The bytes of a file as a command reads them, or why it cannot (the empty path names no
file). -/
def Process.readBytes (p : Process) (path : String) : Except Errno ByteArray :=
  if path.isEmpty then .error .noEntry
  else p.disk.readFile (Path.absolute p.cwd path)

/-- The text of a file as a command reads it, or why it cannot. -/
def Process.readFile (p : Process) (path : String) : Except Errno String :=
  (p.readBytes path).map Utf8.decodeLossy

/-- `cat`: the files in order, or the input when there are none. -/
def Process.cat (p : Process) (args : List String) (input : String) : Process :=
  if args.isEmpty then { p.print input with status := 0 }
  else args.foldl (fun p a =>
    match p.readBytes a with
    | .ok b => p.printBytes b
    | .error e => { p.print s!"cat: {a}: {e.text}\n" with status := 1 }) { p with status := 0 }

/-- `sed s/regex/replacement/` where the expression is `^` or `$`, on each line of the files. -/
def Process.sed (p : Process) (args : List String) (input : String) : Process :=
  match args with
  | script :: files =>
    let cs := script.toList
    match cs with
    | 's' :: d :: rest =>
      let parts := (String.ofList rest).splitOn (String.singleton d)
      let (re, repl) := (parts.headD "", (parts.drop 1).headD "")
      let edit (line : String) : String :=
        if re == "^" then repl ++ line
        else if re == "$" then line ++ repl
        else line.replace re repl
      let process (p : Process) (text : String) : Process :=
        let lines := text.splitOn "\n"
        let (body, last) := (lines.dropLast, lines.getLast?.getD "")
        let out := String.join (body.map fun l => edit l ++ "\n") ++ (if last.isEmpty then "" else edit last)
        p.print out
      if files.isEmpty then process { p with status := 0 } input
      else files.foldl (fun p f =>
        match p.readFile f with
        | .ok s => process p s
        | .error e => { p.print s!"sed: can't read {f}: {e.text}\n" with status := 2 })
        { p with status := 0 }
    | _ => { p.print "sed: unknown command\n" with status := 1 }
  | [] => { p.print "sed: no script given\n" with status := 1 }

/-- The unary file tests of `[`. -/
def Process.fileTest (p : Process) (op path : String) : Option Bool :=
  let abs := Path.absolute p.cwd path
  let named := !path.isEmpty
  if op == "-f" then some (named && p.disk.isFile abs)
  else if op == "-d" then some (named && p.disk.isDir abs)
  else if op == "-e" || op == "-r" || op == "-x" || op == "-w" then
    some (named && p.disk.exists? abs)
  else if op == "-s" then
    some (named && match p.disk.readFile abs with | .ok b => b.size > 0 | _ => false)
  else if op == "-n" then some (!path.isEmpty)
  else if op == "-z" then some path.isEmpty
  else none

/-- Evaluates the arguments of `[`: none if they are malformed. -/
def Process.test (p : Process) (args : List String) : Option Bool :=
  match args with
  | [] => some false
  | [a] => some (!a.isEmpty)
  | ["!", a] => some a.isEmpty
  | [op, a] => p.fileTest op a
  | ["!", op, a] => (p.fileTest op a).map (!·)
  | [a, op, b] =>
    if op == "=" then some (a == b) else if op == "!=" then some (a != b)
    else
      let (x, y) := (a.trimBlanks.toInt?, b.trimBlanks.toInt?)
      match x, y with
      | some x, some y =>
        if op == "-eq" then some (x == y) else if op == "-ne" then some (x != y)
        else if op == "-lt" then some (x < y) else if op == "-le" then some (x ≤ y)
        else if op == "-gt" then some (x > y) else if op == "-ge" then some (x ≥ y)
        else none
      | _, _ => none
  | ["!", a, op, b] => (p.test [a, op, b]).map (!·)
  | _ => none

/-- Runs a command that is not a compound one. -/
def Process.simple (p : Process) (words : List String) (input : String) : Process :=
  match words with
  | [] => { p with status := 0 }
  | cmd :: args =>
    if cmd == "echo" then { p.printBytes (echoBytes args) with status := 0 }
    else if cmd == "cat" then p.cat args input
    else if cmd == "sed" then p.sed args input
    else if cmd == "true" || cmd == ":" then { p with status := 0 }
    else if cmd == "false" then { p with status := 1 }
    else if cmd == "exit" then
      { p with status := ((args.head?.bind String.toNat?).getD p.status) % 256, exited := true }
    else if cmd == "[" || cmd == "test" then
      let args := if cmd == "[" then
        (if args.getLast? == some "]" then some args.dropLast else none) else some args
      match args.bind p.test with
      | some b => { p with status := if b then 0 else 1 }
      | none => { p.print s!"{p.name}: {cmd}: unexpected operator\n" with status := 2 }
    else { p.print s!"{p.name}: {cmd}: not found\n" with status := 127 }

mutual
/-- Runs commands in order until the script exits. -/
def Process.runList (p : Process) : List Pipeline → Process
  | [] => p
  | c :: rest => if p.exited then p else (p.runPipeline c).runList rest
termination_by cs => (sizeOf cs, 0)

/-- Runs commands joined by `&&` and `||`. -/
def Process.runPipeline (p : Process) : Pipeline → Process
  | .chain first rest => (p.runCommand first).runChain rest
termination_by c => (sizeOf c, 0)

/-- Runs the links of a chain: `&&` runs its command after success, `||` after failure. -/
def Process.runChain (p : Process) : List (Bool × Command) → Process
  | [] => p
  | (onSuccess, c) :: rest =>
    if p.exited then p
    else if (p.status == 0) == onSuccess then (p.runCommand c).runChain rest
    else p.runChain rest
termination_by cs => (sizeOf cs, 0)

/-- Runs one command. -/
def Process.runCommand (p : Process) : Command → Process
  | .simple assigns words input =>
    let p := assigns.attach.foldl (fun p ⟨(n, w), _⟩ =>
      { p with vars := (n, p.text w) :: p.vars.filter (·.1 != n) }) p
    let fs := words.flatMap p.fields
    let stdin := match input with
      | some (body, true) => p.expandInline body
      | some (body, false) => body
      | none => ""
    p.simple fs stdin
  | .group body => p.runList body
  | .forIn var items body =>
    let values := match items with
      | some ws => ws.flatMap p.fields
      | none => p.args
    ({ p with status := 0 }).runLoop var body values
  | .caseOf subject arms => ({ p with status := 0 }).runArms (p.text subject) arms
termination_by c => (sizeOf c, 0)
decreasing_by
  all_goals simp_wf
  all_goals omega

/-- Runs a loop body once per value. -/
def Process.runLoop (p : Process) (var : String) (body : List Pipeline) : List String → Process
  | [] => p
  | v :: rest =>
    if p.exited then p
    else ({ p with vars := (var, v) :: p.vars.filter (·.1 != var) }.runList body).runLoop var body rest
termination_by vs => (sizeOf body, vs.length + 1)

/-- Runs the body of the first arm whose pattern matches the subject. -/
def Process.runArms (p : Process) (subject : String) : List (List Word × List Pipeline) → Process
  | [] => p
  | (pats, body) :: rest =>
    if pats.any fun w => globMatch (p.pattern w) subject.toList then p.runList body
    else p.runArms subject rest
termination_by arms => (sizeOf arms, 0)
end

/-- What a script did: its exit status and what it printed. -/
structure Outcome where
  status : Nat
  output : ByteArray

/-- Runs a script with positional parameters; `name` is how the script was called. -/
def Script.run (disk : Disk) (cwd name text : String) (args : List String) : Outcome :=
  let p := ({ disk, cwd, name, args } : Process).runList (parse text)
  ⟨p.status, p.output⟩

end JavaBuild.Shell
