import JavaBuild.Text.Word
import JavaBuild.Text.Blank

/-!
# Scanning Java source text

The scans of Java sources in this library look at text, not at a parse tree. They first blank
out comments, `//` to the end of the line and `/*` to the first `*/` after it (an unclosed `/*`
is left alone), each replaced by one space. Some scans also replace string and character
literals by `""`: a text block from `"""` to the next `"""`, a string from `"` to the next `"`
on the same line, a character literal likewise with `'`; inside the last two a backslash escapes
the next character, which may not be a line feed. A literal that does not close is left alone.

A *word boundary* lies between a word character and a character that is not one (the ends of the
text count as non-word characters).
-/

namespace JavaBuild.Text

/-- Whether the character at position `i` (if any) is a word character. -/
def wordAt (cs : Array Char) (i : Nat) : Bool :=
  match cs[i]? with
  | some c => isWordChar c
  | none => false

/-- Whether there is a word boundary before position `i`. -/
def boundaryAt (cs : Array Char) (i : Nat) : Bool :=
  (if i = 0 then false else wordAt cs (i - 1)) != wordAt cs i

/-- The length of a comment starting at the head of `cs`, if one does. -/
def commentLength (cs : List Char) : Option Nat :=
  match cs with
  | '/' :: '/' :: rest => some (2 + (rest.takeWhile (· != '\n')).length)
  | '/' :: '*' :: rest =>
    let rec close (r : List Char) (n : Nat) : Option Nat :=
      match r with
      | '*' :: '/' :: _ => some (n + 2)
      | _ :: r' => close r' (n + 1)
      | [] => none
    (close rest 0).map (2 + ·)
  | _ => none

/-- The text with every comment replaced by one space. -/
def blankComments (cs : List Char) : List Char :=
  match cs with
  | [] => []
  | c :: rest =>
    match commentLength (c :: rest) with
    | some n =>
      if _hn : 0 < n then ' ' :: blankComments ((c :: rest).drop n)
      else c :: blankComments rest
    | none => c :: blankComments rest
termination_by cs.length
decreasing_by
  · simp; omega
  · simp
  · simp

/-- The length of a quoted literal closed by `q` on the same line, after the opening quote. -/
def quotedLength (q : Char) : List Char → Nat → Option Nat
  | [], _ => none
  | c :: rest, n =>
    if c == q then some (n + 1)
    else if c == '\n' then none
    else if c == '\\' then
      match rest with
      | d :: rest' => if d == '\n' then none else quotedLength q rest' (n + 2)
      | [] => none
    else quotedLength q rest (n + 1)

/-- The length of a text block after its opening `"""`, up to and including the closing one. -/
def blockLength : List Char → Nat → Option Nat
  | '"' :: '"' :: '"' :: _, n => some (n + 3)
  | _ :: rest, n => blockLength rest (n + 1)
  | [], _ => none

/-- The length of a literal starting at the head of `cs`, if one does. -/
def literalLength (cs : List Char) : Option Nat :=
  match cs with
  | '"' :: '"' :: '"' :: rest =>
    match blockLength rest 0 with
    | some n => some (3 + n)
    | none => some 2
  | '"' :: rest => (quotedLength '"' rest 0).map (1 + ·)
  | '\'' :: rest => (quotedLength '\'' rest 0).map (1 + ·)
  | _ => none

/-- The text with every literal replaced by `""`. -/
def blankLiterals (cs : List Char) : List Char :=
  match cs with
  | [] => []
  | c :: rest =>
    match literalLength (c :: rest) with
    | some n =>
      if 0 < n then '"' :: '"' :: blankLiterals ((c :: rest).drop n)
      else c :: blankLiterals rest
    | none => c :: blankLiterals rest
termination_by cs.length
decreasing_by
  · simp; omega
  · simp
  · simp

end JavaBuild.Text
