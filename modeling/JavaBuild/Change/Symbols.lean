import JavaBuild.Text.Java
import JavaBuild.Data.Assoc

/-!
# Symbols of Java sources

A scan of a source's text tells what it declares and what it may use, without parsing it:

- its package, from the first line `package <name>;`;
- its imports, from the lines `import [static] <name>[.*];`;
- the types it declares, the names after `class`, `interface`, `enum` or `record`;
- its references: every word that starts with an upper-case letter, and every qualified name
  `a.b.C` whose segments start with a lower-case letter (or `_`, `$`) and whose last segment
  starts with an upper-case one, outside the package and import lines and other than the
  declared types.

Comments are blanked out first, then string, character and text-block literals. A file *uses*
another when it may reference one of its types: by qualified name, by an import of the type (or
of a member or nested type of it), or by simple name from the same package or through an import
of the whole package.

Each pattern is read at a position by a small matcher that takes the longest run of the
characters it allows; the scans then look for matches from left to right.
-/

namespace JavaBuild.Change

open Text

/-- What a source file declares and may use. -/
structure Symbols where
  package : String
  types : List String
  imports : List String
  references : List String
deriving DecidableEq, Repr, Inhabited

/-- The length of the run of characters satisfying `p` from position `i`. -/
def runLength (s : Array Char) (p : Char → Bool) (i : Nat) : Nat :=
  ((s.toList.drop i).takeWhile p).length

/-- The text between two positions. -/
def slice (s : Array Char) (i j : Nat) : String := String.ofList ((s.toList.drop i).take (j - i))

/-- Whether a text occurs at position `i`. -/
def textAt (s : Array Char) (i : Nat) (t : String) : Bool := t.toList.isPrefixOf (s.toList.drop i)

/-- Whether position `i` starts a line. -/
def lineStart (s : Array Char) (i : Nat) : Bool := i == 0 || s[i - 1]? == some '\n'

/-- Whether a character may stand in a qualified name: a word character or a dot. -/
def isNameChar (c : Char) : Bool := isWordChar c || c == '.'

/-- A word character or `$`. -/
def isIdentChar (c : Char) : Bool := isWordChar c || c == '$'

/-- `package <name> ;` at a line start `i`: the name and the end of the match. -/
def packageAt (s : Array Char) (i : Nat) : Option (String × Nat) :=
  if !lineStart s i then none
  else
    let j := i + runLength s isBlank i
    if !textAt s j "package" then none
    else
      let k := j + 7
      let b := runLength s isBlank k
      if b == 0 then none
      else
        let n := runLength s isNameChar (k + b)
        if n == 0 then none
        else
          let e := k + b + n
          let e' := e + runLength s isBlank e
          if s[e']? == some ';' then some (slice s (k + b) e, e' + 1) else none

/-- The name of an import from position `i`: a run of name characters, or one ending in `.`
followed by `*`; then `;` after blanks. The name and the end of the match. -/
def importNameAt (s : Array Char) (i : Nat) : Option (String × Nat) :=
  let n := runLength s isNameChar i
  if n == 0 then none
  else
    let close (e : Nat) : Option Nat :=
      let e' := e + runLength s isBlank e
      if s[e']? == some ';' then some (e' + 1) else none
    match close (i + n) with
    | some e => some (slice s i (i + n), e)
    | none =>
      if n ≥ 2 && s[i + n - 1]? == some '.' && s[i + n]? == some '*' then
        (close (i + n + 1)).map fun e => (slice s i (i + n + 1), e)
      else none

/-- `import [static] <name> ;` at a line start `i`: the name and the end of the match. -/
def importAt (s : Array Char) (i : Nat) : Option (String × Nat) :=
  if !lineStart s i then none
  else
    let j := i + runLength s isBlank i
    if !textAt s j "import" then none
    else
      let k := j + 6
      let b := runLength s isBlank k
      if b == 0 then none
      else
        let k := k + b
        let afterStatic :=
          if textAt s k "static" then
            let b2 := runLength s isBlank (k + 6)
            if b2 == 0 then none else importNameAt s (k + 6 + b2)
          else none
        match afterStatic with
        | some r => some r
        | none => importNameAt s k

/-- The keywords that declare a type. -/
def typeKeywords : List String := ["class", "interface", "enum", "record"]

/-- A type declaration at `i`: the declared name and the end of the match. -/
def typeAt (s : Array Char) (i : Nat) : Option (String × Nat) :=
  if !boundaryAt s i then none
  else
    typeKeywords.findSome? fun kw =>
      if !textAt s i kw then none
      else
        let k := i + kw.length
        let b := runLength s isBlank k
        if b == 0 then none
        else
          match s[k + b]? with
          | some c =>
            if c.isAlpha || c == '_' || c == '$' then
              let n := 1 + runLength s isIdentChar (k + b + 1)
              some (slice s (k + b) (k + b + n), k + b + n)
            else none
          | none => none

/-- The end of the longest run of identifier characters from `i` (at least one) that ends at a
word boundary. -/
def boundedEnd (s : Array Char) (i : Nat) : Option Nat :=
  let n := runLength s isIdentChar i
  (List.range n).reverse.findSome? fun k =>
    if boundaryAt s (i + k + 1) then some (i + k + 1) else none

/-- A simple reference at `i`: a word starting with an upper-case letter. -/
def simpleRefAt (s : Array Char) (i : Nat) : Option (String × Nat) :=
  if !boundaryAt s i then none
  else
    match s[i]? with
    | some c => if 'A' ≤ c && c ≤ 'Z' then (boundedEnd s i).map fun e => (slice s i e, e) else none
    | none => none

/-- The end of the lower-case segments `a.b.` of a qualified name from `i`. -/
def segmentsEnd (s : Array Char) (i fuel : Nat) : Nat :=
  match fuel with
  | 0 => i
  | fuel + 1 =>
    match s[i]? with
    | some c =>
      if ('a' ≤ c && c ≤ 'z') || c == '_' || c == '$' then
        let n := 1 + runLength s isIdentChar (i + 1)
        if s[i + n]? == some '.' then segmentsEnd s (i + n + 1) fuel else i
      else i
    | none => i

/-- A qualified reference at `i`: segments, then a word starting with an upper-case letter. -/
def qualifiedRefAt (s : Array Char) (i : Nat) : Option (String × Nat) :=
  if !boundaryAt s i then none
  else
    let j := segmentsEnd s i (s.size + 1)
    if j == i then none
    else
      match s[j]? with
      | some c => if 'A' ≤ c && c ≤ 'Z' then (boundedEnd s j).map fun e => (slice s i e, e) else none
      | none => none

/-- All matches of a matcher from left to right, each search going on after the last match. -/
def findAll (s : Array Char) (m : Array Char → Nat → Option (String × Nat)) : List String :=
  let rec go (i : Nat) (fuel : Nat) : List String :=
    match fuel with
    | 0 => []
    | fuel + 1 =>
      if i ≥ s.size + 1 then []
      else
        match m s i with
        | some (t, e) => t :: go (max e (i + 1)) fuel
        | none => go (i + 1) fuel
  go 0 (s.size + 2)

/-- The text with every match of a matcher replaced by one space. -/
def replaceAll (s : Array Char) (m : Array Char → Nat → Option (String × Nat)) : Array Char :=
  let rec go (i : Nat) (fuel : Nat) (acc : List Char) : List Char :=
    match fuel with
    | 0 => acc.reverse
    | fuel + 1 =>
      if i ≥ s.size then acc.reverse
      else
        match m s i with
        | some (_, e) => go (max e (i + 1)) fuel (' ' :: acc)
        | none => go (i + 1) fuel (s[i]?.getD ' ' :: acc)
  (go 0 (s.size + 1) []).toArray

/-- The symbols of a source text. -/
def scan (text : String) : Symbols :=
  let s := (blankLiterals (blankComments text.toList)).toArray
  let package := ((findAll s packageAt).head?).getD ""
  let imports := findAll s importAt
  let types := sortedSet (findAll s typeAt)
  let body := replaceAll (replaceAll s packageAt) importAt
  let refs := findAll body simpleRefAt ++ findAll body qualifiedRefAt
  { package, types, imports := sortedSet imports,
    references := sortedSet (refs.filter fun r => !types.contains r) }

namespace Symbols

/-- The qualified name of a type declared by the file. -/
def qualified (s : Symbols) (t : String) : String :=
  if s.package.isEmpty then t else s.package ++ "." ++ t

/-- Whether this file may reference one of the types declared by `other`. -/
def uses (s other : Symbols) : Bool :=
  other.types.any fun t =>
    let name := other.qualified t
    s.references.contains name ||
    s.imports.contains name || s.imports.any (·.startsWith (name ++ ".")) ||
    (s.references.contains t &&
      (s.package == other.package || (!other.package.isEmpty && s.imports.contains (other.package ++ ".*"))))

end Symbols

end JavaBuild.Change
