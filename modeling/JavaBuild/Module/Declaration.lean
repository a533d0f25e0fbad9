import JavaBuild.Module.Descriptor
import JavaBuild.Text.Java
import JavaBuild.Text.Blank

/-!
# Reading module declarations

`Declaration.read` reads the descriptor of a module from the text of its `module-info.java`, or
from the same declaration as `javap` prints it. Comments and annotations (`@Name` with an
optional parenthesised argument) are dropped first. The declaration is the first
`[open] module <name> {` at a word boundary, and its body runs to the last `}` of the text.

The body is cut at semicolons into directives, and each directive into words (a comma counts as
a word of its own):

- `requires [transitive|static]… M` requires the last word, with the modifiers among
  `transitive` and `static` found between;
- `exports P [to M, …]` and `opens P [to M, …]`;
- `uses S`;
- `provides S with C, …` (anything else after `provides` is an error).

Any other first word is an error. A module that does not require `java.base` requires it with
the modifier `mandated`.
-/

namespace JavaBuild.Module

/-- Why a declaration cannot be read. -/
inductive DeclarationError where
  | noDeclaration (path : String)
  | badDirective (path : String) (directive : String)
  | unknownDirective (path : String) (keyword : String)
  /-- A directive without the word it needs. -/
  | missingWord
deriving DecidableEq, Repr

/-- The message of a declaration error. -/
def DeclarationError.message : DeclarationError → String
  | .noDeclaration p => s!"{p}: no module declaration found"
  | .badDirective p d => s!"{p}: cannot parse directive '{d}'"
  | .unknownDirective p k => s!"{p}: unknown module directive '{k}'"
  | .missingWord => "list index out of range"

/-- The length of an annotation at the head of the text: `@` and name characters, then an
optional blank-separated parenthesised argument. -/
def annotationLength (cs : List Char) : Option Nat :=
  match cs with
  | '@' :: rest =>
    let name := rest.takeWhile fun c => Text.isWordChar c || c == '.'
    if name.isEmpty then none
    else
      let after := rest.drop name.length
      let blanks := after.takeWhile Text.isBlank
      let arg : Nat :=
        match after.drop blanks.length with
        | '(' :: body =>
          match body.findIdx? (· == ')') with
          | some k => blanks.length + k + 2
          | none => 0
        | _ => 0
      some (1 + name.length + arg)
  | _ => none

/-- The text with every annotation replaced by one space. -/
def blankAnnotations (cs : List Char) : List Char :=
  match cs with
  | [] => []
  | c :: rest =>
    match annotationLength (c :: rest) with
    | some n =>
      if 0 < n then ' ' :: blankAnnotations ((c :: rest).drop n)
      else c :: blankAnnotations rest
    | none => c :: blankAnnotations rest
termination_by cs.length
decreasing_by
  · simp; omega
  · simp
  · simp

/-- A module header at position `i`: whether it is open, the name, and where its body starts. -/
def headerAt (s : Array Char) (i : Nat) : Option (Bool × String × Nat) :=
  if !Text.boundaryAt s i then none
  else
    let cs := (s.toList.drop i)
    let (isOpen, rest) :=
      match cs with
      | 'o' :: 'p' :: 'e' :: 'n' :: r =>
        let bl := r.takeWhile Text.isBlank
        if bl.isEmpty then (false, cs) else (true, r.drop bl.length)
      | _ => (false, cs)
    let attempt (isOpen : Bool) (rest : List Char) : Option (Bool × String × Nat) :=
      if !"module".toList.isPrefixOf rest then none
      else
        let r := rest.drop 6
        let bl := r.takeWhile Text.isBlank
        if bl.isEmpty then none
        else
          let r := r.drop bl.length
          let name := r.takeWhile fun c => Text.isWordChar c || c == '.' || c == '$'
          if name.isEmpty then none
          else
            let r := r.drop name.length
            let r := r.dropWhile Text.isBlank
            match r with
            | '{' :: body => some (isOpen, String.ofList name, s.size - body.length)
            | _ => none
    match attempt isOpen rest with
    | some h => some h
    | none => if isOpen then attempt false cs else none

/-- The first module header, with the body up to the last closing brace after it. -/
def findHeader (s : Array Char) : Option (Bool × String × String) :=
  (List.range s.size).findSome? fun i =>
    match headerAt s i with
    | none => none
    | some (isOpen, name, start) =>
      let body := s.toList.drop start
      match body.reverse.findIdx? (· == '}') with
      | none => none
      | some k => some (isOpen, name, String.ofList (body.take (body.length - 1 - k)))

/-- The text with a blank on each side of every comma. -/
def spaceCommas (cs : List Char) : List Char :=
  cs.flatMap fun c => if c == ',' then [' ', ',', ' '] else [c]

/-- The words of a directive: blank-separated, with commas standing alone. -/
def directiveWords (d : String) : List String :=
  (Text.words (spaceCommas d.toList)).map String.ofList

/-- The accumulated parts of a declaration while its directives are read. -/
structure Parts where
  requires : List (String × List String) := []
  exports : List (String × List String) := []
  opens : List String := []
  uses : List String := []
  provides : List (String × List String) := []

/-- Reads one directive into the parts. -/
def readDirective (path : String) (p : Parts) (directive : String) : Except DeclarationError Parts :=
  let parts := directiveWords directive
  match parts with
  | [] => .ok p
  | keyword :: rest =>
    let targetsOf (ws : List String) : List String :=
      match ws with
      | _ :: "to" :: targets => targets.filter (· != ",")
      | _ => []
    if keyword == "requires" then
      let last := parts.getLast?.getD keyword
      let mods := (rest.dropLast).filter fun w => w == "transitive" || w == "static"
      .ok { p with requires := Assoc.put p.requires last mods }
    else if keyword == "exports" || keyword == "opens" then
      match rest with
      | [] => .error .missingWord
      | pkg :: _ =>
        let targets := targetsOf rest
        if keyword == "exports" then .ok { p with exports := Assoc.put p.exports pkg targets }
        else
          let entry := " ".intercalate (pkg :: (if targets.isEmpty then [] else "to" :: targets))
          .ok { p with opens := p.opens ++ [entry] }
    else if keyword == "uses" then
      match rest with
      | [] => .error .missingWord
      | s :: _ => .ok { p with uses := p.uses ++ [s] }
    else if keyword == "provides" then
      match rest with
      | service :: "with" :: _ :: _ =>
        let providers := (rest.drop 2).filter (· != ",")
        .ok { p with provides := Assoc.modify p.provides service [] (· ++ providers) }
      | _ => .error (.badDirective path directive.trimBlanks)
    else .error (.unknownDirective path keyword)

/-- The descriptor declared by a `module-info.java` text; `path` is where it was read. -/
def readDeclaration (text : String) (path : Option String := none) :
    Except DeclarationError Descriptor := do
  let shown := match path with
    | some p => if p.isEmpty then "module-info.java" else p
    | none => "module-info.java"
  let cs := blankAnnotations (Text.blankComments text.toList)
  let some (isOpen, name, body) := findHeader cs.toArray | throw (.noDeclaration shown)
  let parts ← ((body.toList.splitOn ';').map String.ofList).foldlM (readDirective shown) {}
  let requires := Assoc.putIfAbsent parts.requires "java.base" ["mandated"]
  pure (Descriptor.make name requires parts.exports parts.uses parts.provides [] path parts.opens
    false isOpen)

end JavaBuild.Module
