import JavaBuild.Module.Descriptor
import JavaBuild.Text.Blank

/-!
# Reading module descriptions

`readDescription` reads the descriptor that `jar --describe-module` prints: a header line with
the module name (optionally `@version`) followed by markers such as `automatic` or `open`, then
one line per directive. Blank lines and the notes the tool prints for plain jars and
multi-release jars are skipped.

Each directive line is its words: `requires M [modifiers]` (a version after `@` is dropped, and
only the modifiers `transitive`, `static` and `mandated` are kept), `exports P [to M …]`,
`opens P [to M …]` (kept as written), `uses S …`, `contains P …`, `provides S with C …` and
`main-class C`. A `qualified` before `exports` or `opens` is dropped. Any other line, or a line
of a single word, is an error.
-/

namespace JavaBuild.Module

/-- Why a module description cannot be read; `jarpath` is `None` when unknown. -/
inductive DescriptionError where
  | noOutput (jarpath : String)
  | badLine (jarpath : String) (line : String)
deriving DecidableEq, Repr

/-- The message of a description error. -/
def DescriptionError.message : DescriptionError → String
  | .noOutput p => s!"Cannot parse module description of {p}: no output"
  | .badLine p l => s!"Cannot parse module descriptor line of {p}: {l}"

/-- Whether a line of a description holds a directive or the header. -/
def isDescriptionLine (line : String) : Bool :=
  !line.isBlankText && !line.startsWith "No module descriptor found" &&
    !line.startsWith "releases:"

/-- The part of a word before its lead `@`. -/
def withoutVersion (w : String) : String := String.ofList (w.toList.takeWhile (· != '@'))

/-- The modifiers of a requirement that a description may show. -/
def describedModifiers : List String := ["transitive", "static", "mandated"]

/-- The accumulated parts of a description while its lines are read. -/
structure DescribedParts where
  requires : List (String × List String) := []
  exports : List (String × List String) := []
  provides : List (String × List String) := []
  opens : List String := []
  uses : List String := []
  packages : List String := []

/-- Reads one directive line into the parts. -/
def readDescribedLine (jarpath : String) (p : DescribedParts) (line : String) :
    Except DescriptionError DescribedParts :=
  let words := line.blankWords
  let words := match words with
    | "qualified" :: rest@("exports" :: _) => rest
    | "qualified" :: rest@("opens" :: _) => rest
    | ws => ws
  match words with
  | [] | [_] => .error (.badLine jarpath line)
  | keyword :: lead :: more =>
    if keyword == "requires" then
      let mods := more.filter describedModifiers.contains
      .ok { p with requires := Assoc.put p.requires (withoutVersion lead) mods }
    else if keyword == "exports" then
      let targets := match more with
        | "to" :: ts => ts
        | _ => []
      .ok { p with exports := Assoc.put p.exports lead targets }
    else if keyword == "uses" then .ok { p with uses := p.uses ++ lead :: more }
    else if keyword == "opens" then .ok { p with opens := p.opens ++ [" ".intercalate (lead :: more)] }
    else if keyword == "contains" then .ok { p with packages := p.packages ++ lead :: more }
    else if keyword == "provides" then
      match more with
      | "with" :: _ :: _ =>
        .ok { p with provides := Assoc.modify p.provides lead [] (· ++ more.drop 1) }
      | _ => .error (.badLine jarpath line)
    else if keyword == "main-class" then .ok p
    else .error (.badLine jarpath line)

/-- The descriptor described by the lines; `jarpath` is where the module was read from. -/
def readDescription (lines : List String) (jarpath : Option String := none) :
    Except DescriptionError Descriptor := do
  let shown := jarpath.getD "None"
  match lines.filter isDescriptionLine with
  | [] => throw (.noOutput shown)
  | header :: directives =>
    let headerWords := header.blankWords
    let name := withoutVersion (headerWords.headD "")
    let markers := headerWords.drop 1
    let parts ← directives.foldlM (readDescribedLine shown) {}
    pure (Descriptor.make name parts.requires parts.exports parts.uses parts.provides
      parts.packages jarpath parts.opens (markers.contains "automatic") (markers.contains "open"))

end JavaBuild.Module
