/-!
# Paths

Paths are texts with `/` between their parts. A path is absolute when it starts with `/`.
`join` appends a path to a directory unless it is absolute; `normalize` drops empty and `.`
parts and folds `x/..` away (a `..` at the top of an absolute path stays there; two leading
slashes are kept, more collapse to one); `relative` walks from one directory to a path with `..`
parts. `parent` and `fileName` cut a path at its last slash, and `stem` and `extension` cut a file
name at its last dot (dots that lead a name belong to it).
-/

namespace JavaBuild.Path

/-- Whether a path is absolute. -/
def isAbsolute (p : String) : Bool := p.startsWith "/"

/-- A path `q` seen from the directory `p`: `q` itself when absolute. -/
def join (p q : String) : String :=
  if isAbsolute q then q
  else if p.isEmpty || p.endsWith "/" then p ++ q
  else p ++ "/" ++ q

/-- The parts of a path between its slashes, empty parts included. The path is split as a list
of characters, so that the kernel computes the parts of a given path; it is irreducible for the
elaborator, which has no use for unfolding it on a path that is not given. -/
@[irreducible] def parts (p : String) : List String := (p.toList.splitOn '/').map String.ofList

/-- Folds `.` and `..` parts and drops empty ones. -/
def foldParts (absolute : Bool) : List String → List String → List String
  | [], acc => acc.reverse
  | "" :: rest, acc => foldParts absolute rest acc
  | "." :: rest, acc => foldParts absolute rest acc
  | ".." :: rest, acc =>
    match acc with
    | [] => if absolute then foldParts absolute rest [] else foldParts absolute rest [".."]
    | ".." :: _ => foldParts absolute rest (".." :: acc)
    | _ :: acc' => foldParts absolute rest acc'
  | x :: rest, acc => foldParts absolute rest (x :: acc)

/-- The normal form of a path. -/
def normalize (p : String) : String :=
  if p.isEmpty then "."
  else
    let lead : String :=
      if p.startsWith "//" && !p.startsWith "///" then "//"
      else if p.startsWith "/" then "/" else ""
    let body := "/".intercalate (foldParts (isAbsolute p) (parts p) [])
    let r := lead ++ body
    if r.isEmpty then "." else r

/-- The absolute normal form of a path seen from the directory `cwd`. -/
def absolute (cwd p : String) : String :=
  if isAbsolute p then normalize p else normalize (join cwd p)

/-- The non-empty parts of a path. -/
def segments (p : String) : List String := (parts p).filter (!·.isEmpty)

/-- The number of leading elements two lists share. -/
def commonLength : List String → List String → Nat
  | x :: xs, y :: ys => if x = y then commonLength xs ys + 1 else 0
  | _, _ => 0

/-- The path that leads from the directory `start` to `p`, both seen from `cwd`. -/
def relative (cwd p start : String) : String :=
  let s := segments (absolute cwd start)
  let t := segments (absolute cwd p)
  let i := commonLength s t
  let rel := List.replicate (s.length - i) ".." ++ t.drop i
  if rel.isEmpty then "." else "/".intercalate rel

/-- The position just after the last slash of a path, or 0. -/
def lastSlashEnd (p : String) : Nat :=
  let cs := p.toList
  match cs.reverse.findIdx? (· == '/') with
  | some k => cs.length - k
  | none => 0

/-- The last part of a path. -/
def fileName (p : String) : String := String.ofList (p.toList.drop (lastSlashEnd p))

/-- A path without its last part and the slashes before it (unless it is all slashes). -/
def parent (p : String) : String :=
  let head := p.toList.take (lastSlashEnd p)
  if head.all (· == '/') then String.ofList head
  else String.ofList (head.reverse.dropWhile (· == '/')).reverse

/-- A path cut before the dot of its extension: the last dot of its last part that follows
some other character than a dot. -/
def splitExtension (p : String) : String × String :=
  let cs := p.toList
  let nameStart := lastSlashEnd p
  let name := cs.drop nameStart
  match name.reverse.findIdx? (· == '.') with
  | none => (p, "")
  | some k =>
    let dot := name.length - 1 - k
    if (name.take dot).all (· == '.') then (p, "")
    else (String.ofList (cs.take (nameStart + dot)), String.ofList (cs.drop (nameStart + dot)))

/-- A file name without its extension. -/
def stem (p : String) : String := (splitExtension (fileName p)).1

end JavaBuild.Path
