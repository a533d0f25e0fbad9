/-!
# Include and exclude patterns

A source directory selects its files by glob patterns matched against paths relative to it,
with `/` between the parts. In a pattern

- `**/` matches nothing, or any run of characters that ends with `/`;
- any other `**` matches any run of characters;
- `*` matches any run of characters other than `/`;
- `?` matches one character other than `/`;
- every other character matches itself.

A pattern matches a path when it matches the whole of it. The runs of `**` hold no line feed, as
in the regular expressions that such patterns are usually turned into. Before matching, each
backslash of a pattern becomes `/`, and a pattern that ends with `/` gets `**`, so that it
matches everything below that directory. A path is selected when it matches an include pattern
(`**/*.java` when none is given) and no exclude pattern.
-/

namespace JavaBuild.Source

/-- One element of a glob pattern. -/
inductive GlobPart where
  /-- `**/`: nothing, or a run ending with a slash. -/
  | dirs
  /-- `**`: any run. -/
  | any
  /-- `*`: a run without slashes. -/
  | name
  /-- `?`: one character other than a slash. -/
  | one
  /-- A character that matches itself. -/
  | lit (c : Char)
deriving DecidableEq, Repr

/-- The elements of a pattern; `**/` is read before `**`, and `**` before `*`. -/
def globParts : List Char → List GlobPart
  | '*' :: '*' :: '/' :: rest => .dirs :: globParts rest
  | '*' :: '*' :: rest => .any :: globParts rest
  | '*' :: rest => .name :: globParts rest
  | '?' :: rest => .one :: globParts rest
  | c :: rest => .lit c :: globParts rest
  | [] => []

/-- A weight that falls when `**/` is read as "a run, then a slash". -/
def globWeight : List GlobPart → Nat
  | [] => 0
  | .dirs :: ps => 3 + globWeight ps
  | _ :: ps => 1 + globWeight ps

/-- Whether the elements of a pattern match the whole of a path. -/
def globMatches : List GlobPart → List Char → Bool
  | [], s => s.isEmpty
  | .lit c :: ps, x :: s => x == c && globMatches ps s
  | .one :: ps, x :: s => x != '/' && globMatches ps s
  | .name :: ps, [] => globMatches ps []
  | .name :: ps, x :: s => globMatches ps (x :: s) || (x != '/' && globMatches (.name :: ps) s)
  | .any :: ps, [] => globMatches ps []
  | .any :: ps, x :: s => globMatches ps (x :: s) || (x != '\n' && globMatches (.any :: ps) s)
  | .dirs :: ps, s => globMatches ps s || globMatches (.any :: .lit '/' :: ps) s
  | .lit _ :: _, [] => false
  | .one :: _, [] => false
termination_by ps s => (s.length, globWeight ps)
decreasing_by
  all_goals simp only [globWeight, List.length_cons]
  all_goals first
    | exact Prod.Lex.left _ _ (by omega)
    | exact Prod.Lex.right _ (by omega)

/-- A pattern as matching reads it: backslashes as slashes, and `**` after a final slash. -/
def normalizePattern (p : String) : String :=
  let q := p.toList.map fun c => if c = '\\' then '/' else c
  String.ofList (if q.getLast? = some '/' then q ++ ['*', '*'] else q)

/-- The patterns that select the files of a directory that names none. -/
def defaultIncludes : List String := ["**/*.java"]

/-- Include and exclude patterns. -/
structure PathFilter where
  includes : List (List GlobPart)
  excludes : List (List GlobPart)

namespace PathFilter

/-- The filter of the given patterns; no include pattern means the default ones. -/
def make (includes excludes : List String) : PathFilter :=
  let read (p : String) := globParts (normalizePattern p).toList
  { includes := (if includes.isEmpty then defaultIncludes else includes).map read,
    excludes := excludes.map read }

/-- Whether a relative path matches an include pattern and no exclude pattern. -/
def selects (f : PathFilter) (path : String) : Bool :=
  f.includes.any (globMatches · path.toList) && !f.excludes.any (globMatches · path.toList)

end PathFilter

end JavaBuild.Source
