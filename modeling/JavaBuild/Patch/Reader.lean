import JavaBuild.Host
import JavaBuild.Module.Name
import JavaBuild.Data.Assoc
import JavaBuild.Text.Blank

/-!
# Module-info patches: reading them

A module-info patch (`module-info-patch.maven`) declares the options that compiling and running
the tests of a module need when its test sources have no declaration of their own:

```
patch-module org.foo {
    add-modules TEST-MODULE-PATH;
    add-reads TEST-MODULE-PATH;
    add-exports org.foo.internal to TEST-MODULE-PATH, SUBPROJECT-MODULES;
    add-opens org.foo.model to org.junit.platform.commons;
    limit-modules java.base, java.logging;
}
```

The text is cut into comments (`//` to the end of the line, `/* … */`), blanks, words (runs of
characters other than blanks and `{},;/`) and the punctuation `{ } , ;`; any other character
is an error. The words then follow the grammar above: statements end with `;`, items are
separated by commas, and every name is a valid module or package name unless it is one of the
placeholders the statement allows. Items already listed are not listed again.

The modules added and limited are shared by all patches of a build: reading a patch appends to
`SharedModules`, and what it appended stays even when the patch turns out malformed. Errors name
the line of the last token read.
-/

namespace JavaBuild.Patch

/-- The placeholder for the modules on the test module path. -/
def testModulePath : String := "TEST-MODULE-PATH"
/-- The placeholder for all modules on the module path. -/
def allModulePath : String := "ALL-MODULE-PATH"
/-- The placeholder for the unnamed module. -/
def allUnnamed : String := "ALL-UNNAMED"
/-- The placeholder for the other modules of the project. -/
def subprojectModules : String := "SUBPROJECT-MODULES"
/-- The name of a patch file. -/
def fileName : String := "module-info-patch.maven"

/-- Every placeholder. -/
def placeholders : List String := [allModulePath, allUnnamed, subprojectModules, testModulePath]

/-- The modules added and limited, shared by the patches of a build. -/
structure SharedModules where
  addModules : List String := []
  limitModules : List String := []
deriving Repr, Inhabited

/-- What a patch declares, besides the shared modules. -/
structure ModulePatch where
  moduleName : Option String := none
  addReads : List String := []
  addExports : List (String × List String) := []
  addOpens : List (String × List String) := []
  file : Option String := none
deriving Repr, Inhabited

/-- `patch-module <name>`, as messages name a patch. -/
def ModulePatch.title (p : ModulePatch) : String := "patch-module " ++ p.moduleName.getD "None"

/-- Appends an item unless it is listed. -/
def addItem (items : List String) (v : String) : List String :=
  if items.contains v then items else items ++ [v]

/-- A syntax error: its reason and line. -/
structure SyntaxError where
  reason : String
  line : Nat
deriving Repr

/-- The length of the token at the head of a text: a comment, blanks, a word or a punctuation
mark, and whether it is a token that counts (a word or punctuation). -/
def tokenLength (cs : List Char) : Option (Nat × Bool) :=
  match cs with
  | '/' :: '/' :: rest => some (2 + (rest.takeWhile (· != '\n')).length, false)
  | '/' :: '*' :: rest =>
    let rec closing (n : Nat) : List Char → Option Nat
      | '*' :: '/' :: _ => some (n + 2)
      | _ :: r => closing (n + 1) r
      | [] => none
    (closing 0 rest).map fun n => (2 + n, false)
  | c :: rest =>
    if Text.isBlank c then some (1 + (rest.takeWhile Text.isBlank).length, false)
    else if "{},;".toList.contains c then some (1, true)
    else if c == '/' then none
    else
      let isWordChar (d : Char) := !Text.isBlank d && !"{},;/".toList.contains d
      some (1 + (rest.takeWhile isWordChar).length, true)
  | [] => none

/-- The tokens of a patch text with their lines. -/
def tokenize (cs : List Char) (line : Nat) : Except SyntaxError (List (String × Nat)) :=
  match cs with
  | [] => .ok []
  | c :: rest =>
    match tokenLength (c :: rest) with
    | none => .error ⟨s!"Unexpected character \"{c}\"", line⟩
    | some (n, counts) =>
      let text := (c :: rest).take n
      let line' := line + text.count '\n'
      match tokenize ((c :: rest).drop (max n 1)) line' with
      | .ok ts => .ok (if counts then (String.ofList text, line) :: ts else ts)
      | .error e => .error e
termination_by cs.length
decreasing_by all_goals (simp only [List.length_drop, List.length_cons]; omega)

/-- The state of a patch being read: the tokens left, the line of the last token, the patch so
far and the shared modules. -/
structure Reading where
  tokens : List (String × Nat)
  line : Nat := 1
  patch : ModulePatch := {}
  shared : SharedModules := {}

/-- Reading a patch; the state is kept when reading fails. -/
abbrev ReadM := ExceptT SyntaxError (StateM Reading)

/-- The next token, if any. -/
def next : ReadM (Option String) := do
  let r ← get
  match r.tokens with
  | [] => return none
  | (t, l) :: rest =>
    set { r with tokens := rest, line := l }
    return some t

/-- Fails at the current line. -/
def failWith {α : Type} (reason : String) : ReadM α := do throw ⟨reason, (← get).line⟩

/-- Reads the expected token. -/
def expect (t : String) : ReadM Unit := do
  if (← next) != some t then failWith s!"Expected \"{t}\""

/-- `module` or `package`, as errors name what was expected. -/
def kindName (module : Bool) : String := if module then "module" else "package"

/-- Checks a module or package name. -/
def validName (name : String) (module : Bool) : ReadM String := do
  if !Module.isValidName name then
    failWith s!"Invalid {kindName module} name \"{name}\""
  return name

/-- Reads a module or package name. -/
def readName (module : Bool) : ReadM String := do
  match ← next with
  | some t =>
    if "{},;".toList.any (String.singleton · == t) then
      failWith s!"Expected a {kindName module} name"
    validName t module
  | none => failWith s!"Expected a {kindName module} name"

/-- Where the items of a statement go. -/
inductive Target where
  | addModules
  | limitModules
  | addReads
  | addExports (pkg : String)
  | addOpens (pkg : String)

/-- Adds an item to a target. -/
def Target.add (t : Target) (v : String) : ReadM Unit :=
  modify fun r => match t with
    | .addModules => { r with shared := { r.shared with addModules := addItem r.shared.addModules v } }
    | .limitModules => { r with shared := { r.shared with limitModules := addItem r.shared.limitModules v } }
    | .addReads => { r with patch := { r.patch with addReads := addItem r.patch.addReads v } }
    | .addExports p => { r with patch := { r.patch with
        addExports := Assoc.modify r.patch.addExports p [] (addItem · v) } }
    | .addOpens p => { r with patch := { r.patch with
        addOpens := Assoc.modify r.patch.addOpens p [] (addItem · v) } }

/-- Reads `item, item, … ;` into a target; placeholders in `allowed` need no valid name. -/
def readItems (target : Target) (allowed : List String) : Nat → Bool → ReadM Unit
  | 0, _ => pure ()
  | fuel + 1, expectName => do
    match ← next with
    | some ";" => if expectName then failWith "Expected a module name" else pure ()
    | none | some "\x7b" | some "\x7d" => failWith "Missing ';' character"
    | some "," =>
      if expectName then failWith "Expected a module name"
      readItems target allowed fuel true
    | some t =>
      if !allowed.contains t then discard (validName t true)
      target.add t
      readItems target allowed fuel false

/-- Reads `package to item, … ;`. -/
def readQualified (exports : Bool) (allowed : List String) (fuel : Nat) : ReadM Unit := do
  let pkg ← readName false
  expect "to"
  let target := if exports then Target.addExports pkg else Target.addOpens pkg
  -- the package is listed even before its first item
  modify fun r => { r with patch := if exports
    then { r.patch with addExports := Assoc.modify r.patch.addExports pkg [] id }
    else { r.patch with addOpens := Assoc.modify r.patch.addOpens pkg [] id } }
  readItems target allowed fuel true

/-- Reads statements up to the closing brace. -/
def readStatements : Nat → ReadM Unit
  | 0 => pure ()
  | fuel + 1 => do
    let fuelItems := (← get).tokens.length + 1
    match ← next with
    | some "\x7d" => pure ()
    | none => failWith "Expected \"\x7d\""
    | some "add-modules" =>
      readItems .addModules [allModulePath, testModulePath] fuelItems true
      readStatements fuel
    | some "limit-modules" =>
      readItems .limitModules [] fuelItems true
      readStatements fuel
    | some "add-reads" =>
      readItems .addReads [testModulePath] fuelItems true
      readStatements fuel
    | some "add-exports" =>
      readQualified true [allUnnamed, testModulePath, subprojectModules] fuelItems
      readStatements fuel
    | some "add-opens" =>
      readQualified false [] fuelItems
      readStatements fuel
    | some k => failWith s!"Unknown keyword \"{k}\""

/-- Reads a whole patch. -/
def readPatch : ReadM Unit := do
  expect "patch-module"
  let name ← readName true
  modify fun r => { r with patch := { r.patch with moduleName := some name } }
  expect "\x7b"
  readStatements ((← get).tokens.length + 1)
  if let some t ← next then failWith s!"Expected end of file but found \"{t}\""

/-- Reads a patch text into a patch whose module may be given beforehand; `file` is where the
text was read. Gives the shared modules as the reading left them, and the patch or the error. -/
def load (shared : SharedModules) (moduleName : Option String) (text : String)
    (file : Option String) : SharedModules × Except Failure ModulePatch :=
  let fail (e : SyntaxError) : Failure := .patchSyntax e.reason file (some e.line)
  match tokenize text.toList 1 with
  | .error e => (shared, .error (fail e))
  | .ok tokens =>
    let (r, st) := (readPatch.run).run { tokens, patch := { moduleName, file }, shared }
    match r with
    | .ok () => (st.shared, .ok st.patch)
    | .error e => (st.shared, .error (fail e))

/-- Like `load`, and says in very verbose mode which patch was read from where. -/
def loadLogged (shared : SharedModules) (moduleName : Option String) (text : String)
    (file : Option String) : HostM (SharedModules × Except Failure ModulePatch) := do
  let (shared', r) := load shared moduleName text file
  if let .ok p := r then
    let place := file.getD "None"
    HostM.logDebug s!"Loaded {p.title} from {place}"
  return (shared', r)

/-- The declarations of a module without patch file: the test dependencies are added and read. -/
def defaults (shared : SharedModules) (moduleName : Option String) : SharedModules × ModulePatch :=
  ({ shared with addModules := addItem shared.addModules testModulePath },
    { moduleName, addReads := [testModulePath] })

end JavaBuild.Patch
