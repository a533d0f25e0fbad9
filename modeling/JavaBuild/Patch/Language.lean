import JavaBuild.Patch.Reader

/-!
# Module-info patches: the language

The language of patch texts, stated apart from the reader: how a text splits into lexemes and
the tokens they give (`Lexes`), the declarations that token sequences spell
(`Declaration.tokens`), and what a declaration means (`Declaration.meaning`).

A text is a sequence of lexemes: line comments (`//` up to the end of the line), block comments
(`/*` up to the first `*/`), maximal runs of blanks, maximal runs of word characters (neither
blank nor one of `{},;/`) and the punctuation marks `{ } , ;`. Only words and punctuation marks
are tokens.

A declaration is `patch-module N { S* }`. Each statement names its directive, then, for exports
and opens, a package and `to`, then its items and `;`. After the first item, each item follows
either a comma or directly the item before it; the documented language always writes the comma
(`Declaration.CommaSeparated`).
-/

namespace JavaBuild.Patch

/-- A character of a word: neither blank nor one of `{},;/`. -/
def isWordChar (c : Char) : Bool := !Text.isBlank c && !"{},;/".toList.contains c

/-- A punctuation mark, a token of its own. -/
def isPunct (c : Char) : Bool := "{},;".toList.contains c

/-- How a text splits into lexemes, and the tokens that they give. -/
inductive Lexes : List Char → List String → Prop where
  /-- The empty text. -/
  | nil : Lexes [] []
  /-- A comment from `//` up to the end of its line. -/
  | lineComment {body rest : List Char} {ts : List String} :
      '\n' ∉ body → (∀ c ∈ rest.head?, c = '\n') → Lexes rest ts →
      Lexes ('/' :: '/' :: (body ++ rest)) ts
  /-- A comment from `/*` up to the first `*/`. -/
  | blockComment {body rest : List Char} {ts : List String} :
      ¬ ['*', '/'] <:+: body → Lexes rest ts →
      Lexes ('/' :: '*' :: (body ++ '*' :: '/' :: rest)) ts
  /-- A maximal run of blanks. -/
  | blanks {run rest : List Char} {ts : List String} :
      run ≠ [] → (∀ c ∈ run, Text.isBlank c = true) →
      (∀ c ∈ rest.head?, Text.isBlank c = false) → Lexes rest ts → Lexes (run ++ rest) ts
  /-- A punctuation mark. -/
  | punct {c : Char} {rest : List Char} {ts : List String} :
      isPunct c = true → Lexes rest ts → Lexes (c :: rest) (String.singleton c :: ts)
  /-- A maximal run of word characters. -/
  | word {w rest : List Char} {ts : List String} :
      w ≠ [] → (∀ c ∈ w, isWordChar c = true) → (∀ c ∈ rest.head?, isWordChar c = false) →
      Lexes rest ts → Lexes (w ++ rest) (String.ofList w :: ts)

/-- The items of a statement: the first, then each further one with whether a comma precedes
it. -/
structure Items where
  first : String
  rest : List (Bool × String)
deriving DecidableEq, Repr

namespace Items

/-- The items, in order. -/
def toList (i : Items) : List String := i.first :: i.rest.map (·.2)

/-- The tokens of a further item: a comma when it has one, then the item. -/
def sepTokens (s : Bool × String) : List String := if s.1 then [",", s.2] else [s.2]

/-- The tokens of the items. -/
def tokens (i : Items) : List String := i.first :: i.rest.flatMap sepTokens

/-- Every further item follows a comma. -/
def CommaSeparated (i : Items) : Prop := ∀ s ∈ i.rest, s.1 = true

end Items

deriving instance DecidableEq, Repr for Target

namespace Target

/-- The tokens that open a statement: its keyword, and for exports and opens the package and
`to`. -/
def opening : Target → List String
  | .addModules => ["add-modules"]
  | .limitModules => ["limit-modules"]
  | .addReads => ["add-reads"]
  | .addExports p => ["add-exports", p, "to"]
  | .addOpens p => ["add-opens", p, "to"]

/-- The placeholders that a statement may list besides module names. -/
def allowed : Target → List String
  | .addModules => [allModulePath, testModulePath]
  | .limitModules => []
  | .addReads => [testModulePath]
  | .addExports _ => [allUnnamed, testModulePath, subprojectModules]
  | .addOpens _ => []

/-- The package that a statement qualifies, if any. -/
def package? : Target → Option String
  | .addExports p => some p
  | .addOpens p => some p
  | _ => none

/-- The package of an export (`exports`) or of an open (otherwise), if the target is one. -/
def packageIn (exports : Bool) : Target → Option String
  | .addExports p => if exports then some p else none
  | .addOpens p => if exports then none else some p
  | _ => none

end Target

/-- A statement: where its items go, and the items. -/
structure Statement where
  target : Target
  items : Items
deriving DecidableEq, Repr

/-- An item that a statement may list: a valid module name, or one of the placeholders that its
keyword allows. -/
def ItemOk (allowed : List String) (v : String) : Prop :=
  Module.isValidName v = true ∨ v ∈ allowed

instance (allowed : List String) (v : String) : Decidable (ItemOk allowed v) :=
  inferInstanceAs (Decidable (_ ∨ _))

/-- The tokens of a statement. -/
def Statement.tokens (s : Statement) : List String :=
  s.target.opening ++ s.items.tokens ++ [";"]

/-- A statement is well formed when its package is a valid name and each of its items is a valid
module name or a placeholder that its keyword allows. -/
def Statement.WellFormed (s : Statement) : Prop :=
  (∀ p ∈ s.target.package?, Module.isValidName p = true) ∧
    ∀ v ∈ s.items.toList, ItemOk s.target.allowed v

instance (s : Statement) : Decidable s.WellFormed := inferInstanceAs (Decidable (_ ∧ _))

/-- A declaration: the module it patches and its statements. -/
structure Declaration where
  name : String
  statements : List Statement
deriving DecidableEq, Repr

namespace Declaration

/-- The tokens of a declaration. -/
def tokens (d : Declaration) : List String :=
  "patch-module" :: d.name :: "\x7b" :: (d.statements.flatMap Statement.tokens ++ ["\x7d"])

/-- A declaration is well formed when it names a valid module and its statements are well
formed. -/
def WellFormed (d : Declaration) : Prop :=
  Module.isValidName d.name = true ∧ ∀ s ∈ d.statements, s.WellFormed

instance (d : Declaration) : Decidable d.WellFormed := inferInstanceAs (Decidable (_ ∧ _))

/-- Every statement separates its items by commas. -/
def CommaSeparated (d : Declaration) : Prop := ∀ s ∈ d.statements, s.items.CommaSeparated

instance (d : Declaration) : Decidable d.CommaSeparated :=
  inferInstanceAs (Decidable (∀ s ∈ d.statements, ∀ x ∈ s.items.rest, x.1 = true))

/-- The items of the statements with a target, in order. -/
def itemsOf (d : Declaration) (t : Target) : List String :=
  (d.statements.filter (·.target == t)).flatMap (·.items.toList)

/-- The packages of the exports (or of the opens), each once, in order. -/
def packages (d : Declaration) (exports : Bool) : List String :=
  (d.statements.filterMap (·.target.packageIn exports)).eraseDups

/-- Appends to `xs` the items of `ys` that it does not list, each once, in order. -/
def appendNew (xs ys : List String) : List String := xs ++ (ys.filter (!xs.contains ·)).eraseDups

/-- What a declaration read from `file` gives: the shared modules with the added and limited
modules appended, and the patch. Each list holds its items once, in the order of their first
occurrence, and the exports and opens are grouped by package. -/
def meaning (d : Declaration) (shared : SharedModules) (file : Option String) :
    SharedModules × ModulePatch :=
  ({ addModules := appendNew shared.addModules (d.itemsOf .addModules),
     limitModules := appendNew shared.limitModules (d.itemsOf .limitModules) },
   { moduleName := some d.name,
     addReads := (d.itemsOf .addReads).eraseDups,
     addExports := (d.packages true).map fun p => (p, (d.itemsOf (.addExports p)).eraseDups),
     addOpens := (d.packages false).map fun p => (p, (d.itemsOf (.addOpens p)).eraseDups),
     file })

end Declaration

end JavaBuild.Patch
