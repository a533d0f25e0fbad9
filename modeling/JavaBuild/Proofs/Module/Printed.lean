import Mathlib
import JavaBuild.Module.Artifact
import JavaBuild.Proofs.Patch.Load

/-!
# Module declarations and the texts they are printed as

A module declaration (`Decl`) has a name, an open flag and its directives: the modules it
requires with their modifiers, the packages it exports and opens with their target modules, the
services it uses, and the services it provides with their providers. Three texts show it:

- the `module-info.java` it is written in (`Decl.source`): comments and annotations, each on a
  line of its own (`Preamble`), then the declaration with one directive a line, in the order
  requires, exports, opens, uses, provides, and lists separated by `, `;
- what `javap` prints of the compiled declaration (`Decl.javap`): a `Compiled from` line, then the
  same declaration with `java.base` required first when the declaration leaves it implicit, and
  module names followed by `@version` when they have one;
- what `jar --describe-module` prints (`Decl.described`): a header line with the name and its
  version, the location and `open`, then one line per directive with lists separated by blanks,
  `qualified` before an export or an open with targets, `java.base` required as `mandated` when
  it is implicit, and a `contains` line for each concealed package.

`Descriptor.Reads d D` says what a descriptor read from any of them must hold: the name, the open
flag, the requirements (that of `java.base` whatever its modifiers), the exports, the opens
(`pkg` or `pkg to t1 t2`), the uses and the provides of `D`.

Directive and description lines are cut into words by `Text.words`; `words_append` splits the
reading at a blank, so tokens written with blanks between them are read back one by one
(`words_pieces`).
-/

namespace JavaBuild.Text

/-! ## Reading words back -/

theorem words_go_plain {w : List Char} (hw : ∀ c ∈ w, isBlank c = false) (rest acc : List Char) :
    words.go (w ++ rest) acc = words.go rest (w.reverse ++ acc) := by
  induction w generalizing acc with
  | nil => rfl
  | cons c w ih =>
    rw [List.cons_append, words.go.eq_3, if_neg (by simp [hw c (by simp)]),
      ih (fun d hd => hw d (by simp [hd]))]
    simp

/-- Reading splits at a blank: what comes before it is read as if it ended the text. -/
theorem words_go_append {a b : List Char} (hb : ∀ c, b.head? = some c → isBlank c = true)
    (acc : List Char) : words.go (a ++ b) acc = words.go a acc ++ words.go b [] := by
  induction a generalizing acc with
  | nil =>
    cases b with
    | nil => cases acc <;> simp [words.go]
    | cons c b =>
      have hc : isBlank c = true := hb c rfl
      cases acc <;> simp [words.go, hc]
  | cons c a ih =>
    rw [List.cons_append, words.go.eq_3, words.go.eq_3]
    by_cases hc : isBlank c = true
    · by_cases hacc : acc.isEmpty = true
      · simp only [hc, hacc, if_true, ih]
      · simp [hc, hacc, ih]
    · simp only [hc, if_false, Bool.false_eq_true, ih]

theorem words_append {a b : List Char} (hb : ∀ c, b.head? = some c → isBlank c = true) :
    words (a ++ b) = words a ++ words b :=
  words_go_append hb []

/-- Blanks and then a word are read as that word. -/
theorem words_blanks_word {bl w : List Char} (hbl : ∀ c ∈ bl, isBlank c = true) (hw : w ≠ [])
    (hw' : ∀ c ∈ w, isBlank c = false) : words (bl ++ w) = [w] := by
  have hskip : ∀ (bl : List Char), (∀ c ∈ bl, isBlank c = true) →
      words.go (bl ++ w) [] = words.go w [] := by
    intro bl hbl
    induction bl with
    | nil => rfl
    | cons c bl ih =>
      rw [List.cons_append, words.go.eq_3, if_pos (hbl c (by simp))]
      simpa using ih fun d hd => hbl d (by simp [hd])
  rw [words, hskip bl hbl, ← List.append_nil w, words_go_plain hw', List.append_nil,
    words.go.eq_2 _ (by simpa using hw), List.reverse_reverse, List.append_nil]

theorem words_blanks {bl : List Char} (hbl : ∀ c ∈ bl, isBlank c = true) : words bl = [] := by
  have hskip : ∀ (bl : List Char), (∀ c ∈ bl, isBlank c = true) → words.go bl [] = [] := by
    intro bl hbl
    induction bl with
    | nil => rfl
    | cons c bl ih =>
      rw [words.go.eq_3, if_pos (hbl c (by simp))]
      simpa using ih fun d hd => hbl d (by simp [hd])
  exact hskip bl hbl

/-- A word between blanks is read as that word. -/
theorem words_word {bl w bl' : List Char} (hbl : ∀ c ∈ bl, isBlank c = true) (hw : w ≠ [])
    (hw' : ∀ c ∈ w, isBlank c = false) (hbl' : ∀ c ∈ bl', isBlank c = true) :
    words (bl ++ w ++ bl') = [w] := by
  rw [words_append (fun c hc => hbl' c (List.mem_of_mem_head? hc)), words_blanks_word hbl hw hw',
    words_blanks hbl', List.append_nil]

end JavaBuild.Text

namespace JavaBuild.Module

/-! ## Declarations -/

/-- The characters of the names in a declaration: ASCII letters and digits, `_`, `$` and `.`. -/
def isDeclChar (c : Char) : Bool := c.isAlphanum || c == '_' || c == '$' || c == '.'

/-- A name of a declaration: a nonempty run of name characters. -/
def IsName (s : String) : Prop := s ≠ "" ∧ ∀ c ∈ s.toList, isDeclChar c = true

instance : DecidablePred IsName := fun s =>
  decidable_of_iff (!s.isEmpty && s.toList.all isDeclChar) (by simp [IsName])

/-- A module declaration. -/
structure Decl where
  name : String
  isOpen : Bool
  requires : List (String × List String)
  exports : List (String × List String)
  opens : List (String × List String)
  uses : List String
  provides : List (String × List String)
deriving DecidableEq

/-- A declaration as the language has it: every name is a name, the modifiers of a requirement
are `transitive` and `static`, a service is provided by some provider, and no module is
required twice, no package exported twice, no service provided twice. -/
structure Decl.WellFormed (D : Decl) : Prop where
  name : IsName D.name
  requires : ∀ r ∈ D.requires, IsName r.1 ∧ ∀ m ∈ r.2, m = "transitive" ∨ m = "static"
  exports : ∀ e ∈ D.exports, IsName e.1 ∧ ∀ t ∈ e.2, IsName t
  opens : ∀ e ∈ D.opens, IsName e.1 ∧ ∀ t ∈ e.2, IsName t
  uses : ∀ s ∈ D.uses, IsName s
  provides : ∀ p ∈ D.provides, IsName p.1 ∧ p.2 ≠ [] ∧ ∀ c ∈ p.2, IsName c
  requiresOnce : (Assoc.keys D.requires).Nodup
  exportsOnce : (Assoc.keys D.exports).Nodup
  providesOnce : (Assoc.keys D.provides).Nodup

instance : DecidablePred Decl.WellFormed := fun D =>
  decidable_of_iff (IsName D.name ∧
      (∀ r ∈ D.requires, IsName r.1 ∧ ∀ m ∈ r.2, m = "transitive" ∨ m = "static") ∧
      (∀ e ∈ D.exports, IsName e.1 ∧ ∀ t ∈ e.2, IsName t) ∧
      (∀ e ∈ D.opens, IsName e.1 ∧ ∀ t ∈ e.2, IsName t) ∧ (∀ s ∈ D.uses, IsName s) ∧
      (∀ p ∈ D.provides, IsName p.1 ∧ p.2 ≠ [] ∧ ∀ c ∈ p.2, IsName c) ∧
      (Assoc.keys D.requires).Nodup ∧ (Assoc.keys D.exports).Nodup ∧
      (Assoc.keys D.provides).Nodup)
    ⟨fun ⟨h1, h2, h3, h4, h5, h6, h7, h8, h9⟩ => ⟨h1, h2, h3, h4, h5, h6, h7, h8, h9⟩,
     fun ⟨h1, h2, h3, h4, h5, h6, h7, h8, h9⟩ => ⟨h1, h2, h3, h4, h5, h6, h7, h8, h9⟩⟩

/-- The entry of an opened package: `pkg`, or `pkg to t1 t2`. -/
def openEntry (e : String × List String) : String :=
  " ".intercalate (e.1 :: if e.2.isEmpty then [] else "to" :: e.2)

end JavaBuild.Module

namespace JavaBuild

/-- A descriptor holds what `D` declares: its name and open flag, its requirements with their
modifiers as a set (`java.base` required, with whatever modifiers), its exports and provides in
order, and its opens and uses as sets. -/
structure Descriptor.Reads (d : Descriptor) (D : Module.Decl) : Prop where
  name : d.name = D.name
  isOpen : d.isOpen = D.isOpen
  requires : d.requires.filter (·.1 != "java.base") =
    (D.requires.filter (·.1 != "java.base")).map fun r => (r.1, sortedSet r.2)
  javaBase : "java.base" ∈ Assoc.keys d.requires
  exports : d.exports = D.exports
  opens : d.opens = sortedSet (D.opens.map Module.openEntry)
  uses : d.uses = sortedSet D.uses
  provides : d.provides = D.provides

end JavaBuild

namespace JavaBuild.Module

/-! ## Printed forms -/

/-- A module name followed by `@version` when `ver` gives it one. -/
def withVersion (ver : String → Option String) (m : String) : String :=
  match ver m with
  | some v => m ++ "@" ++ v
  | none => m

/-- Versions as they are printed: not empty, and without a blank, `;` or `{`. -/
def Versioned (ver : String → Option String) : Prop :=
  ∀ m v, ver m = some v → v ≠ "" ∧ ∀ c ∈ v.toList, isSuffixEnd c = false

/-- A token of a directive: a comma, or a nonempty run of characters that are neither blanks nor
commas. -/
def IsToken (t : String) : Prop :=
  t = "," ∨ (t ≠ "" ∧ ∀ c ∈ t.toList, Text.isBlank c = false ∧ c ≠ ',')

/-- Tokens written with a blank before each but the first, and none before a comma. -/
def joinTokens : List String → String
  | [] => ""
  | t :: ts => t ++ String.join (ts.map fun u => if u = "," then u else " " ++ u)

/-- The tokens of a requirement: the keyword, the modifiers, the module. -/
def requiresTokens (ver : String → Option String) (r : String × List String) : List String :=
  "requires" :: r.2 ++ [withVersion ver r.1]

/-- The tokens of an export or an open: the keyword, the package, `to` and the targets. -/
def targetsTokens (keyword : String) (e : String × List String) : List String :=
  keyword :: e.1 :: if e.2.isEmpty then [] else "to" :: e.2.intersperse ","

/-- The tokens of a provision: the keyword, the service, `with` and the providers. -/
def providesTokens (p : String × List String) : List String :=
  "provides" :: p.1 :: "with" :: p.2.intersperse ","

/-- The directives of a declaration as tokens, in the order the language prints them. -/
def Decl.directives (D : Decl) (ver : String → Option String) : List (List String) :=
  D.requires.map (requiresTokens ver) ++ D.exports.map (targetsTokens "exports") ++
    D.opens.map (targetsTokens "opens") ++ D.uses.map (fun s => ["uses", s]) ++
    D.provides.map providesTokens

/-- The declaration written out, module names with their versions. -/
def Decl.text (D : Decl) (ver : String → Option String) : String :=
  (if D.isOpen then "open " else "") ++ "module " ++ withVersion ver D.name ++ " \x7b\n" ++
    String.join ((D.directives ver).map fun ts => "  " ++ joinTokens ts ++ ";\n") ++ "\x7d\n"

/-- What may stand before a declaration in its file: comments and annotations. -/
inductive Preamble where
  | lineComment (text : String)
  | blockComment (text : String)
  | annotated (name : String) (arg : Option String)
deriving DecidableEq

def Preamble.text : Preamble → String
  | .lineComment t => "//" ++ t
  | .blockComment t => "/*" ++ t ++ "*/"
  | .annotated n none => "@" ++ n
  | .annotated n (some a) => "@" ++ n ++ "(" ++ a ++ ")"

/-- A comment or an annotation that a reader of declarations can skip: a line comment without a
line feed, a block comment that does not close early, and an annotation named by word characters
and dots whose argument holds no slash and no closing parenthesis. -/
def Preamble.Safe : Preamble → Prop
  | .lineComment t => '\n' ∉ t.toList
  | .blockComment t => ¬ ['*', '/'] <:+: t.toList
  | .annotated n arg => n ≠ "" ∧ (∀ c ∈ n.toList, (Text.isWordChar c || c == '.') = true) ∧
      ∀ a, arg = some a → '/' ∉ a.toList ∧ ')' ∉ a.toList

instance : DecidablePred Preamble.Safe := fun p =>
  match p with
  | .lineComment t => inferInstanceAs (Decidable ('\n' ∉ t.toList))
  | .blockComment t => inferInstanceAs (Decidable (¬ ['*', '/'] <:+: t.toList))
  | .annotated n none => decidable_of_iff (n ≠ "" ∧ ∀ c ∈ n.toList,
      (Text.isWordChar c || c == '.') = true) (by simp [Preamble.Safe])
  | .annotated n (some a) => decidable_of_iff (n ≠ "" ∧ (∀ c ∈ n.toList,
      (Text.isWordChar c || c == '.') = true) ∧ '/' ∉ a.toList ∧ ')' ∉ a.toList)
      (by simp [Preamble.Safe])

/-- The `module-info.java` of a declaration: comments and annotations on lines of their own,
then the declaration. -/
def Decl.source (D : Decl) (pre : List Preamble) : String :=
  String.join (pre.map (·.text ++ "\n")) ++ D.text fun _ => none

/-- The declaration with `java.base` required first, with the modifiers `mods`, when it does not
require it. -/
def Decl.withJavaBase (D : Decl) (mods : List String) : Decl :=
  if "java.base" ∈ Assoc.keys D.requires then D
  else { D with requires := ("java.base", mods) :: D.requires }

/-- The first line `javap` prints of a class compiled from `module-info.java`. -/
def compiledFrom : String := "Compiled from \"module-info.java\"\n"

/-- What `javap` prints of a compiled declaration. -/
def Decl.javap (D : Decl) (ver : String → Option String) : String :=
  compiledFrom ++ (D.withJavaBase []).text ver

/-- The tokens of an export or an open as `jar` describes it. -/
def describedTargets (keyword : String) (e : String × List String) : List String :=
  if e.2.isEmpty then [keyword, e.1] else "qualified" :: keyword :: e.1 :: "to" :: e.2

/-- The lines `jar --describe-module` prints, as tokens: the header with the module's location,
the directives, and the concealed packages. -/
def Decl.describedTokens (D : Decl) (ver : String → Option String) (location : String)
    (concealed : List String) : List (List String) :=
  ([withVersion ver D.name, location] ++ if D.isOpen then ["open"] else []) ::
    ((D.withJavaBase ["mandated"]).requires.map (fun r => "requires" :: withVersion ver r.1 :: r.2) ++
      D.exports.map (describedTargets "exports") ++ D.opens.map (describedTargets "opens") ++
      D.uses.map (fun s => ["uses", s]) ++
      D.provides.map (fun p => "provides" :: p.1 :: "with" :: p.2) ++
      concealed.map fun p => ["contains", p])

/-- What `jar --describe-module` prints of a jar that holds the declaration. -/
def Decl.described (D : Decl) (ver : String → Option String) (location : String)
    (concealed : List String) : List String :=
  (D.describedTokens ver location concealed).map (" ".intercalate ·)

end JavaBuild.Module

namespace JavaBuild.Module

/-! ## Reading tokens back -/

theorem isBlank_space : Text.isBlank ' ' = true := by decide

theorem isBlank_comma : Text.isBlank ',' = false := by decide

theorem blanks_space : ∀ c ∈ [' '], Text.isBlank c = true := by simp [isBlank_space]

/-- A token after a blank, with blanks around a comma as the directive reader puts them. -/
def tokenPiece (u : String) : List Char :=
  if u = "," then [' ', ',', ' '] else ' ' :: u.toList

theorem isToken_ne_nil {t : String} (ht : IsToken t) : t.toList ≠ [] := by
  rcases ht with rfl | ⟨hne, -⟩
  · decide
  · simpa using hne

theorem words_tokenPiece {u : String} (hu : IsToken u) : Text.words (tokenPiece u) = [u.toList] := by
  unfold tokenPiece
  by_cases hc : u = ","
  · subst hc
    rw [if_pos rfl, show [' ', ',', ' '] = [' '] ++ [','] ++ [' '] from rfl,
      Text.words_word blanks_space (by simp) (by simp [isBlank_comma]) blanks_space]
    rfl
  · rw [if_neg hc, ← List.singleton_append, ← List.append_nil (_ ++ _),
      Text.words_word blanks_space (isToken_ne_nil hu) _ (by simp)]
    intro c hc'
    exact ((hu.resolve_left hc).2 c hc').1

theorem head?_tokenPiece (u : String) : ∀ c, (tokenPiece u).head? = some c → Text.isBlank c = true := by
  unfold tokenPiece
  split <;> · intro c hc; simp at hc; subst hc; exact isBlank_space

/-- Pieces start with a blank. -/
theorem head?_pieces (ts : List String) :
    ∀ c, (ts.flatMap tokenPiece).head? = some c → Text.isBlank c = true := by
  intro c hc
  cases ts with
  | nil => simp at hc
  | cons u us =>
    rw [List.flatMap_cons] at hc
    cases hp : tokenPiece u with
    | nil => simp [tokenPiece] at hp; split at hp <;> simp at hp
    | cons d ds =>
      rw [hp, List.cons_append, List.head?_cons, Option.some.injEq] at hc
      subst hc
      exact head?_tokenPiece u d (by rw [hp]; rfl)

/-- Tokens after blanks are read back one by one. -/
theorem words_pieces {ts : List String} (hts : ∀ t ∈ ts, IsToken t) :
    Text.words (ts.flatMap tokenPiece) = ts.map String.toList := by
  induction ts with
  | nil => rfl
  | cons t ts ih =>
    rw [List.flatMap_cons, Text.words_append (head?_pieces ts), words_tokenPiece (hts t (by simp)),
      ih fun u hu => hts u (by simp [hu]), List.map_cons, List.singleton_append]

theorem spaceCommas_append (a b : List Char) : spaceCommas (a ++ b) = spaceCommas a ++ spaceCommas b :=
  List.flatMap_append

theorem spaceCommas_of_not_mem {cs : List Char} (h : ',' ∉ cs) : spaceCommas cs = cs := by
  induction cs with
  | nil => rfl
  | cons c cs ih =>
    simp only [List.mem_cons, not_or] at h
    unfold spaceCommas at ih ⊢
    rw [List.flatMap_cons, ih h.2, if_neg (by simpa using Ne.symm h.1)]
    rfl

theorem toList_joinTokens (t : String) (ts : List String) :
    (joinTokens (t :: ts)).toList =
      t.toList ++ ts.flatMap fun u => (if u = "," then u else " " ++ u).toList := by
  simp [joinTokens, String.toList_join, List.flatMap_map]

/-- Spacing the commas of a token written after its separator gives its piece. -/
theorem spaceCommas_separated {u : String} (hu : IsToken u) :
    spaceCommas (if u = "," then u else " " ++ u).toList = tokenPiece u := by
  unfold tokenPiece
  by_cases hc : u = ","
  · subst hc
    rfl
  · have hno : ',' ∉ u.toList := fun hm => ((hu.resolve_left hc).2 ',' hm).2 rfl
    simp only [if_neg hc, String.toList_append, show " ".toList = [' '] from rfl,
      List.singleton_append]
    rw [spaceCommas_of_not_mem (by simpa using hno)]

/-- The directive reader reads tokens written after blanks back. -/
theorem directiveWords_joinTokens {lead : String} (hlead : ∀ c ∈ lead.toList, Text.isBlank c = true)
    {t : String} {ts : List String} (ht : IsToken t) (hts : ∀ u ∈ ts, IsToken u) :
    directiveWords (lead ++ joinTokens (t :: ts)) = t :: ts := by
  have hnolead : ',' ∉ lead.toList := fun hm => by simpa [isBlank_comma] using hlead ',' hm
  have hpieces : spaceCommas (ts.flatMap fun u => (if u = "," then u else " " ++ u).toList) =
      ts.flatMap tokenPiece := by
    rw [spaceCommas, List.flatMap_assoc]
    exact List.flatMap_congr fun u hu => spaceCommas_separated (hts u hu)
  have hfirst : Text.words (lead.toList ++ spaceCommas t.toList) = [t.toList] := by
    by_cases hc : t = ","
    · subst hc
      have hsplit : lead.toList ++ spaceCommas ",".toList = (lead.toList ++ [' ']) ++ [','] ++ [' '] := by
        simp [show spaceCommas [','] = [' ', ',', ' '] from rfl]
      rw [hsplit, Text.words_word _ (by simp) (by simp [isBlank_comma]) blanks_space]
      · rfl
      · intro c hc
        rcases List.mem_append.1 hc with hc | hc
        · exact hlead c hc
        · simp only [List.mem_singleton] at hc
          subst hc
          exact isBlank_space
    · have hno : ',' ∉ t.toList := fun hm => ((ht.resolve_left hc).2 ',' hm).2 rfl
      rw [spaceCommas_of_not_mem hno, ← List.append_nil (_ ++ _),
        Text.words_word hlead (isToken_ne_nil ht) (fun c hc' => ((ht.resolve_left hc).2 c hc').1)
          (by simp)]
  rw [directiveWords, String.toList_append, toList_joinTokens, spaceCommas_append,
    spaceCommas_append, spaceCommas_of_not_mem hnolead, hpieces, ← List.append_assoc,
    Text.words_append (head?_pieces ts), hfirst, words_pieces hts]
  simp

/-- Without commas, the words of a line are its directive words. -/
theorem blankWords_eq_directiveWords {s : String} (h : ',' ∉ s.toList) :
    s.blankWords = directiveWords s := by
  rw [String.blankWords, directiveWords, spaceCommas_of_not_mem h]

/-- Words other than commas, written with a blank between them, are read back. -/
theorem blankWords_joinTokens {t : String} {ts : List String} (ht : IsToken t)
    (hts : ∀ u ∈ ts, IsToken u) (hne : ∀ u ∈ t :: ts, u ≠ ",") :
    (joinTokens (t :: ts)).blankWords = t :: ts := by
  have hword : ∀ u, IsToken u → u ≠ "," → ',' ∉ u.toList :=
    fun u hu hc hm => ((hu.resolve_left hc).2 ',' hm).2 rfl
  have hno : ',' ∉ (joinTokens (t :: ts)).toList := by
    rw [toList_joinTokens]
    simp only [List.mem_append, List.mem_flatMap, not_or, not_exists, not_and]
    refine ⟨hword t ht (hne t (by simp)), fun u hu => ?_⟩
    rw [if_neg (hne u (by simp [hu])), String.toList_append]
    simpa [show " ".toList = [' '] from rfl] using hword u (hts u hu) (hne u (by simp [hu]))
  have h := @directiveWords_joinTokens "" (by simp) t ts ht hts
  rw [String.empty_append] at h
  rw [blankWords_eq_directiveWords hno, h]

end JavaBuild.Module
