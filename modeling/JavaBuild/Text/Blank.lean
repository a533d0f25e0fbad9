/-!
# Blank characters and line ends

Text read from configuration files, compiler output and command lines is trimmed and cut at
blanks and at line ends. A *blank* is one of the Unicode white-space characters, which also
covers the ASCII control characters 0x1C to 0x1F (separators). A *line end* is a line feed, a
carriage return (alone or before a line feed), a vertical tab, a form feed, the separators 0x1C
to 0x1E, the next-line control 0x85, and the line and paragraph separators.

The main operations are `trim` (and its one-sided variants), `words` (runs of non-blanks) and
`lines`, each on `List Char`, with `String` wrappers.
-/

namespace JavaBuild.Text

/-- The code points of the blank characters, in ascending order. -/
def blankCodes : List Nat :=
  [0x09, 0x0A, 0x0B, 0x0C, 0x0D, 0x1C, 0x1D, 0x1E, 0x1F, 0x20, 0x85, 0xA0, 0x1680,
   0x2000, 0x2001, 0x2002, 0x2003, 0x2004, 0x2005, 0x2006, 0x2007, 0x2008, 0x2009, 0x200A,
   0x2028, 0x2029, 0x202F, 0x205F, 0x3000]

/-- Whether a character is blank. -/
def isBlank (c : Char) : Bool := blankCodes.contains c.toNat

/-- The code points that end a line, besides the carriage return and line feed pair. -/
def lineEndCodes : List Nat :=
  [0x0A, 0x0B, 0x0C, 0x0D, 0x1C, 0x1D, 0x1E, 0x85, 0x2028, 0x2029]

/-- Whether a character ends a line. -/
def isLineEnd (c : Char) : Bool := lineEndCodes.contains c.toNat

/-- Every ASCII white-space character of core is blank. -/
theorem isBlank_of_isWhitespace (c : Char) (h : c.isWhitespace = true) : isBlank c = true := by
  simp only [Char.isWhitespace, Bool.or_eq_true, decide_eq_true_eq] at h
  rcases h with ((h | h) | h) | h <;> subst h <;> decide

/-- Drops the leading blanks. -/
def trimStart (cs : List Char) : List Char := cs.dropWhile isBlank

/-- Drops the trailing blanks. -/
def trimEnd (cs : List Char) : List Char := (cs.reverse.dropWhile isBlank).reverse

/-- Drops the blanks at both ends. -/
def trim (cs : List Char) : List Char := trimEnd (trimStart cs)

/-- Drops the characters of `set` at both ends. -/
def trimChars (set : List Char) (cs : List Char) : List Char :=
  ((cs.dropWhile (set.contains ·)).reverse.dropWhile (set.contains ·)).reverse

/-- Cuts a text into its maximal runs of non-blank characters. -/
def words (cs : List Char) : List (List Char) := go cs []
where
  go : List Char → List Char → List (List Char)
    | [], [] => []
    | [], acc => [acc.reverse]
    | c :: rest, acc =>
      if isBlank c then
        if acc.isEmpty then go rest [] else acc.reverse :: go rest []
      else go rest (c :: acc)

/-- Cuts a text into lines; the line ends are dropped, and a final line end opens no empty line. -/
def lines : List Char → List (List Char)
  | [] => []
  | cs => go cs []
where
  go : List Char → List Char → List (List Char)
    | [], acc => [acc.reverse]
    | '\r' :: '\n' :: rest, acc => acc.reverse :: (if rest.isEmpty then [] else go rest [])
    | c :: rest, acc =>
      if isLineEnd c then acc.reverse :: (if rest.isEmpty then [] else go rest [])
      else go rest (c :: acc)

end JavaBuild.Text

namespace String

/-- The text without its leading and trailing blanks. -/
def trimBlanks (s : String) : String := String.ofList (JavaBuild.Text.trim s.toList)

/-- The text without its trailing blanks. -/
def trimBlanksEnd (s : String) : String := String.ofList (JavaBuild.Text.trimEnd s.toList)

/-- The text without its leading blanks. -/
def trimBlanksStart (s : String) : String := String.ofList (JavaBuild.Text.trimStart s.toList)

/-- Whether a text is empty or all blank. -/
def isBlankText (s : String) : Bool := s.toList.all JavaBuild.Text.isBlank

/-- The maximal runs of non-blank characters of a text. -/
def blankWords (s : String) : List String := (JavaBuild.Text.words s.toList).map String.ofList

/-- The lines of a text, without their line ends. -/
def textLines (s : String) : List String := (JavaBuild.Text.lines s.toList).map String.ofList

end String
