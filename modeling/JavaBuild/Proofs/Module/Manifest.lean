import Mathlib
import JavaBuild.Module.Artifact

/-!
# Automatic module names read from manifests

A jar without a module declaration holds an automatic module when the main section of its
manifest has an `Automatic-Module-Name` header. The manifest format writes a header as
`name: value`; no line may be longer than 72 bytes, so a longer value goes on in continuation
lines, each starting with one blank, and the value is the pieces joined. A line ends with CRLF,
LF or CR.

`Header` and `write` say how a main section is written. Reading an attribute back
(`manifestAttribute_write`) finds the header line of the first header with that name, for every
line end and whatever follows the main section, and keeps what stands on that line: the
continuation lines are not joined. So `describeArtifact` names the module by the header line's
part of the value, or fails when that part is no module name, and leaves the host as it was
(`describeArtifact_names_module_by_header_line`). A name wrapped at 72 bytes is cut short
(`describeArtifact_cuts_wrapped_name`).
-/

namespace JavaBuild.Module.Manifest

/-! ## The format -/

/-- How a manifest line ends. -/
inductive LineEnd where
  | crlf
  | lf
  | cr
deriving DecidableEq

def LineEnd.chars : LineEnd → List Char
  | .crlf => ['\r', '\n']
  | .lf => ['\n']
  | .cr => ['\r']

/-- A header of a manifest section: its name, the part of its value on the header line, and the
parts on its continuation lines. -/
structure Header where
  name : String
  head : String
  more : List String
deriving DecidableEq

namespace Header

/-- The value of a header, its continuation lines joined. -/
def value (a : Header) : String := a.head ++ String.join a.more

/-- The line that a header starts with. -/
def line (a : Header) : String := a.name ++ ": " ++ a.head

/-- The lines of a header, without their line ends. -/
def lines (a : Header) : List String := a.line :: a.more.map (" " ++ ·)

/-- Every line of the header fits in 72 bytes. -/
def Fits (a : Header) : Prop := ∀ l ∈ a.lines, l.utf8ByteSize ≤ 72

instance : DecidablePred Fits := fun a =>
  decidable_of_iff (a.lines.all fun l => decide (l.utf8ByteSize ≤ 72)) (by simp [Fits])

end Header

/-- The characters of a header name. -/
def isNameChar (c : Char) : Bool := c.isAlphanum || c == '-' || c == '_'

/-- A text that holds no line end. -/
def Plain (s : String) : Prop := ∀ c ∈ s.toList, Text.isLineEnd c = false

instance : DecidablePred Plain := fun s =>
  decidable_of_iff (s.toList.all fun c => !Text.isLineEnd c) (by simp [Plain])

/-- A header of the format: its name is made of name characters, and no part of its value holds
a line end. -/
structure Header.WellFormed (a : Header) : Prop where
  name : ∀ c ∈ a.name.toList, isNameChar c = true
  head : Plain a.head
  more : ∀ p ∈ a.more, Plain p

instance : DecidablePred Header.WellFormed := fun a =>
  decidable_of_iff (a.name.toList.all isNameChar && decide (Plain a.head) &&
      a.more.all fun p => decide (Plain p)) (by
    simp only [Bool.and_eq_true, List.all_eq_true, decide_eq_true_eq]
    exact ⟨fun ⟨⟨hn, hh⟩, hm⟩ => ⟨hn, hh, hm⟩, fun ⟨hn, hh, hm⟩ => ⟨⟨hn, hh⟩, hm⟩⟩)

/-- Lines, each followed by the line end `e`. -/
def writeLines (e : LineEnd) (ls : List String) : List Char :=
  ls.flatMap fun l => l.toList ++ e.chars

/-- A section written with the line end `e`. -/
def write (e : LineEnd) (hs : List Header) : List Char := writeLines e (hs.flatMap Header.lines)

/-! ## Lines

`Text.lines` reads a line into its accumulator up to a line end, where a carriage return before a
line feed ends the line together with it. Written lines are therefore read back one by one; the
last one may take a line feed that follows it in the rest of the text when it ends with CR.
-/

theorem lines_eq_go (cs : List Char) :
    Text.lines cs = if cs.isEmpty then [] else Text.lines.go cs [] := by
  cases cs <;> simp [Text.lines]

theorem lines_go_plain {l : List Char} (hl : ∀ c ∈ l, Text.isLineEnd c = false)
    (rest acc : List Char) :
    Text.lines.go (l ++ rest) acc = Text.lines.go rest (l.reverse ++ acc) := by
  induction l generalizing acc with
  | nil => rfl
  | cons c l ih =>
    have hc : Text.isLineEnd c = false := hl c (by simp)
    have hr : c ≠ '\r' := by rintro rfl; simp [Text.isLineEnd, Text.lineEndCodes] at hc
    rw [List.cons_append, Text.lines.go.eq_3 _ _ _ (by simp [hr]), if_neg (by simp [hc]),
      ih fun d hd => hl d (by simp [hd])]
    simp

theorem lines_go_end_of_ne {e : LineEnd} {rest : List Char} (h : e = .cr → rest.head? ≠ some '\n')
    (acc : List Char) : Text.lines.go (e.chars ++ rest) acc = acc.reverse :: Text.lines rest := by
  cases e with
  | crlf => simp [LineEnd.chars, Text.lines.go, lines_eq_go]
  | lf => simp [LineEnd.chars, Text.lines.go, Text.isLineEnd, Text.lineEndCodes, lines_eq_go]
  | cr =>
    have hn : ∀ r, rest ≠ '\n' :: r := by rintro r rfl; simp at h
    rw [LineEnd.chars, List.singleton_append, Text.lines.go.eq_3 _ _ _ (fun r _ h => hn r h)]
    simp [Text.isLineEnd, Text.lineEndCodes, lines_eq_go]

theorem lines_go_end (e : LineEnd) (rest acc : List Char) :
    ∃ rest', Text.lines.go (e.chars ++ rest) acc = acc.reverse :: Text.lines rest' := by
  by_cases hn : e = .cr ∧ rest.head? = some '\n'
  · -- a carriage return before a line feed ends the line together with it
    obtain ⟨rfl, hhead⟩ := hn
    obtain ⟨r, rfl⟩ : ∃ r, rest = '\n' :: r := by
      cases rest with
      | nil => cases hhead
      | cons c r => simp only [List.head?_cons, Option.some.injEq] at hhead; exact ⟨r, by rw [hhead]⟩
    exact ⟨r, by simp [LineEnd.chars, Text.lines.go, lines_eq_go]⟩
  · exact ⟨rest, lines_go_end_of_ne (fun he hr => hn ⟨he, hr⟩) acc⟩

/-- A line without line ends is read up to its line end. -/
theorem lines_line_eq_go {l : List Char} (hl : ∀ c ∈ l, Text.isLineEnd c = false) (e : LineEnd)
    (rest : List Char) :
    Text.lines (l ++ e.chars ++ rest) = Text.lines.go (e.chars ++ rest) l.reverse := by
  have hne : l ++ e.chars ++ rest ≠ [] := by cases e <;> simp [LineEnd.chars]
  rw [Text.lines.eq_2 _ hne, List.append_assoc, lines_go_plain hl, List.append_nil]

theorem lines_line {l : List Char} (hl : ∀ c ∈ l, Text.isLineEnd c = false) (e : LineEnd)
    (rest : List Char) : ∃ rest', Text.lines (l ++ e.chars ++ rest) = l :: Text.lines rest' := by
  obtain ⟨rest', h⟩ := lines_go_end e rest l.reverse
  exact ⟨rest', by rw [lines_line_eq_go hl, h, List.reverse_reverse]⟩

theorem lines_line_of_ne {l : List Char} (hl : ∀ c ∈ l, Text.isLineEnd c = false) {e : LineEnd}
    {rest : List Char} (h : e = .cr → rest.head? ≠ some '\n') :
    Text.lines (l ++ e.chars ++ rest) = l :: Text.lines rest := by
  rw [lines_line_eq_go hl, lines_go_end_of_ne h, List.reverse_reverse]

/-- Written lines start with a character of the first line or with its line end, never with a
line feed when lines end with CR. -/
theorem head?_writeLines_ne {ls : List String} (hls : ∀ l ∈ ls, Plain l) (hne : ls ≠ [])
    (rest : List Char) : (writeLines .cr ls ++ rest).head? ≠ some '\n' := by
  obtain ⟨l, ls, rfl⟩ := List.exists_cons_of_ne_nil hne
  have hl : Plain l := hls l (by simp)
  cases hc : l.toList with
  | nil => simp [writeLines, hc, LineEnd.chars]
  | cons c cs =>
    have : Text.isLineEnd c = false := hl c (by simp [hc])
    intro h
    simp [writeLines, hc] at h
    subst h
    simp [Text.isLineEnd, Text.lineEndCodes] at this

/-- Written lines are read back first, whatever follows them. -/
theorem lines_writeLines (e : LineEnd) {ls : List String} (hls : ∀ l ∈ ls, Plain l)
    (rest : List Char) :
    ∃ tail, Text.lines (writeLines e ls ++ rest) = ls.map String.toList ++ tail := by
  induction ls with
  | nil => exact ⟨Text.lines rest, rfl⟩
  | cons l ls ih =>
    have hl : Plain l := hls l (by simp)
    by_cases hnil : ls = []
    · subst hnil
      obtain ⟨rest', h⟩ := lines_line hl e rest
      exact ⟨Text.lines rest', by simpa [writeLines] using h⟩
    · obtain ⟨tail, ht⟩ := ih (fun l' h' => hls l' (by simp [h']))
      refine ⟨tail, ?_⟩
      -- the next line keeps a carriage return from taking a line feed with it
      have hcr : e = .cr → (writeLines e ls ++ rest).head? ≠ some '\n' := by
        rintro rfl
        exact head?_writeLines_ne (fun l' h' => hls l' (by simp [h'])) hnil rest
      have h := lines_line_of_ne hl hcr
      simp only [writeLines, List.flatMap_cons, List.append_assoc] at h ht ⊢
      rw [h, ht, List.map_cons, List.cons_append]

/-! ## Headers -/

theorem isNameChar_ne_colon {c : Char} (h : isNameChar c = true) : c ≠ ':' := by
  rintro rfl; simp [isNameChar] at h

theorem isNameChar_ne_blank {c : Char} (h : isNameChar c = true) : c ≠ ' ' := by
  rintro rfl; simp [isNameChar] at h

theorem isLineEnd_of_isNameChar {c : Char} (h : isNameChar c = true) :
    Text.isLineEnd c = false := by
  simp [isNameChar, Char.isAlphanum, Char.isAlpha, Char.isUpper, Char.isLower, Char.isDigit] at h
  rcases h with (h | rfl) | rfl
  · rw [Bool.eq_false_iff]
    intro hend
    simp [Text.isLineEnd, Text.lineEndCodes] at hend
    simp [UInt32.le_iff_toNat_le] at h
    omega
  all_goals decide

theorem plain_append {s t : String} (hs : Plain s) (ht : Plain t) : Plain (s ++ t) := by
  intro c hc
  rw [String.toList_append, List.mem_append] at hc
  exact hc.elim (hs c) (ht c)

/-- No line of a well-formed header holds a line end. -/
theorem Header.WellFormed.plain_lines {b : Header} (hb : b.WellFormed) :
    ∀ l ∈ b.lines, Plain l := by
  have hsep : Plain ": " := by decide +kernel
  have hblank : Plain " " := by decide +kernel
  intro l hl
  rcases List.mem_cons.1 hl with rfl | hl
  · exact plain_append (plain_append (fun c hc => isLineEnd_of_isNameChar (hb.name c hc)) hsep)
      hb.head
  · obtain ⟨p, hp, rfl⟩ := List.mem_map.1 hl
    exact plain_append hblank (hb.more p hp)

/-- A name followed by a colon starts another name followed by one only when the names are the
same, since neither holds a colon. -/
theorem prefix_colon_iff {k n : List Char} (hk : ∀ c ∈ k, c ≠ ':') (hn : ∀ c ∈ n, c ≠ ':')
    (r : List Char) : k ++ [':'] <+: n ++ ':' :: r ↔ k = n := by
  induction k generalizing n with
  | nil =>
    cases n with
    | nil => simp
    | cons d n => simpa using (hn d (by simp)).symm
  | cons c k ih =>
    cases n with
    | nil => simp [hk c (by simp)]
    | cons d n =>
      simp only [List.cons_append, List.cons_prefix_cons, List.cons.injEq]
      rw [ih (fun x hx => hk x (by simp [hx])) (fun x hx => hn x (by simp [hx]))]

/-- The header line of `b` starts with `key:` exactly when `b` is named `key`. -/
theorem startsWith_line {key : String} {b : Header}
    (hk : ∀ c ∈ key.toList, isNameChar c = true) (hb : b.WellFormed) :
    b.line.startsWith (key ++ ":") = decide (b.name = key) := by
  have h := prefix_colon_iff (fun c hc => isNameChar_ne_colon (hk c hc))
    (fun c hc => isNameChar_ne_colon (hb.name c hc)) (' ' :: b.head.toList)
  rw [Bool.eq_iff_iff, String.startsWith_string_iff]
  have hcolon : ":".toList = [':'] := rfl
  have hsep : ": ".toList = [':', ' '] := rfl
  simp only [Header.line, String.toList_append, List.append_assoc, decide_eq_true_eq, hcolon, hsep,
    List.cons_append, List.nil_append, h]
  exact ⟨fun h => (String.toList_inj.1 h).symm, fun h => by rw [h]⟩

/-- A continuation line starts with a blank, which no name does. -/
theorem startsWith_continuation {key : String} (hk : ∀ c ∈ key.toList, isNameChar c = true)
    (p : String) : (" " ++ p).startsWith (key ++ ":") = false := by
  rw [Bool.eq_false_iff, ne_eq, String.startsWith_string_iff, String.toList_append,
    String.toList_append]
  cases hkey : key.toList with
  | nil => simp [show ":".toList = [':'] from rfl, show " ".toList = [' '] from rfl]
  | cons c cs =>
    have hc : c ≠ ' ' := isNameChar_ne_blank (hk c (by simp [hkey]))
    simp [show " ".toList = [' '] from rfl, hc]

/-- The first line of a header that starts with `key:` is its header line, when it has that
name. -/
theorem find?_lines {key : String} {b : Header} (hk : ∀ c ∈ key.toList, isNameChar c = true)
    (hb : b.WellFormed) :
    b.lines.find? (·.startsWith (key ++ ":")) = if b.name = key then some b.line else none := by
  by_cases hname : b.name = key
  · simp [Header.lines, startsWith_line hk hb, hname]
  · simp [Header.lines, startsWith_line hk hb, hname, startsWith_continuation hk]

/-- In a section, the first line that starts with `key:` is the header line of the first header
named `key`. -/
theorem find?_sectionLines {key : String} {hs : List Header}
    (hk : ∀ c ∈ key.toList, isNameChar c = true) (hwf : ∀ b ∈ hs, b.WellFormed) :
    (hs.flatMap Header.lines).find? (·.startsWith (key ++ ":")) =
      (hs.find? (·.name == key)).map Header.line := by
  induction hs with
  | nil => rfl
  | cons b hs ih =>
    rw [List.flatMap_cons, List.find?_append, find?_lines hk (hwf b (by simp)),
      ih fun b' h' => hwf b' (by simp [h'])]
    by_cases hname : b.name = key <;> simp [hname]

/-! ## Reading an attribute -/

theorem trim_blank_cons (cs : List Char) : Text.trim (' ' :: cs) = Text.trim cs := by
  simp [Text.trim, Text.trimStart, show Text.isBlank ' ' = true by decide]

/-- What follows `key:` on the header line of a header named `key`, trimmed, is its head,
trimmed. -/
theorem trimBlanks_drop_line {key : String} {a : Header} (ha : a.name = key) :
    (String.ofList (a.line.toList.drop (key ++ ":").length)).trimBlanks = a.head.trimBlanks := by
  have hsep : ": ".toList = [':', ' '] := rfl
  have hlen : (key ++ ":").length = key.toList.length + 1 := by
    rw [← String.length_toList, String.toList_append, show ":".toList = [':'] from rfl,
      List.length_append, List.length_singleton]
  simp [Header.line, ha, hsep, hlen, String.trimBlanks, trim_blank_cons]

/-- Reading an attribute off a manifest whose main section is written with any line end gives
the head of the first header with that name, trimmed: what stands on the header line, without
the continuation lines. -/
theorem manifestAttribute_write {key : String} {hs : List Header} {a : Header} (e : LineEnd)
    (rest : List Char) (hwf : ∀ b ∈ hs, b.WellFormed) (ha : hs.find? (·.name == key) = some a) :
    manifestAttribute (String.ofList (write e hs ++ rest)) key = some a.head.trimBlanks := by
  have hname : a.name = key := by simpa using List.find?_some ha
  have hk : ∀ c ∈ key.toList, isNameChar c = true :=
    hname ▸ (hwf a (List.mem_of_find?_eq_some ha)).name
  have hplain : ∀ l ∈ hs.flatMap Header.lines, Plain l := by
    intro l hl
    obtain ⟨b, hb, hl⟩ := List.mem_flatMap.1 hl
    exact (hwf b hb).plain_lines l hl
  obtain ⟨tail, htail⟩ := lines_writeLines e hplain rest
  have hfind := find?_sectionLines hk hwf
  rw [ha, Option.map_some] at hfind
  simp only [manifestAttribute, String.textLines, String.toList_ofList, write, htail,
    List.map_append, List.map_map, Function.comp_def, String.ofList_toList, List.map_id',
    List.find?_append, hfind, Option.some_or, Option.map_some, trimBlanks_drop_line hname]

end JavaBuild.Module.Manifest

namespace JavaBuild

/-- The bytes of the file at a path of the host. -/
def Host.fileBytes? (h : Host) (p : String) : Option ByteArray :=
  match h.disk.lookup (Path.absolute h.cwd p) with
  | .ok (.file b _ _) => some b
  | _ => none

theorem Host.lookup_of_fileBytes? {h : Host} {p : String} {b : ByteArray} (hb : h.fileBytes? p = some b) :
    ∃ t x, h.disk.lookup (Path.absolute h.cwd p) = .ok (.file b t x) := by
  unfold Host.fileBytes? at hb
  split at hb
  · cases hb
    exact ⟨_, _, ‹_›⟩
  · cases hb

end JavaBuild

namespace JavaBuild.Module

open Manifest

/-! ## Describing a jar -/

/-- An archive that holds an end record has one. -/
theorem isArchive_of_directory {b : ByteArray} {d : Zip.Directory} (h : Zip.directory b = .ok d) :
    Zip.isArchive b = .ok true := by
  unfold Zip.directory at h
  unfold Zip.isArchive
  cases hr : Zip.endRecord b with
  | error f => simp [hr] at h; cases h
  | ok r =>
    cases r with
    | none => simp [hr] at h; cases h
    | some r => rfl

/-- The text of the manifest of an archive that holds no module declaration. -/
def jarManifest (b : ByteArray) : Option String := do
  let dir ← (Zip.directory b).toOption
  if dir.names.contains "module-info.class" then none else
  let entry ← dir.find? "META-INF/MANIFEST.MF"
  let data ← (Zip.readEntry b entry).toOption
  pure (Utf8.decodeLossy data)

/-- What describing a jar without a module declaration gives, from the text of its manifest. -/
def manifestOutcome (path text : String) : Except Failure (Option Descriptor) :=
  match manifestAttribute text "Automatic-Module-Name" with
  | none => .ok none
  | some name =>
    if isValidName name then
      .ok (some (Descriptor.make name [("java.base", ["mandated"])] [] [] [] [] (some path) [] true
        false))
    else .error (.config ("Invalid Automatic-Module-Name '" ++ name ++ s!"' in {path}"))

/-- A file that is an archive without a module declaration is described from its manifest, and
the host is left as it was. -/
theorem describeArtifact_jar {h₀ : Host} {path : String} {bytes : ByteArray} {text : String}
    (hpath : HostM.nameable path = true) (hfile : h₀.fileBytes? path = some bytes)
    (hman : jarManifest bytes = some text) :
    (describeArtifact path).run.run h₀ = (manifestOutcome path text, h₀) := by
  obtain ⟨t, x, hfile⟩ := Host.lookup_of_fileBytes? hfile
  simp only [jarManifest, Option.bind_eq_bind, Option.bind_eq_some_iff] at hman
  obtain ⟨dir, hdir, hman⟩ := hman
  have hdir : Zip.directory bytes = .ok dir := by
    cases h : Zip.directory bytes <;> simp_all [Except.toOption]
  split at hman
  · cases hman
  rename_i hmod
  simp only [Option.bind_eq_some_iff] at hman
  obtain ⟨entry, hentry, data, hdata, hman⟩ := hman
  have hdata : Zip.readEntry bytes entry = .ok data := by
    cases h : Zip.readEntry bytes entry <;> simp_all [Except.toOption]
  cases hman
  -- what the host answers about the path
  have hisDir : h₀.disk.isDir (Path.absolute h₀.cwd path) = false := by simp [Disk.isDir, hfile]
  have hisFile : h₀.disk.isFile (Path.absolute h₀.cwd path) = true := by
    simp [Disk.isFile, hfile]
  have hread : h₀.disk.readFile (Path.absolute h₀.cwd path) = .ok bytes := by
    rw [Disk.readFile, hfile]
    rfl
  simp only [HostM.nameable, Bool.and_eq_true, Bool.not_eq_true', Option.isNone_iff_eq_none]
    at hpath
  have hmod : "module-info.class" ∉ dir.names := by simpa using hmod
  simp [describeArtifact, HostM.isDir, HostM.isFile, HostM.readBytes, HostM.onDisk,
    HostM.checkWritable, readArchive, bind, ExceptT.bind, ExceptT.mk, ExceptT.bindCont,
    StateT.bind, ExceptT.run, StateT.run, get, getThe, MonadStateOf.get, StateT.get, liftM,
    monadLift, MonadLift.monadLift, ExceptT.lift, Functor.map, StateT.map, pure, ExceptT.pure,
    StateT.pure, HostM.nameable, hisDir, hisFile, hread, hpath.1, hpath.2,
    isArchive_of_directory hdir, hdir,
    hentry, hdata, hmod]
  unfold manifestOutcome
  cases manifestAttribute (Utf8.decodeLossy data) "Automatic-Module-Name" with
  | none => rfl
  | some name => cases hv : isValidName name <;> simp [hv] <;> rfl

/-- A jar without a module declaration whose manifest's main section has an
`Automatic-Module-Name` header holds the automatic module named by what stands on the header
line, trimmed, or fails when that is no module name; the continuation lines are not read. The
host is left as it was. -/
theorem describeArtifact_names_module_by_header_line {h₀ : Host} {path : String}
    {bytes : ByteArray} {e : LineEnd} {hs : List Header} {rest : List Char} {a : Header}
    (hpath : HostM.nameable path = true) (hfile : h₀.fileBytes? path = some bytes)
    (hman : jarManifest bytes = some (String.ofList (write e hs ++ rest)))
    (hwf : ∀ b ∈ hs, b.WellFormed) (ha : hs.find? (·.name == "Automatic-Module-Name") = some a) :
    (describeArtifact path).run.run h₀ =
      (if isValidName a.head.trimBlanks then
        .ok (some (Descriptor.make a.head.trimBlanks [("java.base", ["mandated"])] [] [] [] []
          (some path) [] true false))
      else .error (.config ("Invalid Automatic-Module-Name '" ++ a.head.trimBlanks ++
        s!"' in {path}")), h₀) := by
  rw [describeArtifact_jar hpath hfile hman, manifestOutcome, manifestAttribute_write e rest hwf ha]

/-- A module name of 49 characters after `Automatic-Module-Name: ` fills a line; the rest of the
name goes on in a continuation line. -/
def wrappedName : Header :=
  ⟨"Automatic-Module-Name", "com.example.enterprise.integration.messaging.tran", ["sport.reactive"]⟩

/-- The main section of a manifest with a wrapped module name, written with CRLF. -/
def wrappedSection : List Header := [⟨"Manifest-Version", "1.0", []⟩, wrappedName]

/-- A manifest of `wrappedSection` and an empty line. -/
def wrappedManifest : String := String.ofList (write .crlf wrappedSection ++ LineEnd.crlf.chars)

/-- An archive that holds only `wrappedManifest`. -/
def wrappedArchive : ByteArray := Zip.store [("META-INF/MANIFEST.MF", wrappedManifest.toUTF8)]

/-- A host with `wrappedArchive` at `lib/a.jar`. -/
def wrappedJar : Host :=
  { disk := { entries := [("/lib", .dir), ("/lib/a.jar", .file wrappedArchive 0 false)] },
    cwd := "/", clock := 0 }

theorem fileBytes?_wrappedJar : wrappedJar.fileBytes? "lib/a.jar" = some wrappedArchive := by
  with_unfolding_all rfl

set_option maxRecDepth 20000 in
theorem jarManifest_wrappedArchive : jarManifest wrappedArchive = some wrappedManifest := by
  decide +kernel

set_option maxRecDepth 20000 in
theorem describeArtifact_wrapped_by_header_line :
    (describeArtifact "lib/a.jar").run.run wrappedJar =
      (.ok (some (Descriptor.make "com.example.enterprise.integration.messaging.tran"
        [("java.base", ["mandated"])] [] [] [] [] (some "lib/a.jar") [] true false)), wrappedJar) := by
  rw [@describeArtifact_names_module_by_header_line wrappedJar "lib/a.jar" wrappedArchive .crlf
    wrappedSection LineEnd.crlf.chars wrappedName (by decide +kernel) fileBytes?_wrappedJar
    jarManifest_wrappedArchive (by decide +kernel) (by decide +kernel)]
  rw [if_pos (by decide +kernel)]
  rfl

set_option maxRecDepth 20000 in
/-- The wrapped name is a header of the format that fits its lines, and its value is a module
name; the jar is described by the part on the header line, which is not that value. -/
theorem describeArtifact_cuts_wrapped_name :
    wrappedName.WellFormed ∧ wrappedName.Fits ∧ isValidName wrappedName.value = true ∧
      ∃ d, (describeArtifact "lib/a.jar").run.run wrappedJar = (.ok (some d), wrappedJar) ∧
        d.name ≠ wrappedName.value := by
  refine ⟨by decide +kernel, by decide +kernel, by decide +kernel, ?_⟩
  have hattr : manifestAttribute wrappedManifest "Automatic-Module-Name" =
      some wrappedName.head.trimBlanks := by
    rw [wrappedManifest]
    exact manifestAttribute_write .crlf LineEnd.crlf.chars (by decide +kernel) (by decide +kernel)
  refine ⟨Descriptor.make wrappedName.head.trimBlanks [("java.base", ["mandated"])] [] [] [] []
    (some "lib/a.jar") [] true false, ?_, ?_⟩
  · have hvalid : isValidName wrappedName.head.trimBlanks = true := by decide +kernel
    rw [describeArtifact_jar (by decide +kernel) fileBytes?_wrappedJar jarManifest_wrappedArchive,
      manifestOutcome, hattr]
    simp only [hvalid, if_true]
  · decide +kernel

end JavaBuild.Module
