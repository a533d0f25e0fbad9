import JavaBuild.Source.Glob

/-!
# The language of include and exclude patterns

`globMatches` decides whether a pattern matches a whole path element by element, trying the
shorter run of a `*` or a `**` first. This module states the language it decides without an
algorithm: a path matches a pattern when it cuts into consecutive runs, one for each element of
the pattern, each run one that its element accepts (`GlobMatch`). `**/` accepts nothing or a run
that ends with a slash, `**` any run, `*` a run without slashes, `?` one character other than a
slash, and any other character itself; the runs of `**` and `**/` hold no line feed.

The two agree on every pattern and path (`globMatches_iff`), so a filter selects exactly the
paths that match one of its include patterns and none of its exclude patterns
(`PathFilter.selects_iff_globMatch`). Because of the line feed, a pattern of `**` alone does not
select every path (`selects_double_star_skips_line_feed`).
-/

namespace JavaBuild.Source

/-- The runs of characters that one element of a pattern accepts. -/
def GlobPart.Accepts : GlobPart → List Char → Prop
  | .dirs, run => run = [] ∨ ∃ r, '\n' ∉ r ∧ run = r ++ ['/']
  | .any, run => '\n' ∉ run
  | .name, run => '/' ∉ run
  | .one, run => ∃ c, c ≠ '/' ∧ run = [c]
  | .lit c, run => run = [c]

/-- A path cut into consecutive runs, one for each element of a pattern, each accepted by its
element. -/
inductive GlobMatch : List GlobPart → List Char → Prop
  | nil : GlobMatch [] []
  | cons {p : GlobPart} {ps : List GlobPart} {run rest : List Char} :
      p.Accepts run → GlobMatch ps rest → GlobMatch (p :: ps) (run ++ rest)

namespace GlobPart

theorem accepts_name {run : List Char} : GlobPart.name.Accepts run ↔ ∀ c ∈ run, c ≠ '/' :=
  ⟨fun h _ hc e => h (e ▸ hc), fun h hm => h _ hm rfl⟩

theorem accepts_any {run : List Char} : GlobPart.any.Accepts run ↔ ∀ c ∈ run, c ≠ '\n' :=
  ⟨fun h _ hc e => h (e ▸ hc), fun h hm => h _ hm rfl⟩

theorem accepts_one {run : List Char} : GlobPart.one.Accepts run ↔ ∃ c, c ≠ '/' ∧ run = [c] :=
  Iff.rfl

theorem accepts_lit {c : Char} {run : List Char} : (GlobPart.lit c).Accepts run ↔ ∃ x, x = c ∧ run = [x] :=
  ⟨fun h => ⟨c, rfl, h⟩, fun ⟨_, hx, h⟩ => hx ▸ h⟩

end GlobPart

namespace GlobMatch

variable {p : GlobPart} {ps : List GlobPart}

theorem nil_iff {s : List Char} : GlobMatch [] s ↔ s = [] := by
  constructor
  · intro h
    cases h
    rfl
  · rintro rfl
    exact .nil

theorem cons_iff {s : List Char} :
    GlobMatch (p :: ps) s ↔ ∃ run rest, p.Accepts run ∧ GlobMatch ps rest ∧ s = run ++ rest := by
  constructor
  · intro h
    cases h with
    | cons hrun hrest => exact ⟨_, _, hrun, hrest, rfl⟩
  · rintro ⟨run, rest, hrun, hrest, rfl⟩
    exact .cons hrun hrest

section Single

/-! Elements that accept one character that passes a test: `?` and a character of its own. -/

variable {P : Char → Prop} (hp : ∀ run, p.Accepts run ↔ ∃ c, P c ∧ run = [c])
include hp

theorem single_cons {x : Char} {s : List Char} :
    GlobMatch (p :: ps) (x :: s) ↔ P x ∧ GlobMatch ps s := by
  rw [cons_iff]
  constructor
  · rintro ⟨run, rest, hrun, hrest, hs⟩
    obtain ⟨c, hc, rfl⟩ := (hp run).1 hrun
    obtain ⟨rfl, rfl⟩ := List.cons_eq_cons.1 hs
    exact ⟨hc, hrest⟩
  · rintro ⟨hx, hs⟩
    exact ⟨[x], s, (hp [x]).2 ⟨x, hx, rfl⟩, hs, rfl⟩

theorem not_single_nil : ¬ GlobMatch (p :: ps) [] := by
  rw [cons_iff]
  rintro ⟨run, rest, hrun, -, hs⟩
  obtain ⟨c, -, rfl⟩ := (hp run).1 hrun
  simp at hs

end Single

section Star

/-! Elements that accept every run of characters that pass a test: `*` and `**`. -/

variable {P : Char → Prop} (hp : ∀ run, p.Accepts run ↔ ∀ c ∈ run, P c)
include hp

theorem star_nil : GlobMatch (p :: ps) [] ↔ GlobMatch ps [] := by
  rw [cons_iff]
  constructor
  · rintro ⟨run, rest, -, hrest, hs⟩
    obtain ⟨-, rfl⟩ := List.append_eq_nil_iff.1 hs.symm
    exact hrest
  · intro h
    exact ⟨[], [], (hp []).2 (by simp), h, rfl⟩

/-- A run either is empty, or takes the first character and goes on. -/
theorem star_cons {x : Char} {s : List Char} :
    GlobMatch (p :: ps) (x :: s) ↔ GlobMatch ps (x :: s) ∨ (P x ∧ GlobMatch (p :: ps) s) := by
  rw [cons_iff, cons_iff]
  constructor
  · rintro ⟨run, rest, hrun, hrest, hs⟩
    cases run with
    | nil => exact .inl (hs ▸ hrest)
    | cons y run =>
      obtain ⟨rfl, rfl⟩ := List.cons_eq_cons.1 hs
      have hall := (hp _).1 hrun
      refine .inr ⟨hall _ List.mem_cons_self, run, rest, (hp run).2 ?_, hrest, rfl⟩
      exact fun c hc => hall c (List.mem_cons_of_mem _ hc)
  · rintro (h | ⟨hx, run, rest, hrun, hrest, rfl⟩)
    · exact ⟨[], x :: s, (hp []).2 (by simp), h, rfl⟩
    · refine ⟨x :: run, rest, (hp _).2 ?_, hrest, rfl⟩
      intro c hc
      rcases List.mem_cons.1 hc with rfl | hc
      · exact hx
      · exact (hp run).1 hrun c hc

end Star

/-- `**/` matches nothing, or a run of `**` followed by a slash. -/
theorem dirs_iff {s : List Char} :
    GlobMatch (.dirs :: ps) s ↔ GlobMatch ps s ∨ GlobMatch (.any :: .lit '/' :: ps) s := by
  rw [cons_iff, cons_iff]
  constructor
  · rintro ⟨run, rest, hrun | ⟨r, hr, rfl⟩, hrest, rfl⟩
    · subst hrun
      exact .inl hrest
    · exact .inr ⟨r, ['/'] ++ rest, hr, .cons rfl hrest, by simp⟩
  · rintro (h | ⟨r, slashRest, hr, hslash, rfl⟩)
    · exact ⟨[], s, .inl rfl, h, rfl⟩
    · obtain ⟨run, rest, hrun, hrest, rfl⟩ := cons_iff.1 hslash
      have hrun : run = ['/'] := hrun
      subst hrun
      exact ⟨r ++ ['/'], rest, .inr ⟨r, hr, rfl⟩, hrest, by simp⟩

end GlobMatch

/-- The matcher decides the language of patterns: it matches a path exactly when the path cuts
into runs that the pattern's elements accept in turn. -/
theorem globMatches_iff (ps : List GlobPart) (s : List Char) :
    globMatches ps s = true ↔ GlobMatch ps s := by
  fun_induction globMatches ps s with
  | case1 s => simp [GlobMatch.nil_iff]
  | case2 c ps x s ih =>
    rw [Bool.and_eq_true, ih, GlobMatch.single_cons (fun _ => GlobPart.accepts_lit)]
    simp
  | case3 ps x s ih =>
    rw [Bool.and_eq_true, ih, GlobMatch.single_cons (fun _ => GlobPart.accepts_one)]
    simp
  | case4 ps ih => rw [ih, GlobMatch.star_nil (fun _ => GlobPart.accepts_name)]
  | case5 ps x s ihStop ihGo =>
    rw [Bool.or_eq_true, Bool.and_eq_true, ihStop, ihGo,
      GlobMatch.star_cons (fun _ => GlobPart.accepts_name)]
    simp
  | case6 ps ih => rw [ih, GlobMatch.star_nil (fun _ => GlobPart.accepts_any)]
  | case7 ps x s ihStop ihGo =>
    rw [Bool.or_eq_true, Bool.and_eq_true, ihStop, ihGo,
      GlobMatch.star_cons (fun _ => GlobPart.accepts_any)]
    simp
  | case8 ps s ihNone ihRun => rw [Bool.or_eq_true, ihNone, ihRun, GlobMatch.dirs_iff]
  | case9 c ps =>
    have h : ¬ GlobMatch (.lit c :: ps) [] := GlobMatch.not_single_nil fun _ => GlobPart.accepts_lit
    simpa using h
  | case10 ps =>
    have h : ¬ GlobMatch (.one :: ps) [] := GlobMatch.not_single_nil fun _ => GlobPart.accepts_one
    simpa using h

/-- A filter selects a path exactly when the path matches one of the include patterns (the
default ones when none is given) and none of the exclude patterns, each pattern read with its
backslashes as slashes and `**` after a final slash. -/
theorem PathFilter.selects_iff_globMatch (includes excludes : List String) (path : String) :
    (PathFilter.make includes excludes).selects path = true ↔
      (∃ p ∈ (if includes.isEmpty then defaultIncludes else includes),
          GlobMatch (globParts (normalizePattern p).toList) path.toList) ∧
        ∀ p ∈ excludes, ¬ GlobMatch (globParts (normalizePattern p).toList) path.toList := by
  simp [PathFilter.make, PathFilter.selects, globMatches_iff]

/-- `**` alone is read as one element that stands for a run of any characters, yet the filter
of that one pattern does not select `a⏎b`: the run stops at the line feed. -/
theorem selects_double_star_skips_line_feed :
    globParts (normalizePattern "**").toList = [.any] ∧
      (PathFilter.make ["**"] []).selects "a\nb" = false := by
  have hread : globParts (normalizePattern "**").toList = [.any] := by decide
  refine ⟨hread, ?_⟩
  simp [PathFilter.make, PathFilter.selects, hread, globMatches]

end JavaBuild.Source
