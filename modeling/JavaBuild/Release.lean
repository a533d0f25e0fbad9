import JavaBuild.Text.Blank
import JavaBuild.Text.Digit

/-!
# Java releases

A release is a numbered Java feature release such as 8, 17 or 21, or the *default* release:
whatever the compiler targets when no release is given. Releases are ordered by number, and the
default comes after every number.

A release is written as a number (`17`), or below 10 also with the old `1.` prefix (`1.8`); the
digits may be those of any script, and blanks around the text are ignored. Releases before 6 are
refused.
-/

namespace JavaBuild

/-- A Java feature release, or the compiler's default. -/
inductive Release where
  | number (n : Nat)
  | default
deriving DecidableEq, Repr, Inhabited

namespace Release

/-- How a release is written in a configuration: absent, a number, or a text. -/
inductive Spec where
  | absent
  | number (n : Int)
  | text (s : String)
deriving DecidableEq, Repr

/-- The spec as the error messages quote it. -/
def Spec.display : Spec → String
  | .absent => "None"
  | .number n => if n < 0 then "-" ++ toString n.natAbs else toString n.natAbs
  | .text s => s

/-- Why a spec names no release. -/
inductive Problem where
  | notARelease
  | prefixTooHigh
  | tooOld
  /-- The number has more digits than a number may have (`Text.maxIntegerDigits`). -/
  | tooManyDigits (count : Nat)
deriving DecidableEq, Repr

/-- A spec that names no release, with the context in which it was given. -/
structure Invalid where
  spec : Spec
  context : Option String
  problem : Problem
deriving DecidableEq, Repr

/-- `release: Invalid release "1.10": the "1." prefix is only valid for releases below 10`; a
number with too many digits is refused as a number, without the spec. -/
def Invalid.message (e : Invalid) : String :=
  let why := match e.problem with
    | .notARelease => "not a Java release"
    | .prefixTooHigh => "the \"1.\" prefix is only valid for releases below 10"
    | .tooOld => "releases before 6 are not supported"
    | .tooManyDigits _ => ""
  let pfx := match e.context with
    | some c => if c.isEmpty then "" else c ++ ": "
    | none => ""
  match e.problem with
  | .tooManyDigits n => Text.digitLimitMessage n
  | _ => s!"{pfx}Invalid release \"{e.spec.display}\": {why}"

/-- Whether the spec is refused as a configuration (every problem but a number too long to
read). -/
def Invalid.isConfiguration (e : Invalid) : Bool :=
  match e.problem with
  | .tooManyDigits _ => false
  | _ => true

/-- The digits of a release text after trimming, and whether they carry the `1.` prefix. -/
def splitDigits (cs : List Char) : Option (Bool × List Char) :=
  let allDigits (ds : List Char) := !ds.isEmpty && ds.all Text.isDigit
  match cs with
  | '1' :: '.' :: rest => if allDigits rest then some (true, rest) else none
  | _ => if allDigits cs then some (false, cs) else none

/-- The release a spec names. -/
def ofSpec (spec : Spec) (context : Option String := none) : Except Invalid Release :=
  let fail (p : Problem) : Except Invalid Release := .error ⟨spec, context, p⟩
  match spec with
  | .absent => .ok .default
  | .number n => if n < 6 then fail .tooOld else .ok (.number n.toNat)
  | .text s =>
    match splitDigits (Text.trim s.toList) with
    | none => fail .notARelease
    | some (pfx, ds) =>
      let v := Text.digitsValue ds
      if ds.length > Text.maxIntegerDigits then fail (.tooManyDigits ds.length)
      else if pfx ∧ 10 ≤ v then fail .prefixTooHigh
      else if v < 6 then fail .tooOld
      else .ok (.number v)

/-- The release a text names, or the default for an absent text. -/
def ofText? (s : Option String) (context : Option String := none) : Except Invalid Release :=
  ofSpec (match s with | some t => .text t | none => .absent) context

/-- `17`, or `default`. -/
def toText : Release → String
  | .number n => toString n
  | .default => "default"

/-- Whether this is the default release. -/
def isDefault : Release → Bool
  | .default => true
  | _ => false

/-- The order of releases: by number, the default last. -/
def precedes : Release → Release → Bool
  | .number a, .number b => decide (a < b)
  | .number _, .default => true
  | .default, _ => false

instance : LT Release := ⟨fun a b => a.precedes b = true⟩

instance (a b : Release) : Decidable (a < b) := inferInstanceAs (Decidable (a.precedes b = true))

/-- No release precedes itself. -/
theorem precedes_irrefl (a : Release) : a.precedes a = false := by
  cases a <;> simp [precedes]

/-- Sorts releases ascending. -/
def sort (rs : List Release) : List Release := rs.mergeSort fun a b => !(b.precedes a)

end Release

end JavaBuild
