import JavaBuild.Text.Blank
import JavaBuild.Text.Lower
import JavaBuild.Digest.Sha256

/-!
# Compiler option lists

The arguments given to the compiler before the source files, in order. Options are only
appended, except the release value, which is kept at one place and can be replaced there or
removed with its flag.

Each addition is checked against a `Checker`, which tells how many values a flag takes: an option
whose flag does not take as many values as it is given is not added, and a warning says why
(unless the checker runs an external compiler, which judges unknown flags by itself). Values are
trimmed of blanks first, and a blank value adds nothing.
-/

namespace JavaBuild

/-- Tells how many values a flag takes (negative for an unknown flag), and whether an external
compiler judges unknown flags itself. -/
structure Checker where
  arity : String → Int
  forked : Bool

/-- The warning for an option whose flag does not take `count` values, or none if it does. -/
def Checker.judge (c : Checker) (option : String) (count : Nat) : Option String :=
  let expected := c.arity option
  if expected = count then none
  else if expected < 0 then
    if c.forked then none else some s!"The '{option}' option is not supported."
  else if expected = 0 then some s!"The '{option}' option does not expect any argument."
  else if expected = 1 then some s!"The '{option}' option expects a single argument."
  else some s!"The '{option}' option expects {expected} arguments."

/-- The arguments given to the compiler, and the place of the release value if there is one. -/
structure OptionList where
  items : List String := []
  releaseAt : Option Nat := none
deriving DecidableEq, Repr, Inhabited

/-- What a call did: the list after it, whether it added its option, and its warnings. -/
structure Appended where
  list : OptionList
  added : Bool
  warnings : List String := []
deriving Repr

/-- A value trimmed of blanks, or none when it is absent or blank. -/
def trimmedValue (v : Option String) : Option String :=
  v.bind fun s => let t := s.trimBlanks; if t.isEmpty then none else some t

namespace OptionList

/-- Appends arguments. -/
def append (o : OptionList) (args : List String) : OptionList := { o with items := o.items ++ args }

/-- Appends a flag without value when `value` holds. -/
def addFlag (c : Checker) (o : OptionList) (option : String) (value : Bool) : Appended :=
  if !value then ⟨o, false, []⟩
  else match c.judge option 0 with
    | none => ⟨o.append [option], true, []⟩
    | some w => ⟨o, false, [w]⟩

/-- Appends a flag and its value when the value is not blank. -/
def addValue (c : Checker) (o : OptionList) (option : String) (value : Option String) : Appended :=
  match trimmedValue value with
  | none => ⟨o, false, []⟩
  | some v =>
    match c.judge option 1 with
    | none => ⟨o.append [option, v], true, []⟩
    | some w => ⟨o, false, [w]⟩

/-- Adds `--release` with a value, or replaces the value already given; a blank value removes
the flag and its value. -/
def setRelease (c : Checker) (o : OptionList) (value : Option String) : Appended :=
  match o.releaseAt with
  | none =>
    let r := o.addValue c "--release" value
    if r.added then { r with list := { r.list with releaseAt := some (r.list.items.length - 1) } }
    else r
  | some i =>
    match trimmedValue value with
    | some v => ⟨{ o with items := o.items.set i v }, true, []⟩
    | none => ⟨{ items := o.items.take (i - 1) ++ o.items.drop (i + 1), releaseAt := none }, false, []⟩

/-- The release value, if one was set. -/
def release (o : OptionList) : Option String := o.releaseAt.bind fun i => o.items[i]?

/-- `'a', 'b', and 'c'`: the legal values as a warning lists them; none for no values. -/
def legalText (valids : List String) : Option String :=
  let quoted := valids.map fun v => s!"'{v}'"
  match quoted.getLast? with
  | none => none
  | some last =>
    some (", ".intercalate quoted.dropLast ++ (if quoted.length > 1 then ", and " else "") ++ last)

/-- How the values of a comma-separated option may be rewritten before they are added: kept,
reversed, or the option dropped. -/
inductive Rewrite where
  | keep
  | reverse
  | cancel
deriving DecidableEq, Repr

/-- The values of a comma-separated option as it is added: trimmed, lower-cased, blanks dropped,
then rewritten; none when no value is left or the rewrite cancels the option. -/
def commaValues (values : String) (rewrite : Rewrite) : Option (List String) :=
  let split := ((values.splitOn ",").filter fun v => !v.trimBlanks.isEmpty).map
    fun v => v.trimBlanks.lowerText
  if split.isEmpty then none
  else match rewrite with
    | .keep => some split
    | .reverse => some split.reverse
    | .cancel => none

/-- The argument `option:v1,v2,…`. -/
def commaArgument (option : String) (values : List String) : String :=
  option ++ ":" ++ ",".intercalate values

/-- Adds `option:v1,v2,…` from comma-separated values, trimmed, lower-cased, blanks dropped.
When the option is refused and a value is not among `valids`, the warning names the legal
values. Fails when such a value is found and there are no legal values to name. -/
def addCommaSeparated (c : Checker) (o : OptionList) (option : String) (values : Option String)
    (valids : Option (List String)) (rewrite : Rewrite := .keep) : Except String Appended :=
  match values.bind (commaValues · rewrite) with
  | none => .ok ⟨o, false, []⟩
  | some split =>
    let s := commaArgument option split
    match c.judge s 0 with
    | none => .ok ⟨o.append [s], true, []⟩
    | some w =>
      match valids with
      | none => .ok ⟨o, false, [w]⟩
      | some vl =>
        match split.find? (fun v => !vl.contains v) with
        | none => .ok ⟨o, false, [w]⟩
        | some bad =>
          match legalText vl with
          | none => .error "list index out of range"
          | some legal =>
            let w' := String.ofList w.toList.dropLast ++
              s!", because the specified {option} value '{bad}' is unexpected. Legal values are: {legal}."
            .ok ⟨o, false, [w']⟩

/-- Whether a memory value is digits with at most a final unit letter K, M or G (either case);
the unit letter, if any. -/
def memoryUnit? (v : List Char) : Option (Option Char) :=
  let isAsciiDigit (c : Char) := '0' ≤ c ∧ c ≤ '9'
  match v.getLast? with
  | none => some none
  | some last =>
    if v.dropLast.all (fun c => isAsciiDigit c) then
      if isAsciiDigit last then some none
      else if "KMGkmg".toList.contains last then some (some last)
      else none
    else none

/-- A memory value as it is added, and whether a unit was added to it: `M` is appended to a
value without unit when `defaultUnit` holds. None when the value is not digits with at most a
final unit letter. -/
def memoryArgument? (v : String) (defaultUnit : Bool) : Option (String × Bool) :=
  (memoryUnit? v.toList).map fun unit =>
    if unit.isNone && defaultUnit then (v ++ "M", true) else (v, false)

/-- Appends `option` followed by a memory value such as `512M`. A value without unit gets `M`
when `defaultUnit` holds, with a warning; an invalid value is ignored with a warning. -/
def addMemoryValue (c : Checker) (o : OptionList) (option label : String) (value : Option String)
    (defaultUnit : Bool := true) : Appended :=
  match trimmedValue value with
  | none => ⟨o, false, []⟩
  | some v =>
    match memoryArgument? v defaultUnit with
    | none => ⟨o, false, [s!"Invalid value for {label}=\"{v}\". Ignoring this option."]⟩
    | some (arg, unitAdded) =>
      let ws := if unitAdded then
          [s!"Value {label}=\"{arg}\" has been specified without unit. An explicit \"M\" unit symbol should be appended for avoiding ambiguity."]
        else []
      match c.judge (option ++ arg) 0 with
      | none => ⟨o.append [option ++ arg], true, ws⟩
      | some w => ⟨o, false, ws ++ [w]⟩

/-- Appends arguments without checking them, trimmed, blanks dropped. -/
def addUnchecked (o : OptionList) (args : List String) : OptionList :=
  o.append (args.filterMap fun a => trimmedValue (some a))

/-- The number of values a flag takes, 0 for an unknown flag. -/
def arityOf (c : Checker) (flag : String) : Nat := (max (c.arity flag) 0).toNat

/-- Groups arguments into flags with their value: a flag that takes one value is paired with
the argument after it, every other argument stands alone. -/
def pairsOf (c : Checker) : List String → List (String × Option String)
  | [] => []
  | [a] => [(a, none)]
  | a :: b :: rest =>
    if a.startsWith "-" && arityOf c a == 1 then (a, some b) :: pairsOf c rest
    else (a, none) :: pairsOf c (b :: rest)

/-- The options grouped into flags with their value. -/
def pairs (c : Checker) (o : OptionList) : List (String × Option String) := pairsOf c o.items

/-- Whether one of the flags is given. -/
def hasFlag (c : Checker) (o : OptionList) (flags : List String) : Bool :=
  (o.pairs c).any fun (f, _) => flags.contains f

/-- The value of the first occurrence of a flag. -/
def valueOf (c : Checker) (o : OptionList) (flag : String) : Option String :=
  ((o.pairs c).find? fun (f, _) => f == flag).bind (·.2)

/-- The options without the given flags and their values. -/
def withoutValues (c : Checker) (o : OptionList) (flags : List String) : List String :=
  (o.pairs c).flatMap fun (f, v) => if flags.contains f then [] else f :: v.toList

/-- The SHA-256 digest of the options joined with NUL characters. -/
def fingerprint (o : OptionList) : String :=
  Sha256.hexDigestOfText ("\x00".intercalate o.items)

/-- An argument as the option display shows it: in double quotes if it holds a space. -/
def shown (a : String) : String := if a.contains ' ' then "\"" ++ a ++ "\"" else a

/-- The options for display: launcher options (`-J…`) on the first line, then one flag a line
followed by its value. -/
def format (c : Checker) (o : OptionList) : String :=
  let launcher := o.items.filter (·.startsWith "-J")
  let first := if launcher.isEmpty then [] else [" ".intercalate launcher]
  let rest := (o.pairs c).filterMap fun (f, v) =>
    if f.startsWith "-J" then none
    else some (shown f ++ match v with | some v => " " ++ shown v | none => "")
  "\n".intercalate (first ++ rest)

end OptionList

end JavaBuild
