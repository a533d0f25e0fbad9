import JavaBuild.Xml.Token
import JavaBuild.Xml.Token.Prolog

/-!
# Tokens of values, and what tokens stand for

The value of an attribute and the value of an entity are read again, token by token, once
their markup is known to be well-formed: runs of characters, references, blanks and line ends.
In an attribute value `<` is refused; in an entity value `%` must start a parameter entity
reference.

This module also reads what some tokens stand for: the attributes of a start tag (names and the
offsets of their values), the number of a character reference and whether it names a
character, the character of a predefined entity, the length of a name, and whether a literal
may stand as a public identifier.
-/

namespace JavaBuild.Xml

/-- Scans the token of an attribute value at an offset. -/
def attributeValueTok (i : Input) (p : Nat) : Scan :=
  if i.stop ≤ p then .empty
  else if !i.has p then .partialToken
  else go p (i.fuel p)
where
  go (q : Nat) : Nat → Scan
    | 0 => .token .dataChars q
    | fuel + 1 =>
      if !i.has q then .token .dataChars q
      else match i.cls q with
        | .lead2 => go (q + 2) fuel
        | .lead3 => go (q + 3) fuel
        | .lead4 => go (q + 4) fuel
        | .amp => if q == p then scanRef i (q + i.unit) else .token .dataChars q
        | .lt => .invalid q
        | .lf => if q == p then .token .dataNewline (q + i.unit) else .token .dataChars q
        | .cr =>
          if q == p then
            let r := q + i.unit
            if !i.has r then .trailingCr
            else .token .dataNewline (if i.cls r == .lf then r + i.unit else r)
          else .token .dataChars q
        | .space => if q == p then .token .valueSpace (q + i.unit) else .token .dataChars q
        | _ => go (q + i.unit) fuel

/-- Scans the token of an entity value at an offset. -/
def entityValueTok (i : Input) (p : Nat) : Scan :=
  if i.stop ≤ p then .empty
  else if !i.has p then .partialToken
  else go p (i.fuel p)
where
  go (q : Nat) : Nat → Scan
    | 0 => .token .dataChars q
    | fuel + 1 =>
      if !i.has q then .token .dataChars q
      else match i.cls q with
        | .lead2 => go (q + 2) fuel
        | .lead3 => go (q + 3) fuel
        | .lead4 => go (q + 4) fuel
        | .amp => if q == p then scanRef i (q + i.unit) else .token .dataChars q
        | .percent =>
          if q == p then
            match scanPercent i (q + i.unit) with
            | .token .percent r => .invalid r
            | s => s
          else .token .dataChars q
        | .lf => if q == p then .token .dataNewline (q + i.unit) else .token .dataChars q
        | .cr =>
          if q == p then
            let r := q + i.unit
            if !i.has r then .trailingCr
            else .token .dataNewline (if i.cls r == .lf then r + i.unit else r)
          else .token .dataChars q
        | _ => go (q + i.unit) fuel

/-- The offset after the name that starts at an offset (the colon counts as a name
character). -/
def nameEnd (i : Input) (p : Nat) : Nat := go p (i.fuel p)
where
  go (p : Nat) : Nat → Nat
    | 0 => p
    | fuel + 1 =>
      match i.cls p with
      | .lead2 => go (p + 2) fuel
      | .lead3 => go (p + 3) fuel
      | .lead4 => go (p + 4) fuel
      | .nonAscii | .nameStart | .colon | .hex | .digit | .nameChar | .minus =>
        go (p + i.unit) fuel
      | _ => p

/-- An attribute as a start tag gives it: where its name starts, where its value starts and
ends, and whether the value may be taken as it stands (no reference, no line end, no blank but
single spaces between other characters). -/
structure RawAttribute where
  name : Nat
  valueStart : Nat
  valueEnd : Nat
  plain : Bool
deriving Repr, Inhabited

/-- Where an attribute reader is inside a start tag. -/
inductive TagPlace where
  | outside
  | inName
  | inValue (quote : ByteClass)
deriving DecidableEq

/-- The attributes of a well-formed start tag that starts at an offset, in their order. -/
def attributesOf (i : Input) (s : Nat) : List RawAttribute :=
  (go (s + i.unit) .inName default [] (i.fuel s)).reverse
where
  /-- `cur` is the attribute being read. -/
  go (p : Nat) (place : TagPlace) (cur : RawAttribute) (acc : List RawAttribute) :
      Nat → List RawAttribute
    | 0 => acc
    | fuel + 1 =>
      let startName (n : Nat) : List RawAttribute :=
        if place == .outside then
          go (p + n) .inName { cur with name := p, plain := true } acc fuel
        else go (p + n) place cur acc fuel
      match i.cls p with
      | .lead2 => startName 2
      | .lead3 => startName 3
      | .lead4 => startName 4
      | .nonAscii | .nameStart | .hex => startName i.unit
      | .quot | .apos =>
        let q := i.cls p
        match place with
        | .inValue open_ =>
          if open_ == q then
            go (p + i.unit) .outside default ({ cur with valueEnd := p } :: acc) fuel
          else go (p + i.unit) place cur acc fuel
        | _ => go (p + i.unit) (.inValue q) { cur with valueStart := p + i.unit } acc fuel
      | .amp => go (p + i.unit) place { cur with plain := false } acc fuel
      | .space =>
        match place with
        | .inName => go (p + i.unit) .outside cur acc fuel
        | .inValue open_ =>
          let single := p != cur.valueStart && i.isChar p ' ' &&
            !i.isChar (p + i.unit) ' ' && i.cls (p + i.unit) != open_
          go (p + i.unit) place (if single then cur else { cur with plain := false }) acc fuel
        | .outside => go (p + i.unit) place cur acc fuel
      | .cr | .lf =>
        match place with
        | .inName => go (p + i.unit) .outside cur acc fuel
        | .inValue _ => go (p + i.unit) place { cur with plain := false } acc fuel
        | .outside => go (p + i.unit) place cur acc fuel
      | .gt | .sol =>
        match place with
        | .inValue _ => go (p + i.unit) place cur acc fuel
        | _ => acc
      | _ => go (p + i.unit) place cur acc fuel

/-- The number of a character reference that starts at an offset with `&#`, if it names a
character: not 0, not a control character other than tab, line feed and carriage return, not
a surrogate, U+FFFE or U+FFFF, and below 0x110000. -/
def charRefNumber (i : Input) (s : Nat) : Option Nat :=
  let p := s + 2 * i.unit
  let hex := i.isChar p 'x'
  let start := if hex then p + i.unit else p
  let digits := go start (i.fuel start)
  let base := if hex then 16 else 10
  let step (acc : Option Nat) (d : Nat) : Option Nat :=
    acc.bind fun v => if v * base + d ≥ 0x110000 then none else some (v * base + d)
  let value? := digits.foldl step (some 0)
  value?.bind fun n =>
    if 0xD800 ≤ n && n ≤ 0xDFFF then none
    else if n == 0xFFFE || n == 0xFFFF then none
    else if n < 0x80 && ByteClass.ofAscii n == .nonXml then none
    else some n
where
  go (p : Nat) : Nat → List Nat
    | 0 => []
    | fuel + 1 =>
      match i.enc.asciiAt i.bytes p with
      | some c =>
        if c == 0x3B then []
        else
          let d := if c ≤ 0x39 then c - 0x30 else if c ≤ 0x46 then c - 0x37 else c - 0x57
          d :: go (p + i.unit) fuel
      | none => []

/-- The character that a predefined entity name from `p` to `q` stands for. -/
def predefinedEntity (i : Input) (p q : Nat) : Option Char :=
  match i.text p q with
  | "lt" => some '<'
  | "gt" => some '>'
  | "amp" => some '&'
  | "quot" => some '"'
  | "apos" => some '\''
  | _ => none

/-- The first character of a literal from `s` to `q` (quotes included) that may not stand in a
public identifier: letters, digits, blanks other than tab, line ends and
`-'()+,./:=?;!*#@$_%` may. -/
def publicIdFault (i : Input) (s q : Nat) : Option Nat :=
  go (s + i.unit) (i.fuel s)
where
  go (p : Nat) : Nat → Option Nat
    | 0 => none
    | fuel + 1 =>
      if q < p + 2 * i.unit then none
      else
        let ascii := i.enc.asciiAt i.bytes p
        let dollarOrAt := ascii == some 0x24 || ascii == some 0x40
        let fine := match i.cls p with
          | .digit | .hex | .minus | .apos | .lpar | .rpar | .plus | .comma | .sol | .equals
          | .quest | .cr | .lf | .semi | .excl | .ast | .percent | .num | .colon => true
          | .space => !i.isChar p '\t'
          | .nameChar | .nameStart =>
            (match ascii with
              | some c => c < 0x80
              | none => false) || dollarOrAt
          | _ => dollarOrAt
        if fine then go (p + i.unit) fuel else some p

end JavaBuild.Xml
