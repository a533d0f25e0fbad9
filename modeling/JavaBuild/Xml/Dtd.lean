import JavaBuild.Xml.Token.Value
import JavaBuild.Xml.Fault

/-!
# What the document type declaration says

Of the internal subset, reading keeps what changes how the content reads:

- the attribute lists: for each element name, its declared attributes in order, with the
  default value of each (none for `#IMPLIED` and `#REQUIRED`) and whether its type is `CDATA`.
  An attribute declared again with a default value, or as an `ID`, keeps its first
  declaration;
- which attribute names some declaration gives another type than `CDATA`: the values of such
  an attribute, where its element declares it so, have their blanks collapsed;
- whether the document stands alone, whether a parameter entity or an external subset is used,
  and whether declarations are still taken into account (not after a parameter entity
  reference in a document that does not stand alone).

An undefined entity reference is an error where no external subset or parameter entity could
have declared it, or where the document stands alone (`Dtd.checksEntities`).

Attribute values are normalized as they are read (`attributeValue`): references are replaced,
each blank and line end becomes a space, and in a value whose type is not `CDATA` spaces at the
ends are dropped and runs of them become one.
-/

namespace JavaBuild.Xml

/-- A declared attribute of an element. -/
structure DefaultAttribute where
  name : String
  value : Option String
  cdata : Bool
deriving Repr, Inhabited

/-- What the internal subset says that reading the content needs. -/
structure Dtd where
  standalone : Bool := false
  paramEntityRefs : Bool := false
  keepProcessing : Bool := true
  attributeLists : List (String × Array DefaultAttribute) := []
  tokenized : List String := []
deriving Repr, Inhabited

namespace Dtd

/-- The declared attributes of an element. -/
def defaultsOf (d : Dtd) (element : String) : Array DefaultAttribute :=
  (d.attributeLists.lookup element).getD #[]

/-- Declares an attribute of an element. -/
def define (d : Dtd) (element : String) (att : DefaultAttribute) (isId : Bool) : Dtd :=
  let list := d.defaultsOf element
  if (att.value.isSome || isId) && list.any (·.name == att.name) then d
  else
    let lists := (element, list.push att) :: d.attributeLists.filter (·.1 != element)
    { d with
      attributeLists := lists
      tokenized := if att.cdata then d.tokenized else att.name :: d.tokenized }

/-- Whether the value of an attribute of an element keeps its blanks. -/
def isCdata (d : Dtd) (element name : String) : Bool :=
  if d.tokenized.contains name then
    match (d.defaultsOf element).find? (·.name == name) with
    | some a => a.cdata
    | none => true
  else true

/-- Whether a reference to an undeclared entity is an error. -/
def checksEntities (d : Dtd) : Bool := !d.paramEntityRefs || d.standalone

end Dtd

/-- What is wrong with an attribute value. -/
inductive ValueFault where
  | invalid (pos : Nat)
  | badCharRef (pos : Nat)
  | undefinedEntity
deriving Repr

/-- The normalized value of the characters from `p` to the end of the input; a reference to an
undeclared entity is an error when `checks` holds and is dropped otherwise. -/
def attributeValue (i : Input) (cdata checks : Bool) (p : Nat) : Except ValueFault String :=
  go p [] (i.fuel p)
where
  /-- `acc` holds the characters so far, the last first. -/
  space (acc : List Char) : List Char :=
    if !cdata && (acc.isEmpty || acc.head? == some ' ') then acc else ' ' :: acc
  go (p : Nat) (acc : List Char) : Nat → Except ValueFault String
    | 0 => .ok (String.ofList acc.reverse)
    | fuel + 1 =>
      match attributeValueTok i p with
      | .empty =>
        let acc := if !cdata && acc.head? == some ' ' then acc.tail else acc
        .ok (String.ofList acc.reverse)
      | .invalid r => .error (.invalid r)
      | .token .charRef q =>
        match charRefNumber i p with
        | none => .error (.badCharRef p)
        | some n =>
          if !cdata && n == 0x20 && (acc.isEmpty || acc.head? == some ' ') then go q acc fuel
          else go q (Char.ofNat n :: acc) fuel
      | .token .dataChars q => go q ((i.text p q).toList.reverse ++ acc) fuel
      | .trailingCr => go (p + i.unit) (space acc) fuel
      | .token .valueSpace q | .token .dataNewline q => go q (space acc) fuel
      | .token .entityRef q =>
        match predefinedEntity i (p + i.unit) (q - i.unit) with
        | some c => go q (c :: acc) fuel
        | none => if checks then .error .undefinedEntity else go q acc fuel
      | _ => .error (.invalid p)

/-- The first fault of an entity value from `p` to the end of the input: a parameter entity
reference, a character reference to no character, or a malformed reference. -/
def entityValueFault (i : Input) (p : Nat) : Option (Problem × Nat) := go p (i.fuel p)
where
  go (p : Nat) : Nat → Option (Problem × Nat)
    | 0 => none
    | fuel + 1 =>
      match entityValueTok i p with
      | .empty => none
      | .token .paramEntityRef _ => some (.paramEntityRef, p)
      | .token .charRef q =>
        if (charRefNumber i p).isNone then some (.badCharRef, p) else go q fuel
      | .token _ q => go q fuel
      | .trailingCr => go (p + i.unit) fuel
      | .invalid r => some (.invalidToken, r)
      | _ => some (.invalidToken, p)

/-- A public identifier with each run of spaces and line ends made one space, and none at its
ends. -/
def normalizePublicId (s : String) : String :=
  let step (acc : List Char) (c : Char) : List Char :=
    if c == ' ' || c == '\r' || c == '\n' then
      if acc.isEmpty || acc.head? == some ' ' then acc else ' ' :: acc
    else c :: acc
  let acc := s.toList.foldl step []
  String.ofList (if acc.head? == some ' ' then acc.tail else acc).reverse

end JavaBuild.Xml
