import JavaBuild.Data.Binary64
import JavaBuild.Text.Surrogate

/-!
# JSON values

A JSON value keeps integers apart from binary64 numbers, and an object keeps its members in the
order in which they were first written. `Json.render` writes a value on one line with `", "` and
`": "` between items; `Json.renderIndented` writes one item a line, indented one blank a level,
with the members of every object sorted by name. Both escape every character outside printable
ASCII as `\uXXXX` (two escapes for a character beyond the basic plane, and the escape of its
surrogate for the stand-in of a lone surrogate).
-/

namespace JavaBuild

/-- A JSON value. -/
inductive Json where
  | null
  | bool (b : Bool)
  | int (n : Int)
  | float (x : Binary64)
  | str (s : String)
  | arr (items : List Json)
  | obj (members : List (String × Json))
deriving Inhabited

namespace Json

/-- The member of an object with this name. -/
def get? (j : Json) (name : String) : Option Json :=
  match j with
  | .obj ms => ms.lookup name
  | _ => none

/-- The member of an object with this name, null when there is none. -/
def field (j : Json) (name : String) : Json := (j.get? name).getD .null

/-- The items of an array; none for other values. -/
def items : Json → List Json
  | .arr xs => xs
  | _ => []

/-- The members of an object; none for other values. -/
def members : Json → List (String × Json)
  | .obj ms => ms
  | _ => []

/-- The text of a string value. -/
def str? : Json → Option String
  | .str s => some s
  | _ => none

/-- The texts among the items of an array. -/
def strs (j : Json) : List String := j.items.filterMap str?

/-- A truth value, or a default for other values. -/
def boolD (j : Json) (d : Bool) : Bool :=
  match j with
  | .bool b => b
  | _ => d

/-- The value of an integer. -/
def int? : Json → Option Int
  | .int n => some n
  | _ => none

/-- A text, or null for none. -/
def textOrNull : Option String → Json
  | some s => .str s
  | none => .null

/-- An array of texts. -/
def texts (xs : List String) : Json := .arr (xs.map .str)

/-- An object with one more member, or with the member of this name replaced in place. -/
def setMember (ms : List (String × Json)) (name : String) (v : Json) : List (String × Json) :=
  if ms.any (·.1 == name) then ms.map fun (k, w) => if k == name then (k, v) else (k, w)
  else ms ++ [(name, v)]

/-- The four lower-case hexadecimal digits of a code unit. -/
def hex4 (n : Nat) : String :=
  let d (k : Nat) : Char := if k < 10 then Char.ofNat (48 + k) else Char.ofNat (87 + k)
  String.ofList [d (n / 4096 % 16), d (n / 256 % 16), d (n / 16 % 16), d (n % 16)]

/-- The escaped form of one character inside a string. -/
def escapeChar (c : Char) : String :=
  match c with
  | '"' => "\\\""
  | '\\' => "\\\\"
  | '\n' => "\\n"
  | '\r' => "\\r"
  | '\t' => "\\t"
  | '\x08' => "\\b"
  | '\x0c' => "\\f"
  | c =>
    if c.toNat < 0x20 ∨ c.toNat = 0x7F then "\\u" ++ hex4 c.toNat
    else if c.toNat < 0x7F then String.singleton c
    else if c.toNat < 0x10000 then "\\u" ++ hex4 c.toNat
    else if let some u := Text.standInSurrogate? c then "\\u" ++ hex4 u
    else
      let v := c.toNat - 0x10000
      "\\u" ++ hex4 (0xD800 + v / 1024) ++ "\\u" ++ hex4 (0xDC00 + v % 1024)

/-- A string literal with its quotes. -/
def quote (s : String) : String :=
  "\"" ++ String.join (s.toList.map escapeChar) ++ "\""

/-- The text of a number. -/
def numberText : Binary64 → String
  | .nan => "NaN"
  | .infinity n => if n then "-Infinity" else "Infinity"
  | x => x.text

/-- The text of an integer. -/
def intText (n : Int) : String := if n < 0 then "-" ++ toString n.natAbs else toString n.natAbs

mutual
/-- A value on one line. -/
def render : Json → String
  | .null => "null"
  | .bool b => if b then "true" else "false"
  | .int n => intText n
  | .float x => numberText x
  | .str s => quote s
  | .arr items => "[" ++ renderItems items ++ "]"
  | .obj ms => "\x7b" ++ renderMembers ms ++ "\x7d"

def renderItems : List Json → String
  | [] => ""
  | [x] => render x
  | x :: rest => render x ++ ", " ++ renderItems rest

def renderMembers : List (String × Json) → String
  | [] => ""
  | [(k, v)] => quote k ++ ": " ++ render v
  | (k, v) :: rest => quote k ++ ": " ++ render v ++ ", " ++ renderMembers rest
end

/-- The members of an object sorted by name. -/
def sortMembers (ms : List (String × Json)) : List (String × Json) :=
  ms.mergeSort fun a b => Text.textLe a.1 b.1

mutual
/-- The value with the members of every object sorted by name. -/
def sortKeys : Json → Json
  | .arr items => .arr (sortKeysItems items)
  | .obj ms => .obj (sortMembers (sortKeysMembers ms))
  | j => j

def sortKeysItems : List Json → List Json
  | [] => []
  | x :: rest => sortKeys x :: sortKeysItems rest

def sortKeysMembers : List (String × Json) → List (String × Json)
  | [] => []
  | (k, v) :: rest => (k, sortKeys v) :: sortKeysMembers rest
end

/-- The indentation of a nesting level: one blank a level. -/
def pad (level : Nat) : String := String.ofList (List.replicate level ' ')

mutual
/-- A value written one item a line at nesting `level`. -/
def renderLines (level : Nat) : Json → String
  | .arr [] => "[]"
  | .obj [] => "\x7b\x7d"
  | .arr items => "[\n" ++ itemLines (level + 1) items ++ "\n" ++ pad level ++ "]"
  | .obj ms => "\x7b\n" ++ memberLines (level + 1) ms ++ "\n" ++ pad level ++ "\x7d"
  | j => render j

def itemLines (level : Nat) : List Json → String
  | [] => ""
  | [x] => pad level ++ renderLines level x
  | x :: rest => pad level ++ renderLines level x ++ ",\n" ++ itemLines level rest

def memberLines (level : Nat) : List (String × Json) → String
  | [] => ""
  | [(k, v)] => pad level ++ quote k ++ ": " ++ renderLines level v
  | (k, v) :: rest =>
    pad level ++ quote k ++ ": " ++ renderLines level v ++ ",\n" ++ memberLines level rest
end

/-- A value written one item a line, indented one blank a level, object members sorted. -/
def renderIndented (j : Json) : String := renderLines 0 (sortKeys j)

end Json

end JavaBuild
