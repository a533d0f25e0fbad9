/-!
# UTF-8

Decoding of UTF-8 bytes, strict and lossy. A strict decode stops at the first malformed
sequence and says where it starts and why: a byte that cannot start a sequence, a byte that
cannot continue the sequence begun, or a sequence cut short by the end of the data. A lossy
decode writes U+FFFD for each maximal malformed part and goes on after it.

Well-formed sequences are those of the Unicode standard (table 3-7): no overlong forms, no
surrogates, nothing above U+10FFFF.
-/

namespace JavaBuild.Utf8

/-- Why a byte sequence is not UTF-8. -/
inductive Fault where
  | invalidStart
  | invalidContinuation
  | truncated
deriving DecidableEq, Repr

/-- A malformed sequence: where it starts, where the decoder stopped, and why. -/
structure Malformed where
  start : Nat
  stop : Nat
  fault : Fault
  byte : UInt8
deriving DecidableEq, Repr

/-- The range of the second byte allowed after a leading byte, and the sequence length. -/
def leadInfo (b : Nat) : Option (Nat × Nat × Nat) :=
  if b < 0x80 then some (1, 0, 0)
  else if 0xC2 ≤ b ∧ b ≤ 0xDF then some (2, 0x80, 0xBF)
  else if b = 0xE0 then some (3, 0xA0, 0xBF)
  else if 0xE1 ≤ b ∧ b ≤ 0xEC then some (3, 0x80, 0xBF)
  else if b = 0xED then some (3, 0x80, 0x9F)
  else if 0xEE ≤ b ∧ b ≤ 0xEF then some (3, 0x80, 0xBF)
  else if b = 0xF0 then some (4, 0x90, 0xBF)
  else if 0xF1 ≤ b ∧ b ≤ 0xF3 then some (4, 0x80, 0xBF)
  else if b = 0xF4 then some (4, 0x80, 0x8F)
  else none

/-- One step of decoding at the head of `bs`: a character and the bytes it used, or a fault
with the number of bytes that form the maximal malformed part. -/
def step : List UInt8 → Except (Fault × Nat) (Char × Nat)
  | [] => .error (.truncated, 0)
  | b :: rest =>
    match leadInfo b.toNat with
    | none => .error (.invalidStart, 1)
    | some (1, _, _) => .ok (Char.ofNat b.toNat, 1)
    | some (n, lo, hi) =>
      let lead := b.toNat % Nat.pow 2 (7 - n)
      match rest with
      | [] => .error (.truncated, 1)
      | c1 :: rest1 =>
        if c1.toNat < lo ∨ hi < c1.toNat then .error (.invalidContinuation, 1)
        else
          let v1 := lead * 64 + c1.toNat % 64
          if n = 2 then .ok (Char.ofNat v1, 2)
          else match rest1 with
            | [] => .error (.truncated, 2)
            | c2 :: rest2 =>
              if c2.toNat < 0x80 ∨ 0xBF < c2.toNat then .error (.invalidContinuation, 2)
              else
                let v2 := v1 * 64 + c2.toNat % 64
                if n = 3 then .ok (Char.ofNat v2, 3)
                else match rest2 with
                  | [] => .error (.truncated, 3)
                  | c3 :: _ =>
                    if c3.toNat < 0x80 ∨ 0xBF < c3.toNat then .error (.invalidContinuation, 3)
                    else .ok (Char.ofNat (v2 * 64 + c3.toNat % 64), 4)

/-- Strict decoding from offset `pos`, accumulating the characters in reverse. -/
def decodeFrom (bs : List UInt8) (pos : Nat) (acc : List Char) : Except Malformed (List Char) :=
  match bs with
  | [] => .ok acc.reverse
  | b :: rest =>
    match step (b :: rest) with
    | .ok (c, n) =>
      decodeFrom ((b :: rest).drop (max n 1)) (pos + max n 1) (c :: acc)
    | .error (f, n) =>
      let stop := match f with
        | .truncated => pos + (b :: rest).length
        | .invalidContinuation => pos + max n 1
        | .invalidStart => pos + 1
      .error ⟨pos, stop, f, b⟩
termination_by bs.length
decreasing_by all_goals (simp only [List.length_drop, List.length_cons]; omega)

/-- Decodes UTF-8 bytes, or reports the first malformed sequence. -/
def decode (b : ByteArray) : Except Malformed String :=
  (decodeFrom b.toList 0 []).map String.ofList

/-- Lossy decoding: each maximal malformed part becomes one U+FFFD. -/
def decodeLossyList (bs : List UInt8) (acc : List Char) : List Char :=
  match bs with
  | [] => acc.reverse
  | b :: rest =>
    match step (b :: rest) with
    | .ok (c, n) =>
      decodeLossyList ((b :: rest).drop (max n 1)) (c :: acc)
    | .error (f, n) =>
      if f = .truncated then ('�' :: acc).reverse
      else decodeLossyList ((b :: rest).drop (max n 1)) ('�' :: acc)
termination_by bs.length
decreasing_by all_goals (simp only [List.length_drop, List.length_cons]; omega)

/-- Decodes UTF-8 bytes, replacing malformed parts by U+FFFD. -/
def decodeLossy (b : ByteArray) : String := String.ofList (decodeLossyList b.toList [])

/-- The reason of a fault, as the decoder words it. -/
def Fault.reason : Fault → String
  | .invalidStart => "invalid start byte"
  | .invalidContinuation => "invalid continuation byte"
  | .truncated => "unexpected end of data"

/-- The two lower-case hexadecimal digits of a byte. -/
def byteHex (b : UInt8) : String :=
  let d (n : Nat) : Char := if n < 10 then Char.ofNat (48 + n) else Char.ofNat (87 + n)
  String.ofList [d (b.toNat / 16), d (b.toNat % 16)]

/-- The message of a malformed sequence:
`'utf-8' codec can't decode byte 0xff in position 0: invalid start byte`. -/
def Malformed.message (m : Malformed) : String :=
  if m.stop - m.start > 1 then
    s!"'utf-8' codec can't decode bytes in position {m.start}-{m.stop - 1}: {m.fault.reason}"
  else
    s!"'utf-8' codec can't decode byte 0x{byteHex m.byte} in position {m.start}: {m.fault.reason}"

end JavaBuild.Utf8
