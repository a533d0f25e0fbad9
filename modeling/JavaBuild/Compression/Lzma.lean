/-!
# LZMA streams: decoding

`Lzma.decompress` decodes an LZMA stream as zip archives store it (method 14): two bytes of
version, two bytes giving the size of the properties, the properties, and the range-coded data.
The five bytes of properties pack the literal context bits `lc`, the literal position bits
`lp` and the position bits `pb` into one byte `(pb * 5 + lp) * 9 + lc` below 225 with
`lc + lp ≤ 4`, followed by the dictionary size.

The data is read symbol by symbol: a literal byte, a match that copies bytes from a distance
back, or a repeated match at one of the last four distances. Every probability starts at one
half (1024 of 2048) and moves by a 32nd of the way after each bit. Decoding stops at the end
marker (a match at distance `2^32 - 1`, after which the range coder must read as finished),
where the data runs out (no fault: the output is what was decoded), or at corrupt data: a first
byte other than 0, a distance at or beyond the bytes decoded so far (and the dictionary), or a
repeated match before any byte.
-/

namespace JavaBuild.Lzma

/-- The properties of a stream. -/
structure Properties where
  lc : Nat
  lp : Nat
  pb : Nat
  dictSize : Nat

/-- Reads the five property bytes; none when they are not five or out of range. -/
def Properties.read? (b : ByteArray) : Option Properties :=
  if b.size != 5 then none
  else
    let d := (b[0]?.getD 0).toNat
    let byte (i : Nat) : Nat := (b[i]?.getD 0).toNat
    let dictSize := byte 1 + 256 * byte 2 + 65536 * byte 3 + 16777216 * byte 4
    let (pb, lp, lc) := (d / 45, d % 45 / 9, d % 9)
    if d > 224 || lc + lp > 4 then none else some ⟨lc, lp, pb, dictSize⟩

/-- The first index of each group of probabilities. -/
def isMatchAt : Nat := 0
def isRepAt : Nat := 192
def isRepG0At : Nat := 204
def isRepG1At : Nat := 216
def isRepG2At : Nat := 228
def isRep0LongAt : Nat := 240
def distSlotAt : Nat := 432
def distSpecialAt : Nat := 688
def alignAt : Nat := 803
def matchLenAt : Nat := 819
def repLenAt : Nat := 1333
def literalAt : Nat := 1847

/-- Why decoding stopped. -/
inductive Stop where
  | finished
  | starved
  | corrupt

/-- The state of decoding. -/
structure Decoder where
  props : Properties
  input : ByteArray
  pos : Nat
  range : UInt32 := 0xFFFFFFFF
  code : UInt32
  probs : Array Nat
  out : ByteArray := ByteArray.empty
  state : Nat := 0
  rep0 : UInt32 := 0
  rep1 : UInt32 := 0
  rep2 : UInt32 := 0
  rep3 : UInt32 := 0

/-- Decoding that may stop. -/
abbrev DecodeM := StateT Decoder (Except Stop)

/-- Reads one more byte into the coder when its range has fallen below `2^24`. -/
def normalize : DecodeM Unit := do
  let d ← get
  if d.range < 0x1000000 then
    match d.input[d.pos]? with
    | none => throw .starved
    | some b =>
      set { d with range := d.range <<< (8 : UInt32), code := (d.code <<< (8 : UInt32)) ||| b.toUInt32,
                   pos := d.pos + 1 }

/-- Decodes one bit with the probability at an index, and adapts it. -/
def bit (i : Nat) : DecodeM Nat := do
  normalize
  modifyGet fun d =>
    let p : Nat := d.probs.getD i 1024
    let bound : UInt32 := (d.range >>> (11 : UInt32)) * p.toUInt32
    if d.code < bound then
      (0, { d with range := bound, probs := d.probs.setIfInBounds i (p + (2048 - p) / 32) })
    else
      (1, { d with range := d.range - bound, code := d.code - bound,
                   probs := d.probs.setIfInBounds i (p - p / 32) })

/-- Decodes `n` bits with equal probabilities, the first the most significant. -/
def direct (n : Nat) (acc : UInt32) : DecodeM UInt32 := do
  let mut v := acc
  for _ in [0:n] do
    normalize
    v ← modifyGet fun d =>
      let range : UInt32 := d.range >>> (1 : UInt32)
      let code : UInt32 := d.code - range
      let t : UInt32 := 0 - (code >>> (31 : UInt32))
      ((v <<< (1 : UInt32)) + (t + 1), { d with range, code := code + (range &&& t) })
  return v

/-- Decodes `n` bits along a binary tree of probabilities at `base`, the first bit the most
significant. -/
def tree (base n : Nat) : DecodeM Nat := do
  let mut m := 1
  for _ in [0:n] do
    m := 2 * m + (← bit (base + m))
  return m - Nat.pow 2 n

/-- Decodes `n` bits along a binary tree of probabilities at `base`, the first bit the least
significant. -/
def reverseTree (base n : Nat) : DecodeM Nat := do
  let mut m := 1
  let mut sym := 0
  for i in [0:n] do
    let b ← bit (base + m)
    m := 2 * m + b
    sym := sym + b * Nat.pow 2 i
  return sym

/-- Decodes a match length (from 2) with the length coder at `base`. -/
def length (base posState : Nat) : DecodeM Nat := do
  if (← bit base) == 0 then return 2 + (← tree (base + 2 + posState * 8) 3)
  if (← bit (base + 1)) == 0 then return 10 + (← tree (base + 130 + posState * 8) 3)
  return 18 + (← tree (base + 258) 8)

/-- Decodes the distance of a match of length `len`. -/
def distance (len : Nat) : DecodeM UInt32 := do
  let slot ← tree (distSlotAt + min (len - 2) 3 * 64) 6
  if slot < 4 then return slot.toUInt32
  let bits := slot / 2 - 1
  let base := (2 + slot % 2) * Nat.pow 2 bits
  if slot < 14 then
    return (base + (← reverseTree (distSpecialAt + base - slot) bits)).toUInt32
  let high ← direct (bits - 4) 0
  let low ← reverseTree alignAt 4
  return base.toUInt32 + (high <<< (4 : UInt32)) + low.toUInt32

/-- The number of bytes that a distance may reach back: those decoded, at most the
dictionary. -/
def Decoder.reach (d : Decoder) : Nat :=
  min d.out.size (max 4096 ((d.props.dictSize + 15) / 16 * 16))

/-- The byte `dist + 1` places back in the output. -/
def Decoder.back (d : Decoder) (dist : UInt32) : UInt8 :=
  d.out[d.out.size - dist.toNat - 1]?.getD 0

/-- Appends `len` bytes copied from `dist + 1` places back. -/
def Decoder.copy (d : Decoder) (dist : UInt32) (len : Nat) : Decoder :=
  let start := d.out.size - dist.toNat - 1
  { d with out := (List.range len).foldl (fun o i => o.push (o[start + i]?.getD 0)) d.out }

/-- Decodes a literal byte, with the byte at the last distance to match after a match. -/
def literal : DecodeM Unit := do
  let d ← get
  let p := d.props
  let prev := (d.out[d.out.size - 1]?.getD 0).toNat
  let ctx := (d.out.size % Nat.pow 2 p.lp) * Nat.pow 2 p.lc + prev / Nat.pow 2 (8 - p.lc)
  let base := literalAt + 0x300 * ctx
  let mut sym := 1
  if d.state ≥ 7 then
    let mut matchByte := (d.back d.rep0).toNat
    let mut same := true
    for _ in [0:8] do
      if same then
        let matchBit := matchByte / 128 % 2
        matchByte := matchByte * 2
        let b ← bit (base + (1 + matchBit) * 256 + sym)
        sym := 2 * sym + b
        same := matchBit == b
      else
        sym := 2 * sym + (← bit (base + sym))
  else
    for _ in [0:8] do
      sym := 2 * sym + (← bit (base + sym))
  let byte := (sym - 256).toUInt8
  modify fun d =>
    let state := if d.state < 4 then 0 else if d.state < 10 then d.state - 3 else d.state - 6
    { d with out := d.out.push byte, state }

/-- Decodes one symbol: a literal, a match or a repeated match. -/
def symbol : DecodeM Unit := do
  let d ← get
  let posState := d.out.size % Nat.pow 2 d.props.pb
  let st := d.state
  if (← bit (isMatchAt + st * 16 + posState)) == 0 then literal
  else if (← bit (isRepAt + st)) == 0 then
    let len ← length matchLenAt posState
    let dist ← distance len
    if dist == 0xFFFFFFFF then
      normalize
      if (← get).code == 0 then throw .finished else throw .corrupt
    let d ← get
    if dist.toNat ≥ d.reach then throw .corrupt
    set ({ d with state := if st < 7 then 7 else 10, rep0 := dist, rep1 := d.rep0,
                  rep2 := d.rep1, rep3 := d.rep2 }.copy dist len)
  else
    if (← get).out.size == 0 then throw .corrupt
    let mut short := false
    if (← bit (isRepG0At + st)) == 0 then
      short := (← bit (isRep0LongAt + st * 16 + posState)) == 0
    else if (← bit (isRepG1At + st)) == 0 then
      modify fun d => { d with rep0 := d.rep1, rep1 := d.rep0 }
    else if (← bit (isRepG2At + st)) == 0 then
      modify fun d => { d with rep0 := d.rep2, rep1 := d.rep0, rep2 := d.rep1 }
    else
      modify fun d => { d with rep0 := d.rep3, rep1 := d.rep0, rep2 := d.rep1, rep3 := d.rep2 }
    if short then
      modify fun d => { d with state := if st < 7 then 9 else 11, out := d.out.push (d.back d.rep0) }
    else
      let len ← length repLenAt posState
      modify fun d => ({ d with state := if st < 7 then 8 else 11 } : Decoder).copy d.rep0 len

/-- Decodes symbols until decoding stops; the output is that of the symbols decoded whole. -/
def Decoder.run (d : Decoder) : Nat → ByteArray × Stop
  | 0 => (d.out, .starved)
  | fuel + 1 =>
    match symbol.run d with
    | .ok ((), d') => d'.run fuel
    | .error .finished =>
      -- the end marker adds nothing, so the output is that before it
      (d.out, .finished)
    | .error stop => (d.out, stop)

/-- Starts decoding range-coded data: the first of its five opening bytes must be 0. -/
def start (props : Properties) (data : ByteArray) : Option Stop ⊕ Decoder :=
  if data.size ≥ 1 && data[0]? != some 0 then .inl (some .corrupt)
  else if data.size < 5 then .inl none
  else
    let code := (data.extract 1 5).toList.foldl (fun (c : UInt32) b => (c <<< (8 : UInt32)) ||| b.toUInt32) 0
    .inr { props, input := data, pos := 5, code,
           probs := Array.replicate (literalAt + 0x300 * Nat.pow 2 (props.lc + props.lp)) 1024 }

/-- Decodes the data of a zip entry stored with LZMA: the output and whether the end marker was
read; or the fault, as `Invalid or unsupported options` for bad properties and `Corrupt input
data` for bad data. Data that ends before the properties and one more byte decodes to
nothing. -/
def decompress (data : ByteArray) : Except String (ByteArray × Bool) :=
  if data.size ≤ 4 then .ok (ByteArray.empty, false)
  else
    let psize := (data[2]?.getD 0).toNat + 256 * (data[3]?.getD 0).toNat
    if data.size ≤ 4 + psize then .ok (ByteArray.empty, false)
    else
      match Properties.read? (data.extract 4 (4 + psize)) with
      | none => .error "Invalid or unsupported options"
      | some props =>
        let body := data.extract (4 + psize) data.size
        match start props body with
        | .inl (some _) => .error "Corrupt input data"
        | .inl none => .ok (ByteArray.empty, false)
        | .inr d =>
          match d.run (512 * (body.size + 8)) with
          | (out, .finished) => .ok (out, true)
          | (out, .starved) => .ok (out, false)
          | (_, .corrupt) => .error "Corrupt input data"

end JavaBuild.Lzma
