/-!
# DEFLATE streams: decoding

`Inflate.decompress` decodes a raw DEFLATE stream (RFC 1951): blocks that are stored, coded
with the fixed Huffman codes, or coded with codes that the block describes. Decoding goes
symbol by symbol and stops

- at the end of the last block (the stream is finished);
- where the data runs out in the middle of a symbol or a block header (the stream is cut
  short, which is no fault: what was decoded so far is the output);
- at the first fault, which is reported as the reference decoder words it.

The faults, in the order in which a block meets them: a block type 3 (`invalid block type`); a
stored block whose length and its complement disagree (`invalid stored block lengths`); more
than 286 length or 30 distance codes (`too many length or distance symbols`); code lengths that
do not form a complete prefix code (`invalid code lengths set`); a repeat with nothing to repeat
or beyond the last length (`invalid bit length repeat`); no code for the end of the block
(`invalid code -- missing end-of-block`); length or distance codes that are over-subscribed, or
incomplete with more than one bit (`invalid literal/lengths set`, `invalid distances set`); and
while decoding, a code that names no symbol (`invalid literal/length code`, `invalid distance
code`) or a distance beyond the start of the output (`invalid distance too far back`).
-/

namespace JavaBuild.Inflate

/-- A position in some bytes, counted in bits; the bits of a byte are read from its least
significant one up. -/
structure BitReader where
  data : ByteArray
  pos : Nat := 0

namespace BitReader

/-- The number of bits not yet read. -/
def remaining (r : BitReader) : Nat := r.data.size * 8 - r.pos

/-- The bit at a position. -/
def bitAt (r : BitReader) (i : Nat) : Nat :=
  ((r.data[i / 8]?.getD 0).toNat >>> (i % 8)) % 2

/-- Reads `n` bits as a number, the first bit read being the least significant, or none when
fewer are left. -/
def read (r : BitReader) (n : Nat) : Option (Nat × BitReader) :=
  if r.remaining < n then none
  else
    let v := (List.range n).foldl (fun acc k => acc + r.bitAt (r.pos + k) * Nat.pow 2 k) 0
    some (v, { r with pos := r.pos + n })

/-- Skips to the next byte boundary. -/
def align (r : BitReader) : BitReader := { r with pos := (r.pos + 7) / 8 * 8 }

end BitReader

/-- A canonical prefix code given by the code length of each symbol (0 for an unused one): how
many codes each length has, and the symbols in the order of their codes. -/
structure Code where
  counts : Array Nat
  symbols : Array Nat
  longest : Nat

/-- The canonical code of some code lengths (each at most 15). -/
def Code.ofLengths (lens : Array Nat) : Code :=
  let counts := (List.range 16).map fun l => (lens.toList.filter (· == l)).length
  let symbols := ((List.range 15).map (· + 1)).flatMap fun l =>
    (List.range lens.size).filter fun s => lens[s]?.getD 0 == l
  let longest := ((List.range 16).filter fun l => l > 0 && counts.getD l 0 > 0).foldl max 0
  { counts := counts.toArray, symbols := symbols.toArray, longest }

/-- Whether a code can be used: no length is over-subscribed, and the code is complete, except
that a code of a single one-bit code may leave the other code unused when `single` allows it;
a code without symbols passes (it fails when a symbol is read). -/
def Code.usable (c : Code) (single : Bool) : Bool :=
  if c.longest == 0 then true
  else
    let step (acc : Int × Bool) (l : Nat) : Int × Bool :=
      let left := acc.1 * 2 - c.counts.getD l 0
      (left, acc.2 || left < 0)
    let (left, oversubscribed) := ((List.range 15).map (· + 1)).foldl step (1, false)
    !oversubscribed && (left == 0 || (single && c.longest == 1))

/-- What reading a symbol gives. -/
inductive Decoded where
  | symbol (s : Nat) (r : BitReader)
  | invalid
  | starved

/-- Reads the code of a symbol bit by bit: `len` bits read so far, `code` their value, `first`
the first code of that length and `index` the place of its symbol. -/
def Code.decodeFrom (c : Code) (r : BitReader) (len code first index : Nat) : Nat → Decoded
  | 0 => .invalid
  | fuel + 1 =>
    match r.read 1 with
    | none => .starved
    | some (b, r) =>
      let code := code + b
      let count := c.counts.getD (len + 1) 0
      if code < first + count then .symbol (c.symbols.getD (index + code - first) 0) r
      else c.decodeFrom r (len + 1) ((code) * 2) ((first + count) * 2) (index + count) fuel

/-- Reads one symbol; a code without symbols reads one bit and gives `empty`, or fails when
there is none. -/
def Code.decode (c : Code) (r : BitReader) (empty : Option Nat) : Decoded :=
  if c.longest == 0 then
    match r.read 1, empty with
    | none, _ => .starved
    | some (_, r), some s => .symbol s r
    | some _, none => .invalid
  else c.decodeFrom r 0 0 0 0 c.longest

/-- Why decoding stopped. -/
inductive Stop where
  | finished
  | starved
  | failed (reason : String)

/-- The base length of each length symbol from 257 on, and its extra bits. -/
def lengthBase : Array Nat := #[3, 4, 5, 6, 7, 8, 9, 10, 11, 13, 15, 17, 19, 23, 27, 31, 35, 43,
  51, 59, 67, 83, 99, 115, 131, 163, 195, 227, 258]
def lengthExtra : Array Nat := #[0, 0, 0, 0, 0, 0, 0, 0, 1, 1, 1, 1, 2, 2, 2, 2, 3, 3, 3, 3, 4, 4,
  4, 4, 5, 5, 5, 5, 0]

/-- The base distance of each distance symbol, and its extra bits. -/
def distanceBase : Array Nat := #[1, 2, 3, 4, 5, 7, 9, 13, 17, 25, 33, 49, 65, 97, 129, 193, 257,
  385, 513, 769, 1025, 1537, 2049, 3073, 4097, 6145, 8193, 12289, 16385, 24577]
def distanceExtra : Array Nat := #[0, 0, 0, 0, 1, 1, 2, 2, 3, 3, 4, 4, 5, 5, 6, 6, 7, 7, 8, 8, 9,
  9, 10, 10, 11, 11, 12, 12, 13, 13]

/-- The order in which a block gives the lengths of the code-length code. -/
def lengthOrder : List Nat := [16, 17, 18, 0, 8, 7, 9, 6, 10, 5, 11, 4, 12, 3, 13, 2, 14, 1, 15]

/-- The fixed literal/length code and distance code. -/
def fixedLiterals : Code :=
  Code.ofLengths ((List.range 288).map fun s =>
    if s < 144 then 8 else if s < 256 then 9 else if s < 280 then 7 else 8).toArray
def fixedDistances : Code := Code.ofLengths (Array.replicate 32 5)

/-- A step of reading that may stop. -/
abbrev Read := Except Stop

/-- Reads `n` bits, or stops when they are not there. -/
def take (r : BitReader) (n : Nat) : Read (Nat × BitReader) :=
  match r.read n with
  | some p => .ok p
  | none => .error .starved

/-- Reads the code lengths of the literal/length and distance codes, `total` in all, with the
code-length code; `lens` holds those read so far. -/
def readLengths (cl : Code) (total : Nat) (lens : Array Nat) (r : BitReader) :
    Nat → Read (Array Nat × BitReader)
  | 0 => .ok (lens, r)
  | fuel + 1 =>
    if lens.size ≥ total then .ok (lens, r)
    else
      match cl.decode r (some 0) with
      | .starved => .error .starved
      | .invalid => .error .starved
      | .symbol s r =>
        if s < 16 then readLengths cl total (lens.push s) r fuel
        else do
          let (extraBits, base) := if s == 16 then (2, 3) else if s == 17 then (3, 3) else (7, 11)
          let (extra, r) ← take r extraBits
          let repeated ← if s == 16 then
              match lens.back? with
              | some l => pure l
              | none => throw (.failed "invalid bit length repeat")
            else pure 0
          let count := base + extra
          if lens.size + count > total then throw (.failed "invalid bit length repeat")
          readLengths cl total (lens ++ Array.replicate count repeated) r fuel

/-- Reads the codes that a dynamic block describes. -/
def readCodes (r : BitReader) : Read (Code × Code × BitReader) := do
  let (hlit, r) ← take r 5
  let (hdist, r) ← take r 5
  let (hclen, r) ← take r 4
  let (nlen, ndist, ncode) := (hlit + 257, hdist + 1, hclen + 4)
  if nlen > 286 || ndist > 30 then throw (.failed "too many length or distance symbols")
  let (given, r) ← (lengthOrder.take ncode).foldlM (fun (acc : List (Nat × Nat) × BitReader) sym => do
      let (l, r) ← take acc.2 3
      pure (acc.1 ++ [(sym, l)], r)) ([], r)
  let clLens := (List.range 19).map fun s => ((given.find? (·.1 == s)).map (·.2)).getD 0
  let cl := Code.ofLengths clLens.toArray
  if !cl.usable false then throw (.failed "invalid code lengths set")
  let (lens, r) ← readLengths cl (nlen + ndist) #[] r (nlen + ndist + 1)
  if lens.getD 256 0 == 0 then throw (.failed "invalid code -- missing end-of-block")
  let lit := Code.ofLengths (lens.extract 0 nlen)
  if !lit.usable true then throw (.failed "invalid literal/lengths set")
  let dist := Code.ofLengths (lens.extract nlen (nlen + ndist))
  if !dist.usable true then throw (.failed "invalid distances set")
  return (lit, dist, r)

/-- Appends `len` bytes copied from `dist` bytes back, one by one, so that a copy may overlap
what it writes. -/
def copyBack (out : ByteArray) (dist len : Nat) : ByteArray :=
  let start := out.size - dist
  (List.range len).foldl (fun o i => o.push (o[start + i]?.getD 0)) out

/-- Where decoding is: before a block header, inside a stored block with bytes left, or inside a
block coded with the given codes. -/
inductive Mode where
  | header
  | stored (left : Nat)
  | coded (lit dist : Code)

/-- The state of decoding: the input, the output, whether the block read is the last, and
where decoding is. -/
structure State where
  input : BitReader
  out : ByteArray := ByteArray.empty
  last : Bool := false
  mode : Mode := .header

/-- One step: a block header, part of a stored block, or one symbol of a coded block. Each step
reads at least one bit. -/
def State.step (st : State) : Except Stop State :=
  let r := st.input
  match st.mode with
  | .header =>
    if st.last then .error .finished
    else do
      let (last, r) ← take r 1
      let (kind, r) ← take r 2
      let st := { st with last := last == 1 }
      if kind == 0 then
        let r := r.align
        let (len, r) ← take r 16
        let (nlen, r) ← take r 16
        if len != 65535 - nlen then throw (.failed "invalid stored block lengths")
        return { st with input := r, mode := if len == 0 then .header else .stored len }
      else if kind == 1 then return { st with input := r, mode := .coded fixedLiterals fixedDistances }
      else if kind == 2 then
        let (lit, dist, r) ← readCodes r
        return { st with input := r, mode := .coded lit dist }
      else throw (.failed "invalid block type")
  | .stored left =>
    let available := r.remaining / 8
    if available == 0 then .error .starved
    else
      let n := min left available
      let start := r.pos / 8
      let out := st.out ++ r.data.extract start (start + n)
      .ok { st with input := { r with pos := r.pos + 8 * n }, out,
                    mode := if n == left then .header else .stored (left - n) }
  | .coded lit dist =>
    match lit.decode r none with
    | .starved => .error .starved
    | .invalid => .error (.failed "invalid literal/length code")
    | .symbol s r =>
      if s < 256 then .ok { st with input := r, out := st.out.push s.toUInt8 }
      else if s == 256 then .ok { st with input := r, mode := .header }
      else if s ≥ 286 then .error (.failed "invalid literal/length code")
      else do
        let i := s - 257
        let (extra, r) ← take r (lengthExtra.getD i 0)
        let len := lengthBase.getD i 0 + extra
        match dist.decode r none with
        | .starved => throw .starved
        | .invalid => throw (.failed "invalid distance code")
        | .symbol d r =>
          if d ≥ 30 then throw (.failed "invalid distance code")
          let (dextra, r) ← take r (distanceExtra.getD d 0)
          let distance := distanceBase.getD d 0 + dextra
          if distance > st.out.size then throw (.failed "invalid distance too far back")
          return { st with input := r, out := copyBack st.out distance len }

/-- Runs steps until decoding stops. -/
def State.run (st : State) : Nat → ByteArray × Stop
  | 0 => (st.out, .starved)
  | fuel + 1 =>
    match st.step with
    | .ok st' => st'.run fuel
    | .error stop => (st.out, stop)

/-- Decodes a raw DEFLATE stream: the output, and whether the last block ended; or the fault,
worded as `Error -3 while decompressing data: <reason>`. -/
def decompress (data : ByteArray) : Except String (ByteArray × Bool) :=
  match ({ input := { data } } : State).run (data.size * 8 + 2) with
  | (out, .finished) => .ok (out, true)
  | (out, .starved) => .ok (out, false)
  | (_, .failed reason) => .error ("Error -3 while decompressing data: " ++ reason)

end JavaBuild.Inflate
