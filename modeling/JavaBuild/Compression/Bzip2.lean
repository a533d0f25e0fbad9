/-!
# bzip2 streams: decoding

`Bzip2.decompress` decodes a bzip2 stream: the header `BZh` with the block size (1 to 9 times
100000 bytes), blocks that each start with the 48-bit mark `0x314159265359`, and the end mark
`0x177245385090` with the combined check value. The bits are read from the most significant bit
of each byte down.

A block holds its check value, whether it is randomised, the origin of its Burrows–Wheeler
transform, the bytes it uses, two to six prefix codes with the code chosen for each group of
50 symbols, and the move-to-front coded symbols with runs of the first symbol written in the
bijective base-2 digits `RUNA`, `RUNB`. Decoding a block undoes the codes, the move-to-front
step, the transform, and then the runs of four equal bytes followed by a count.

A block is output only when it was read whole and its check value agrees; where the data runs
out the output is that of the blocks before (no fault). Everything that does not follow the
format is corrupt data, including a block whose check value disagrees and a stream whose
combined value does. A randomised block has the lowest bit of some of its bytes flipped
before the runs are undone, at places a fixed table of numbers gives.
-/

namespace JavaBuild.Bzip2

/-- A position in some bytes, counted in bits; the bits of a byte are read from its most
significant one down. -/
structure BitReader where
  data : ByteArray
  pos : Nat := 0

/-- Why decoding stopped. -/
inductive Stop where
  | starved
  | corrupt

/-- Reading that may stop. -/
abbrev ReadM := StateT BitReader (Except Stop)

/-- Reads `n` bits as a number, the first bit read being the most significant. -/
def bits (n : Nat) : ReadM Nat := do
  let r ← get
  if r.data.size * 8 - r.pos < n then throw .starved
  let bitAt (i : Nat) : Nat := ((r.data[i / 8]?.getD 0).toNat >>> (7 - i % 8)) % 2
  set { r with pos := r.pos + n }
  return (List.range n).foldl (fun acc k => acc * 2 + bitAt (r.pos + k)) 0

/-- Reads a byte and requires it to be `b`. -/
def expectByte (b : Nat) : ReadM Unit := do
  if (← bits 8) != b then throw .corrupt

/-- The check value of some bytes: CRC-32 with the polynomial `0x04C11DB7`, most significant bit
first. -/
def crc (data : ByteArray) : Nat :=
  let step (c : UInt32) (_ : Nat) : UInt32 :=
    if c &&& 0x80000000 != 0 then (c <<< (1 : UInt32)) ^^^ 0x04C11DB7 else c <<< (1 : UInt32)
  let byte (c : UInt32) (b : UInt8) : UInt32 :=
    (List.range 8).foldl step (c ^^^ (b.toUInt32 <<< (24 : UInt32)))
  (~~~(data.toList.foldl byte 0xFFFFFFFF)).toNat

/-- The decoding tables of one prefix code, as the reference decoder builds them from the code
lengths: the largest code of each length (`limit`), the offset of its symbols (`base`), and the
symbols in the order of their codes (`perm`). -/
structure Table where
  minLen : Nat
  limit : Array Int
  base : Array Int
  perm : Array Nat

/-- Builds the decoding tables of code lengths (each from 1 to 20). -/
def Table.ofLengths (lens : Array Nat) : Table :=
  let minLen := lens.foldl min 32
  let maxLen := lens.foldl max 0
  let lengths := (List.range (maxLen + 1 - minLen)).map (· + minLen)
  let perm := lengths.flatMap fun l => (List.range lens.size).filter fun j => lens[j]?.getD 0 == l
  let counts := (List.range 23).map fun i =>
    ((List.range lens.size).filter fun j => lens[j]?.getD 0 + 1 == i).length
  let cumulative := (counts.foldl (fun (acc : List Nat) c => acc ++ [acc.getLastD 0 + c]) []).toArray
  let base0 : Array Int := cumulative.map Int.ofNat
  let step (acc : Array Int × Int) (i : Nat) : Array Int × Int :=
    let vec := acc.2 + (base0.getD (i + 1) 0 - base0.getD i 0)
    (acc.1.setIfInBounds i (vec - 1), vec * 2)
  let limit := (lengths.foldl step (Array.replicate 23 0, 0)).1
  let base := ((List.range (maxLen + 1 - (minLen + 1))).map (· + minLen + 1)).foldl
    (fun (b : Array Int) i => b.setIfInBounds i ((limit.getD (i - 1) 0 + 1) * 2 - base0.getD i 0)) base0
  { minLen, limit, base, perm := perm.toArray }

/-- The state of reading the symbols of a block: the group of 50 symbols and its code. -/
structure Symbols where
  tables : Array Table
  selectors : Array Nat
  group : Int := -1
  left : Nat := 0

/-- Reads one symbol with the code of its group. -/
def Symbols.next (st : Symbols) : ReadM (Nat × Symbols) := do
  let st ← if st.left == 0 then
      let group := st.group + 1
      if group ≥ st.selectors.size then throw .corrupt
      pure { st with group, left := 50 }
    else pure st
  let st := { st with left := st.left - 1 }
  let t := st.tables.getD (st.selectors.getD st.group.toNat 0) ⟨1, #[], #[], #[]⟩
  let mut len := t.minLen
  let mut code : Int := ← bits len
  for _ in [0:21] do
    if len > 20 then throw .corrupt
    if code ≤ t.limit.getD len 0 then break
    len := len + 1
    code := code * 2 + (← bits 1)
  if len > 20 then throw .corrupt
  let i := code - t.base.getD len 0
  if i < 0 || i ≥ 258 then throw .corrupt
  return (t.perm.getD i.toNat 0, st)

/-- Moves the entry at `i` of a list to its front. -/
def moveToFront (xs : Array Nat) (i : Nat) : Array Nat :=
  let x := xs.getD i 0
  #[x] ++ xs.extract 0 i ++ xs.extract (i + 1) xs.size

/-- The block size times 100000, the used byte values, the symbols and the runs read into the
bytes of the transformed block. -/
def readMoves (blockMax : Nat) (used : Array Nat) (st : Symbols) (first : Nat) :
    Nat → ReadM (Array Nat)
  | fuel => go fuel first st #[] ((List.range 256).toArray)
where
  go : Nat → Nat → Symbols → Array Nat → Array Nat → ReadM (Array Nat)
    | 0, _, _, _, _ => throw .corrupt
    | fuel + 1, sym, st, out, mtf => do
      let eob := used.size + 1
      if sym == eob then return out
      if sym ≤ 1 then
        let mut es : Int := -1
        let mut n : Nat := 1
        let mut s := sym
        let mut st := st
        for _ in [0:23] do
          if s > 1 then break
          if n ≥ 2 * 1024 * 1024 then throw .corrupt
          es := es + (s + 1) * n
          n := n * 2
          let (s', st') ← st.next
          s := s'
          st := st'
        if s ≤ 1 then throw .corrupt
        let count := (es + 1).toNat
        let b := used.getD (mtf.getD 0 0) 0
        if out.size + count > blockMax then throw .corrupt
        go fuel s st (out ++ Array.replicate count b) mtf
      else
        if out.size ≥ blockMax then throw .corrupt
        let b := used.getD (mtf.getD (sym - 1) 0) 0
        let (s', st') ← st.next
        go fuel s' st' (out.push b) (moveToFront mtf (sym - 1))

/-- Undoes the transform: the bytes of a block in their order, starting from the origin. -/
def untransform (tt : Array Nat) (origin : Nat) : Array Nat :=
  let counts := (List.range 256).map fun v => (tt.toList.filter (· == v)).length
  let starts := (counts.foldl (fun (acc : List Nat) c => acc ++ [acc.getLastD 0 + c]) [0]).toArray
  let step (acc : Array Nat × Array Nat) (i : Nat) : Array Nat × Array Nat :=
    let v := tt.getD i 0
    let at' := acc.2.getD v 0
    (acc.1.setIfInBounds at' (acc.1.getD at' 0 + i * 256), acc.2.setIfInBounds v (at' + 1))
  let links := ((List.range tt.size).foldl step (tt, starts)).1
  let walk (acc : Array Nat × Nat) (_ : Nat) : Array Nat × Nat :=
    let t := links.getD acc.2 0
    (acc.1.push (t % 256), t / 256)
  ((List.range tt.size).foldl walk (#[], links.getD origin 0 / 256)).1

/-- The numbers that place the flipped bytes of a randomised block: the byte at
`r₀ + … + rₖ - 2` has its lowest bit flipped, the numbers taken again from the first after the
last. -/
def randomNumbers : Array Nat := #[
  619, 720, 127, 481, 931, 816, 813, 233, 566, 247, 985, 724, 205, 454, 863, 491,
  741, 242, 949, 214, 733, 859, 335, 708, 621, 574, 73, 654, 730, 472, 419, 436,
  278, 496, 867, 210, 399, 680, 480, 51, 878, 465, 811, 169, 869, 675, 611, 697,
  867, 561, 862, 687, 507, 283, 482, 129, 807, 591, 733, 623, 150, 238, 59, 379,
  684, 877, 625, 169, 643, 105, 170, 607, 520, 932, 727, 476, 693, 425, 174, 647,
  73, 122, 335, 530, 442, 853, 695, 249, 445, 515, 909, 545, 703, 919, 874, 474,
  882, 500, 594, 612, 641, 801, 220, 162, 819, 984, 589, 513, 495, 799, 161, 604,
  958, 533, 221, 400, 386, 867, 600, 782, 382, 596, 414, 171, 516, 375, 682, 485,
  911, 276, 98, 553, 163, 354, 666, 933, 424, 341, 533, 870, 227, 730, 475, 186,
  263, 647, 537, 686, 600, 224, 469, 68, 770, 919, 190, 373, 294, 822, 808, 206,
  184, 943, 795, 384, 383, 461, 404, 758, 839, 887, 715, 67, 618, 276, 204, 918,
  873, 777, 604, 560, 951, 160, 578, 722, 79, 804, 96, 409, 713, 940, 652, 934,
  970, 447, 318, 353, 859, 672, 112, 785, 645, 863, 803, 350, 139, 93, 354, 99,
  820, 908, 609, 772, 154, 274, 580, 184, 79, 626, 630, 742, 653, 282, 762, 623,
  680, 81, 927, 626, 789, 125, 411, 521, 938, 300, 821, 78, 343, 175, 128, 250,
  170, 774, 972, 275, 999, 639, 495, 78, 352, 126, 857, 956, 358, 619, 580, 124,
  737, 594, 701, 612, 669, 112, 134, 694, 363, 992, 809, 743, 168, 974, 944, 375,
  748, 52, 600, 747, 642, 182, 862, 81, 344, 805, 988, 739, 511, 655, 814, 334,
  249, 515, 897, 955, 664, 981, 649, 113, 974, 459, 893, 228, 433, 837, 553, 268,
  926, 240, 102, 654, 459, 51, 686, 754, 806, 760, 493, 403, 415, 394, 687, 700,
  946, 670, 656, 610, 738, 392, 760, 799, 887, 653, 978, 321, 576, 617, 626, 502,
  894, 679, 243, 440, 680, 879, 194, 572, 640, 724, 926, 56, 204, 700, 707, 151,
  457, 449, 797, 195, 791, 558, 945, 679, 297, 59, 87, 824, 713, 663, 412, 693,
  342, 606, 134, 108, 571, 364, 631, 212, 174, 643, 304, 329, 343, 97, 430, 751,
  497, 314, 983, 374, 822, 928, 140, 206, 73, 263, 980, 736, 876, 478, 430, 305,
  170, 514, 364, 692, 829, 82, 855, 953, 676, 246, 369, 970, 294, 750, 807, 827,
  150, 790, 288, 923, 804, 378, 215, 828, 592, 281, 565, 555, 710, 82, 896, 831,
  547, 261, 524, 462, 293, 465, 502, 56, 661, 821, 976, 991, 658, 869, 905, 758,
  745, 193, 768, 550, 608, 933, 378, 286, 215, 979, 792, 961, 61, 688, 793, 644,
  986, 403, 106, 366, 905, 644, 372, 567, 466, 434, 645, 210, 389, 550, 919, 135,
  780, 773, 635, 389, 707, 100, 626, 958, 165, 504, 920, 176, 193, 713, 857, 265,
  203, 50, 668, 108, 645, 990, 626, 197, 510, 357, 358, 850, 858, 364, 936, 638]

/-- Flips the lowest bit of the bytes of a randomised block at the places `randomNumbers`
gives. -/
def derandomise (bs : Array Nat) : Array Nat :=
  go bs (randomNumbers.getD 0 0 - 2) 0 (bs.size + 1)
where
  go (bs : Array Nat) (p k : Nat) : Nat → Array Nat
    | 0 => bs
    | fuel + 1 =>
      if p < bs.size then
        go (bs.modify p (· ^^^ 1)) (p + randomNumbers.getD ((k + 1) % 512) 0) (k + 1) fuel
      else bs

/-- Undoes the runs of a block's bytes: after four equal bytes, the next gives the number of
further copies. Corrupt when a run of four ends the block without its count. -/
def unrun (bs : List Nat) (acc : Array UInt8) : Except Stop (Array UInt8) :=
  match bs with
  | [] => .ok acc
  | a :: b :: c :: d :: rest =>
    if a == b && b == c && c == d then
      match rest with
      | [] => .error .corrupt
      | n :: rest' => unrun rest' (acc ++ Array.replicate (4 + n) a.toUInt8)
    else unrun (b :: c :: d :: rest) (acc.push a.toUInt8)
  | a :: rest => unrun rest (acc.push a.toUInt8)
termination_by bs.length
decreasing_by all_goals simp_all <;> omega

/-- Reads one block after its mark, and gives its bytes once their check value agrees. -/
def block (size100k : Nat) : ReadM ByteArray := do
  let stored ← bits 32
  let randomised ← bits 1
  let origin ← bits 24
  if origin > 10 + 100000 * size100k then throw .corrupt
  let groups16 ← bits 16
  let mut used : Array Nat := #[]
  for i in [0:16] do
    if (groups16 >>> (15 - i)) % 2 == 1 then
      let inner ← bits 16
      for j in [0:16] do
        if (inner >>> (15 - j)) % 2 == 1 then used := used.push (i * 16 + j)
  if used.isEmpty then throw .corrupt
  let alphaSize := used.size + 2
  let nGroups ← bits 3
  if nGroups < 2 || nGroups > 6 then throw .corrupt
  let nSelectors ← bits 15
  if nSelectors < 1 then throw .corrupt
  let mut moved : Array Nat := #[]
  for _ in [0:nSelectors] do
    let mut j := 0
    for _ in [0:7] do
      if (← bits 1) == 0 then break
      j := j + 1
      if j ≥ nGroups then throw .corrupt
    if moved.size < 18002 then moved := moved.push j
  let mut order := (List.range nGroups).toArray
  let mut selectors : Array Nat := #[]
  for v in moved do
    selectors := selectors.push (order.getD v 0)
    order := moveToFront order v
  let mut tables : Array Table := #[]
  for _ in [0:nGroups] do
    let mut curr ← bits 5
    let mut lens : Array Nat := #[]
    for _ in [0:alphaSize] do
      for _ in [0:42] do
        if curr < 1 || curr > 20 then throw .corrupt
        if (← bits 1) == 0 then break
        if (← bits 1) == 0 then curr := curr + 1 else curr := curr - 1
      if curr < 1 || curr > 20 then throw .corrupt
      lens := lens.push curr
    tables := tables.push (Table.ofLengths lens)
  let st : Symbols := { tables, selectors }
  let (first, st) ← st.next
  let blockMax := 100000 * size100k
  let tt ← readMoves blockMax used st first (blockMax + 1)
  if origin ≥ tt.size then throw .corrupt
  let ordered := untransform tt origin
  let bytes ← match unrun (if randomised == 1 then derandomise ordered else ordered).toList #[] with
    | .ok bs => pure bs
    | .error e => throw e
  let out : ByteArray := ⟨bytes⟩
  if crc out != stored then throw .corrupt
  return out

/-- Reads blocks until the end mark, adding the bytes of each to `out`; `combined` is the
combined check value so far. -/
def blocks (size100k : Nat) (out : ByteArray) (combined : Nat) (r : BitReader) :
    Nat → ByteArray × Stop ⊕ ByteArray
  | 0 => .inl (out, .starved)
  | fuel + 1 =>
    let step : ReadM (Option ByteArray) := do
      let first ← bits 8
      if first == 0x17 then
        for b in [0x72, 0x45, 0x38, 0x50, 0x90] do expectByte b
        let stored ← bits 32
        if stored != combined then throw .corrupt
        return none
      if first != 0x31 then throw .corrupt
      for b in [0x41, 0x59, 0x26, 0x53, 0x59] do expectByte b
      return some (← block size100k)
    match step.run r with
    | .error stop => .inl (out, stop)
    | .ok (none, _) => .inr out
    | .ok (some bs, r') =>
      let c := (combined * 2 + combined / 2 ^ 31) % 2 ^ 32
      blocks size100k (out ++ bs) (c ^^^ crc bs) r' fuel

/-- Decodes a bzip2 stream: the output and whether the end mark was read; or the fault, as
`Invalid data stream`. -/
def decompress (data : ByteArray) : Except String (ByteArray × Bool) :=
  let header : ReadM Nat := do
    expectByte 0x42
    expectByte 0x5A
    expectByte 0x68
    let level ← bits 8
    if level < 0x31 || level > 0x39 then throw .corrupt
    return level - 0x30
  match header.run { data } with
  | .error .starved => .ok (ByteArray.empty, false)
  | .error .corrupt => .error "Invalid data stream"
  | .ok (size100k, r) =>
    match blocks size100k ByteArray.empty 0 r (data.size + 1) with
    | .inr out => .ok (out, true)
    | .inl (out, .starved) => .ok (out, false)
    | .inl (_, .corrupt) => .error "Invalid data stream"

end JavaBuild.Bzip2
