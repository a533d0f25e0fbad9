/-!
# SHA-256

The secure hash of FIPS 180-4, section 6.2, over a byte array. Fingerprints of compiler options,
of dependencies and of source files are its hexadecimal digests.

The message is padded with a one bit, zeros and its bit length to whole 64-byte blocks; each
block extends sixteen big-endian words to a schedule of sixty-four and runs the compression
rounds on the eight-word state.
-/

namespace JavaBuild.Sha256

/-- The round constants: the first 32 bits of the fractional parts of the cube roots of the
first sixty-four primes. -/
def roundConstants : Array UInt32 := #[
  0x428a2f98, 0x71374491, 0xb5c0fbcf, 0xe9b5dba5, 0x3956c25b, 0x59f111f1, 0x923f82a4, 0xab1c5ed5,
  0xd807aa98, 0x12835b01, 0x243185be, 0x550c7dc3, 0x72be5d74, 0x80deb1fe, 0x9bdc06a7, 0xc19bf174,
  0xe49b69c1, 0xefbe4786, 0x0fc19dc6, 0x240ca1cc, 0x2de92c6f, 0x4a7484aa, 0x5cb0a9dc, 0x76f988da,
  0x983e5152, 0xa831c66d, 0xb00327c8, 0xbf597fc7, 0xc6e00bf3, 0xd5a79147, 0x06ca6351, 0x14292967,
  0x27b70a85, 0x2e1b2138, 0x4d2c6dfc, 0x53380d13, 0x650a7354, 0x766a0abb, 0x81c2c92e, 0x92722c85,
  0xa2bfe8a1, 0xa81a664b, 0xc24b8b70, 0xc76c51a3, 0xd192e819, 0xd6990624, 0xf40e3585, 0x106aa070,
  0x19a4c116, 0x1e376c08, 0x2748774c, 0x34b0bcb5, 0x391c0cb3, 0x4ed8aa4a, 0x5b9cca4f, 0x682e6ff3,
  0x748f82ee, 0x78a5636f, 0x84c87814, 0x8cc70208, 0x90befffa, 0xa4506ceb, 0xbef9a3f7, 0xc67178f2]

/-- The initial state: the first 32 bits of the fractional parts of the square roots of the
first eight primes. -/
def initialState : Array UInt32 :=
  #[0x6a09e667, 0xbb67ae85, 0x3c6ef372, 0xa54ff53a, 0x510e527f, 0x9b05688c, 0x1f83d9ab, 0x5be0cd19]

/-- Rotation to the right by `n` bits, for `0 < n < 32`. -/
def rotr (x : UInt32) (n : UInt32) : UInt32 := (x >>> n) ||| (x <<< (32 - n))

def bigSigma0 (x : UInt32) : UInt32 := rotr x 2 ^^^ rotr x 13 ^^^ rotr x 22
def bigSigma1 (x : UInt32) : UInt32 := rotr x 6 ^^^ rotr x 11 ^^^ rotr x 25
def sigma0 (x : UInt32) : UInt32 := rotr x 7 ^^^ rotr x 18 ^^^ (x >>> 3)
def sigma1 (x : UInt32) : UInt32 := rotr x 17 ^^^ rotr x 19 ^^^ (x >>> 10)

/-- The big-endian word at byte offset `i`. -/
def wordAt (b : ByteArray) (i : Nat) : UInt32 :=
  let byteAt (k : Nat) : UInt32 := (b[k]?.getD 0).toUInt32
  (byteAt i <<< 24) ||| (byteAt (i + 1) <<< 16) ||| (byteAt (i + 2) <<< 8) ||| byteAt (i + 3)

/-- The eight big-endian bytes of a bit length. -/
def lengthBytes (bits : Nat) : List UInt8 :=
  (List.range 8).reverse.map fun k => (bits / Nat.pow 2 (8 * k) % 256).toUInt8

/-- The message with its padding: a `0x80` byte, zeros up to 56 modulo 64, and the length. -/
def pad (msg : ByteArray) : ByteArray :=
  let zeros := (119 - msg.size % 64) % 64
  msg ++ ⟨#[0x80]⟩ ++ ⟨Array.replicate zeros 0⟩ ++ ⟨(lengthBytes (8 * msg.size)).toArray⟩

/-- The sixty-four words of the schedule of the block at byte offset `start`. -/
def schedule (block : ByteArray) (start : Nat) : Array UInt32 :=
  (List.range 64).foldl (fun w i =>
    if i < 16 then w.push (wordAt block (start + 4 * i))
    else
      w.push (sigma1 (w.getD (i - 2) 0) + w.getD (i - 7) 0 + sigma0 (w.getD (i - 15) 0) +
        w.getD (i - 16) 0)) #[]

/-- One compression round on the working variables `a` to `h`. -/
def round (v : Array UInt32) (k w : UInt32) : Array UInt32 :=
  let a := v.getD 0 0; let b := v.getD 1 0; let c := v.getD 2 0; let d := v.getD 3 0
  let e := v.getD 4 0; let f := v.getD 5 0; let g := v.getD 6 0; let h := v.getD 7 0
  let t1 := h + bigSigma1 e + ((e &&& f) ^^^ (~~~e &&& g)) + k + w
  let t2 := bigSigma0 a + ((a &&& b) ^^^ (a &&& c) ^^^ (b &&& c))
  #[t1 + t2, a, b, c, d + t1, e, f, g]

/-- The state after the block at byte offset `start`. -/
def compress (state : Array UInt32) (block : ByteArray) (start : Nat) : Array UInt32 :=
  let w := schedule block start
  let v := (List.range 64).foldl (fun v i =>
    round v (roundConstants.getD i 0) (w.getD i 0)) state
  (List.range 8).toArray.map fun i => state.getD i 0 + v.getD i 0

/-- The 32-byte digest of a message. -/
def hash (msg : ByteArray) : ByteArray :=
  let padded := pad msg
  let state := (List.range (padded.size / 64)).foldl (fun s k =>
    compress s padded (64 * k)) initialState
  ⟨(state.toList.flatMap fun (x : UInt32) =>
    [(x >>> 24).toUInt8, (x >>> 16).toUInt8, (x >>> 8).toUInt8, x.toUInt8]).toArray⟩

/-- The lower-case hexadecimal digit of a number below sixteen. -/
def hexDigit (n : Nat) : Char := if n < 10 then Char.ofNat (48 + n) else Char.ofNat (87 + n)

/-- The lower-case hexadecimal text of some bytes, two digits a byte. -/
def hex (b : ByteArray) : String :=
  String.ofList (b.toList.flatMap fun x => [hexDigit (x.toNat / 16), hexDigit (x.toNat % 16)])

/-- The hexadecimal digest of a message. -/
def hexDigest (msg : ByteArray) : String := hex (hash msg)

/-- The hexadecimal digest of a text's UTF-8 bytes. -/
def hexDigestOfText (s : String) : String := hexDigest s.toUTF8

end JavaBuild.Sha256
