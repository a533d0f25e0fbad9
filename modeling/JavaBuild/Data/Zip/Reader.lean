import JavaBuild.Data.Zip
import JavaBuild.Compression.Inflate
import JavaBuild.Compression.Bzip2
import JavaBuild.Compression.Lzma
import JavaBuild.Text.Charset.Tables
import JavaBuild.Text.Utf8
import JavaBuild.Text.Printable

/-!
# Reading zip archives

An archive is read from its end: the *end record* (signature `PK\x05\x06`) gives the size and
offset of the central directory, and a zip64 end record right before it (found through its
locator) replaces both. The central directory describes every entry; the data of an entry
follows its local header.

- `endRecord` finds the end record: in the last 22 bytes when the archive has no comment,
  otherwise at the last signature in the last 64 KiB and 22 bytes. Bytes without one are no
  archive, and so are bytes whose zip64 locator points before their start.
- `directory` reads the entries. When the archive was appended to other data, the offsets it
  records are short by the length of that data (the *shift*), which is added to every header
  offset. An entry name is UTF-8 when flag bit 11 is set and code page 437 otherwise; it ends
  at its first NUL character. Every entry must end before the next header above it (or the
  central directory): its *end offset*.
- `readEntry` reads the data of an entry: the local header must agree with the directory, the
  entry must not be encrypted or use another method than storing (0), deflate (8), bzip2 (12)
  or LZMA (14), and the decoded data, cut to the entry's size, must have its check value. Data
  that ends before its compressed size ends is an error unless the decoder reached the end of
  its stream or the entry's size.

All reads are slices that stop at the end of the bytes; every length is checked where the
format requires it.
-/

namespace JavaBuild.Zip

/-- Why an archive or one of its entries cannot be read. -/
inductive Fault where
  /-- The archive does not follow the format. -/
  | malformed (message : String)
  /-- The archive uses a feature that is not supported. -/
  | unsupported (message : String)
  /-- The entry is encrypted. -/
  | encrypted (message : String)
  /-- An entry name marked as UTF-8 is not UTF-8. -/
  | undecodable (m : Utf8.Malformed)
  /-- The data of an entry ends before its compressed size. -/
  | truncated
  /-- The header of an entry lies before the start of the bytes. -/
  | beforeStart
  /-- The compressed data of an entry is corrupt: the decoder's kind of fault and its message. -/
  | corrupt (kind message : String)

/-- The number in eight little-endian bytes at an offset. -/
def read64 (b : ByteArray) (i : Nat) : Nat := read32 b i + Nat.pow 2 32 * read32 b (i + 4)

/-- Whether the four bytes at an offset are the signature `sig`. -/
def signatureAt (b : ByteArray) (i sig : Nat) : Bool := i + 4 ≤ b.size && read32 b i == sig

/-- The signature of the end record. -/
def endSignature : Nat := 0x06054b50

/-- The signature of the zip64 end record locator. -/
def locatorSignature : Nat := 0x07064b50

/-- The signature of the zip64 end record. -/
def end64Signature : Nat := 0x06064b50

/-- The signature of an entry of the central directory. -/
def centralSignature : Nat := 0x02014b50

/-- The signature of a local header. -/
def localSignature : Nat := 0x04034b50

/-- The end record: the size and offset of the central directory, whether they come from a
zip64 end record, and where the end record starts. -/
structure EndRecord where
  zip64 : Bool
  size : Nat
  offset : Nat
  location : Nat

/-- Completes the end record at `location`. A zip64 locator in the 20 bytes before it must
name disk 0 of at most one disk. The zip64 end record it points to is taken to lie in the 56
bytes before the locator; where these bytes would start before the data, the bytes are no
archive, and where they do not hold the signature, the plain record stands. -/
def withZip64 (b : ByteArray) (location : Nat) : Except Fault (Option EndRecord) :=
  let plain : EndRecord := ⟨false, read32 b (location + 12), read32 b (location + 16), location⟩
  if location < 20 || !signatureAt b (location - 20) locatorSignature then .ok (some plain)
  else if read32 b (location - 16) != 0 || read32 b (location - 4) > 1 then
    .error (.malformed "zipfiles that span multiple disks are not supported")
  else if location < 76 then .ok none
  else if !signatureAt b (location - 76) end64Signature then .ok (some plain)
  else .ok (some ⟨true, read64 b (location - 36), read64 b (location - 28), location⟩)

/-- The last offset at or after `lo` where the signature `sig` starts. -/
def lastSignature (b : ByteArray) (lo sig : Nat) : Option Nat :=
  ((List.range (b.size - lo)).reverse.find? fun k => signatureAt b (lo + k) sig).map (lo + ·)

/-- The end record of an archive, or none when the bytes are no archive. -/
def endRecord (b : ByteArray) : Except Fault (Option EndRecord) :=
  if b.size < 22 then .ok none
  else if signatureAt b (b.size - 22) endSignature && read16 b (b.size - 2) == 0 then
    withZip64 b (b.size - 22)
  else
    match lastSignature b (b.size - (65536 + 22)) endSignature with
    | none => .ok none
    | some pos => if pos + 22 > b.size then .ok none else withZip64 b pos

/-- Whether the bytes are a zip archive. -/
def isArchive (b : ByteArray) : Except Fault Bool := return (← endRecord b).isSome

/-- An entry as the central directory describes it. -/
structure Entry where
  /-- The name up to its first NUL character. -/
  name : String
  /-- The whole name. -/
  fullName : String
  flags : Nat
  method : Nat
  crc : Nat
  compressedSize : Nat
  size : Nat
  /-- Where the local header starts. -/
  headerOffset : Int
  /-- Where the data must end at the latest. -/
  endOffset : Int := 0

/-- Decodes a name: UTF-8 when `utf8` is set, code page 437 otherwise. -/
def decodeName (utf8 : Bool) (bytes : ByteArray) : Except Fault String :=
  if utf8 then (Utf8.decode bytes).mapError Fault.undecodable
  else .ok (Charset.cp437.decodeLossy bytes)

/-- Applies a zip64 extra field: it gives in eight bytes each of the size (when it is
`0xFFFFFFFF` or `2^64 - 1`), the compressed size and the header offset (when they are
`0xFFFFFFFF`), in that order. -/
def zip64Field (data : ByteArray) (e : Entry) : Except Fault Entry := do
  let missing (field : String) : Fault := .malformed s!"Corrupt zip64 extra field. {field} not found."
  let mut data := data
  let mut e := e
  if e.size == 0xFFFFFFFFFFFFFFFF || e.size == 0xFFFFFFFF then
    if data.size < 8 then throw (missing "File size")
    e := { e with size := read64 data 0 }
    data := data.extract 8 data.size
  if e.compressedSize == 0xFFFFFFFF then
    if data.size < 8 then throw (missing "Compress size")
    e := { e with compressedSize := read64 data 0 }
    data := data.extract 8 data.size
  if e.headerOffset == 0xFFFFFFFF then
    if data.size < 8 then throw (missing "Header offset")
    e := { e with headerOffset := read64 data 0 }
  return e

/-- Reads the extra fields of an entry (an id and a length of two bytes each, then the data)
while four bytes are left, applying the zip64 fields. -/
def readExtra (extra : ByteArray) (e : Entry) : Nat → Except Fault Entry
  | 0 => .ok e
  | fuel + 1 =>
    if extra.size < 4 then .ok e
    else
      let id := read16 extra 0
      let len := read16 extra 2
      if len + 4 > extra.size then
        .error (.malformed s!"Corrupt extra field {Text.hexPadded 4 id} (size={len})")
      else
        let rest := extra.extract (len + 4) extra.size
        if id != 1 then readExtra rest e fuel
        else match zip64Field (extra.extract 4 (len + 4)) e with
          | .ok e' => readExtra rest e' fuel
          | .error f => .error f

/-- A name up to its first NUL character. -/
def beforeNul (s : String) : String := String.ofList (s.toList.takeWhile (· != Char.ofNat 0))

/-- Reads the entries of the central directory `cd` from `pos` while the lengths they declare
(`total`) stay below the directory's size `limit`. Each entry has 46 fixed bytes, then its
name, extra fields and comment, each as far as the directory's bytes go. -/
def readEntries (cd : ByteArray) (limit : Nat) (shift : Int) (total pos : Nat)
    (acc : Array Entry) : Nat → Except Fault (Array Entry)
  | 0 => .error (.malformed "Truncated central directory")
  | fuel + 1 => do
    if total ≥ limit then return acc
    let fixed := cd.extract pos (pos + 46)
    if fixed.size != 46 then throw (.malformed "Truncated central directory")
    if read32 fixed 0 != centralSignature then
      throw (.malformed "Bad magic number for central directory")
    let flags := read16 fixed 8
    let (nameLen, extraLen, commentLen) := (read16 fixed 28, read16 fixed 30, read16 fixed 32)
    let nameBytes := cd.extract (pos + 46) (pos + 46 + nameLen)
    let fullName ← decodeName (flags &&& 0x800 != 0) nameBytes
    let afterName := pos + 46 + nameBytes.size
    let extra := cd.extract afterName (afterName + extraLen)
    let afterExtra := afterName + extra.size
    let afterComment := afterExtra + (cd.extract afterExtra (afterExtra + commentLen)).size
    let version := (fixed[6]?.getD 0).toNat
    if version > 63 then throw (.unsupported s!"zip file version {version / 10}.{version % 10}")
    let e ← readExtra extra
      { name := beforeNul fullName, fullName, flags, method := read16 fixed 10,
        crc := read32 fixed 16, compressedSize := read32 fixed 20, size := read32 fixed 24,
        headerOffset := read32 fixed 42 } (extra.size + 1)
    readEntries cd limit shift (total + 46 + nameLen + extraLen + commentLen) afterComment
      (acc.push { e with headerOffset := e.headerOffset + shift }) fuel

/-- Gives each entry its end offset: the entries are ordered by header offset from the
highest down, equal offsets in directory order, and each ends where the one before it in this
order starts; the first ends at the central directory. -/
def placeEnds (start : Int) (es : List Entry) : List Entry :=
  let indexed := es.zipIdx
  let sorted := indexed.mergeSort fun a b => decide (a.1.headerOffset ≥ b.1.headerOffset)
  let step (acc : List (Nat × Int) × Int) (ei : Entry × Nat) : List (Nat × Int) × Int :=
    ((ei.2, acc.2) :: acc.1, ei.1.headerOffset)
  let ends := (sorted.foldl step ([], start)).1
  indexed.map fun (e, i) => { e with endOffset := ((ends.find? (·.1 == i)).map (·.2)).getD start }

/-- The central directory of an archive: its entries in order. -/
structure Directory where
  entries : List Entry

/-- Reads the central directory of an archive. -/
def directory (b : ByteArray) : Except Fault Directory := do
  let some r ← endRecord b | throw (.malformed "File is not a zip file")
  let shift : Int := r.location - r.size - r.offset - (if r.zip64 then 76 else 0)
  let start : Int := r.offset + shift
  if start < 0 then throw (.malformed "Bad offset for central directory")
  let cd := b.extract start.toNat (start.toNat + r.size)
  let entries ← readEntries cd r.size shift 0 0 #[] (cd.size / 46 + 2)
  return ⟨placeEnds start entries.toList⟩

/-- The names of the entries, in order. -/
def Directory.names (d : Directory) : List String := d.entries.map (·.name)

/-- The last entry with a name. -/
def Directory.find? (d : Directory) (name : String) : Option Entry :=
  d.entries.reverse.find? (·.name == name)

/-- Decodes data with a compression method: the output and whether the decoder reached the end
of its stream. -/
def decode (method : Nat) (data : ByteArray) : Except Fault (ByteArray × Bool) :=
  match method with
  | 8 => (Inflate.decompress data).mapError (Fault.corrupt "error")
  | 12 => (Bzip2.decompress data).mapError (Fault.corrupt "OSError")
  | 14 => (Lzma.decompress data).mapError (Fault.corrupt "LZMAError")
  | _ => .ok (data, false)

/-- Reads the data of an entry. -/
def readEntry (b : ByteArray) (e : Entry) : Except Fault ByteArray := do
  if e.headerOffset < 0 then throw .beforeStart
  let pos := e.headerOffset.toNat
  let header := b.extract pos (pos + 30)
  if header.size != 30 then throw (.malformed "Truncated file header")
  if read32 header 0 != localSignature then throw (.malformed "Bad magic number for file header")
  let nameBytes := b.extract (pos + 30) (pos + 30 + read16 header 26)
  let dataStart := min (pos + 30 + read16 header 26 + read16 header 28) b.size
  if e.flags &&& 0x20 != 0 then throw (.unsupported "compressed patched data (flag bit 5)")
  if e.flags &&& 0x40 != 0 then throw (.unsupported "strong encryption (flag bit 6)")
  let headerName ← decodeName (read16 header 6 &&& 0x800 != 0) nameBytes
  if headerName != e.fullName then
    throw (.malformed ("File name in directory " ++ Text.literal e.fullName ++ " and header " ++
      Text.bytesLiteral nameBytes ++ " differ."))
  if (dataStart : Int) + e.compressedSize > e.endOffset then
    throw (.malformed ("Overlapped entries: " ++ Text.literal e.fullName ++ " (possible zip bomb)"))
  if e.flags &&& 1 != 0 then
    throw (.encrypted ("File " ++ Text.literal e.name ++ " is encrypted, password required for extraction"))
  if !([0, 8, 12, 14].contains e.method) then
    throw (.unsupported "That compression method is not supported")
  let chunk := b.extract dataStart (dataStart + e.compressedSize)
  if e.compressedSize > 0 && chunk.size == 0 then throw .truncated
  let (out, finished) ← decode e.method chunk
  let data := out.extract 0 e.size
  if !(finished || chunk.size == e.compressedSize || data.size == e.size) then throw .truncated
  if (crc32 data).toNat != e.crc then
    throw (.malformed ("Bad CRC-32 for file " ++ Text.literal e.name))
  return data

end JavaBuild.Zip
