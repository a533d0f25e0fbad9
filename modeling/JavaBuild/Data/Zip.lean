/-!
# Zip archives

Jar files are zip archives. `Zip.store` writes an archive whose entries are stored without
compression, each with the same date and time. The fields of an archive are read with
`read16` and `read32`.

All numbers in an archive are little-endian. An entry name that is not ASCII is marked as UTF-8
(flag bit 11).
-/

namespace JavaBuild.Zip

/-- The CRC-32 of some bytes (reflected polynomial `0xEDB88320`). -/
def crc32 (data : ByteArray) : UInt32 :=
  let step (c : UInt32) (_ : Nat) : UInt32 :=
    if c &&& 1 == 1 then (c >>> 1) ^^^ 0xEDB88320 else c >>> 1
  let byte (crc : UInt32) (b : UInt8) : UInt32 :=
    (List.range 8).foldl step (crc ^^^ b.toUInt32)
  ~~~(data.toList.foldl byte 0xFFFFFFFF)

/-- The two little-endian bytes of a number. -/
def le16 (n : Nat) : List UInt8 := [(n % 256).toUInt8, (n / 256 % 256).toUInt8]

/-- The four little-endian bytes of a number. -/
def le32 (n : Nat) : List UInt8 := le16 (n % 65536) ++ le16 (n / 65536 % 65536)

/-- The number in two little-endian bytes at an offset. -/
def read16 (b : ByteArray) (i : Nat) : Nat := (b[i]?.getD 0).toNat + 256 * (b[i + 1]?.getD 0).toNat

/-- The number in four little-endian bytes at an offset. -/
def read32 (b : ByteArray) (i : Nat) : Nat := read16 b i + 65536 * read16 b (i + 2)

/-- The DOS time and date of 2020-01-01 00:00:00. -/
def dosTime : Nat := 0
def dosDate : Nat := (2020 - 1980) * 512 + 1 * 32 + 1

/-- An archive of stored entries dated 2020-01-01 00:00:00. -/
def store (entries : List (String × ByteArray)) : ByteArray := Id.run do
  let mut body : List UInt8 := []
  let mut central : List UInt8 := []
  for (name, data) in entries do
    let nameBytes := name.toUTF8.toList
    let flags := if name.toList.all (·.toNat < 128) then 0 else 0x800
    let crc := (crc32 data).toNat
    let offset := body.length
    body := body ++ le32 0x04034b50 ++ le16 20 ++ le16 flags ++ le16 0 ++ le16 dosTime ++
      le16 dosDate ++ le32 crc ++ le32 data.size ++ le32 data.size ++ le16 nameBytes.length ++
      le16 0 ++ nameBytes ++ data.toList
    central := central ++ le32 0x02014b50 ++ [20, 3] ++ le16 20 ++ le16 flags ++ le16 0 ++
      le16 dosTime ++ le16 dosDate ++ le32 crc ++ le32 data.size ++ le32 data.size ++
      le16 nameBytes.length ++ le16 0 ++ le16 0 ++ le16 0 ++ le16 0 ++ le32 0x01800000 ++ le32 offset ++
      nameBytes
  let endRecord := le32 0x06054b50 ++ le16 0 ++ le16 0 ++ le16 entries.length ++
    le16 entries.length ++ le32 central.length ++ le32 body.length ++ le16 0
  ⟨(body ++ central ++ endRecord).toArray⟩

end JavaBuild.Zip
