import UsageGrid.Encoding.Utf16
import UsageGrid.Text.Blank
import UsageGrid.Text.Letters

/-!
# Encodings of a file

Which encoding the bytes of a file are taken to be in, and the text they then are:

* `detect` goes by a byte order mark, then by whether the bytes are UTF-8; what is neither is taken
  for Latin text;
* `Charset.ofName?` finds an encoding by one of its names;
* `decode` is the text under a name. A mark in front of the bytes overrides the name of every
  encoding but UTF-8 itself, and an unknown name is read as UTF-8.
-/

namespace UsageGrid.Encoding

/-! ## 1. Encodings of one byte per character -/

/-- Latin 9: as Latin 1 but for eight characters. -/
def latin9 (b : UInt8) : Char :=
  match b.toNat with
  | 0xA4 => Char.ofNat 0x20AC
  | 0xA6 => Char.ofNat 0x160
  | 0xA8 => Char.ofNat 0x161
  | 0xB4 => Char.ofNat 0x17D
  | 0xB8 => Char.ofNat 0x17E
  | 0xBC => Char.ofNat 0x152
  | 0xBD => Char.ofNat 0x153
  | 0xBE => Char.ofNat 0x178
  | n => Char.ofNat n

/-- The characters of Windows 1252 from 0x80 on, those that differ from Latin 1. -/
def windows1252High : List Nat :=
  [0x20AC, 0x81, 0x201A, 0x192, 0x201E, 0x2026, 0x2020, 0x2021, 0x2C6, 0x2030, 0x160, 0x2039,
    0x152, 0x8D, 0x17D, 0x8F, 0x90, 0x2018, 0x2019, 0x201C, 0x201D, 0x2022, 0x2013, 0x2014,
    0x2DC, 0x2122, 0x161, 0x203A, 0x153, 0x9D, 0x17E, 0x178]

def windows1252 (b : UInt8) : Char :=
  let n := b.toNat
  if n < 0x80 then Char.ofNat n else Char.ofNat (windows1252High.getD (n - 0x80) n)

/-! ## 2. Names -/

inductive Charset where
  | utf8
  | latin9
  | windows1252
  | utf16 (order : ByteOrder)
  | replacement
deriving Repr, DecidableEq

namespace Charset

/-- The names of an encoding, in lower case. -/
def names : List (Charset × List String) :=
  [(.utf8, ["unicode-1-1-utf-8", "unicode11utf8", "unicode20utf8", "utf-8", "utf8",
      "x-unicode20utf8"]),
    (.latin9, ["csisolatin9", "iso-8859-15", "iso8859-15", "iso885915", "iso_8859-15", "l9"]),
    (.windows1252, ["ansi_x3.4-1968", "ascii", "cp1252", "cp819", "csisolatin1", "ibm819",
      "iso-8859-1", "iso-ir-100", "iso8859-1", "iso88591", "iso_8859-1", "iso_8859-1:1987", "l1",
      "latin1", "us-ascii", "windows-1252", "x-cp1252"]),
    (.utf16 .big, ["unicodefffe", "utf-16be"]),
    (.utf16 .little, ["csunicode", "iso-10646-ucs-2", "ucs-2", "unicode", "unicodefeff",
      "utf-16", "utf-16le"]),
    (.replacement, ["csiso2022kr", "hz-gb-2312", "iso-2022-cn", "iso-2022-cn-ext",
      "iso-2022-kr", "replacement"])]

/-- The space that may surround a name. -/
def isPadding (c : Char) : Bool :=
  c == ' ' || c == '\t' || c == '\n' || c == '\r' || c.toNat == 12

/-- The encoding with this name, in lower case. -/
def ofName? (name : String) : Option Charset :=
  let cs := (name.toList.dropWhile isPadding).reverse.dropWhile isPadding
  let key := String.ofList cs.reverse
  (names.find? (·.2.contains key)).map (·.1)

/-- The pieces that bytes decode to. -/
def decode : Charset → List UInt8 → List Piece
  | .utf8, bytes => Utf8.decode bytes
  | .latin9, bytes => bytes.map fun b => some (Encoding.latin9 b)
  | .windows1252, bytes => bytes.map fun b => some (Encoding.windows1252 b)
  | .utf16 order, bytes => Utf16.decode order bytes
  | .replacement, bytes => if bytes.isEmpty then [] else [none]

end Charset

/-! ## 3. Marks -/

/-- The bytes after a given beginning. -/
def dropMark? (mark bytes : List UInt8) : Option (List UInt8) :=
  if mark.isPrefixOf bytes then some (bytes.drop mark.length) else none

/-- The encoding that a mark in front names, and the bytes after it. -/
def byMark? (bytes : List UInt8) : Option (Charset × List UInt8) :=
  ((dropMark? Utf8.mark bytes).map (Charset.utf8, ·))
    <|> ((dropMark? (Utf16.mark .little) bytes).map (Charset.utf16 .little, ·))
    <|> ((dropMark? (Utf16.mark .big) bytes).map (Charset.utf16 .big, ·))

/-- The pieces of bytes in an encoding, unless a mark in front names another. -/
def decodeMarked (charset : Charset) (bytes : List UInt8) : List Piece :=
  match byMark? bytes with
  | some (marked, rest) => marked.decode rest
  | none => charset.decode bytes

/-! ## 4. Detection and decoding -/

/-- The name of the encoding that the bytes are taken to be in. -/
def detect (bytes : List UInt8) : String :=
  if Utf8.mark.isPrefixOf bytes then "utf-8"
  else if [0xFF, 0xFE, 0, 0].isPrefixOf bytes then "UTF-32LE"
  else if [0, 0, 0xFE, 0xFF].isPrefixOf bytes then "UTF-32BE"
  else if (Utf16.mark .little).isPrefixOf bytes then "UTF-16LE"
  else if (Utf16.mark .big).isPrefixOf bytes then "UTF-16BE"
  else if (exactly? (Utf8.decode bytes)).isSome then "utf-8"
  else "iso-8859-1"

/-- The pieces of bytes under the name of an encoding, and whether the name is unknown. -/
def decodeNamed (name : String) (bytes : List UInt8) : List Piece × Bool :=
  let key := Text.lower name
  if ["utf-8", "utf8", "ascii"].contains key then (Utf8.decode bytes, false)
  else if ["iso-8859-1", "latin-1", "latin1"].contains key then (decodeMarked .latin9 bytes, false)
  else if ["windows-1252", "cp1252"].contains key then (decodeMarked .windows1252 bytes, false)
  else match Charset.ofName? key with
    | some charset => (decodeMarked charset bytes, false)
    | none => (Utf8.decode bytes, true)

/-- The text of a file under the name of an encoding. Nothing, where the bytes do not decode and
    what could be read of them is blank. -/
def decode (name : String) (bytes : List UInt8) : Option (List Char) :=
  let body := (dropMark? Utf8.mark bytes).getD bytes
  let (pieces, unknown) := decodeNamed name body
  let text := lossy pieces
  let faulty := unknown || pieces.contains none
  if faulty && text.all Text.isBlank then none else some text

end UsageGrid.Encoding
