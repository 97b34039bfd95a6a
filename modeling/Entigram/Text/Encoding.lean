import Entigram.Text.CodePageTable
import Entigram.Text.Search

/-!
# Character encodings

How the bytes of a file become text.  Bytes that an encoding does not allow make decoding fail; no
character is ever replaced.

An encoding is asked for by one of its names (`Encoding.ofName`).  Of a name only letters and digits
count, and where something else stands between them.
-/

set_option autoImplicit false

namespace Entigram
namespace Text

/-- Which byte of a unit comes first. -/
inductive ByteOrder
  /-- The one that counts least. -/
  | little
  | big
deriving Repr, DecidableEq

/-- The encodings that a file can be read with. -/
inductive Encoding
  | utf8
  /-- UTF-8, with a byte order mark in front that is not part of the text. -/
  | utf8Signed
  | ascii
  | latin1
  /-- Units of two bytes; where the order is left open, a mark in front tells it. -/
  | utf16 (order : Option ByteOrder)
  /-- Units of four bytes. -/
  | utf32 (order : Option ByteOrder)
  | page (p : CodePage)
deriving Repr, DecidableEq

namespace Encoding

/-- Why a file cannot be read. -/
inductive Fault
  /-- The name of the encoding holds the null character. -/
  | nullCharacter
  /-- There is no encoding of this name. -/
  | unknown
  /-- The encoding does not allow the bytes. -/
  | bytes
  /-- A mark that tells the order of bytes is missing. -/
  | noMark
deriving Repr, DecidableEq

/-! ## Names -/

/-- The encodings that are no code pages, with their names and the other names that they go by. -/
def unpaged : List (String × List String × Encoding) :=
  [("utf_8", ["u8", "utf", "utf8", "utf8_ucs2", "utf8_ucs4", "cp65001"], utf8),
    ("utf_8_sig", [], utf8Signed),
    ("ascii", ["646", "ansi_x3.4_1968", "ansi_x3.4_1986", "ansi_x3_4_1968", "cp367", "csascii",
      "ibm367", "iso646_us", "iso_646.irv_1991", "iso_ir_6", "us", "us_ascii"], ascii),
    ("latin_1", ["8859", "cp819", "csisolatin1", "ibm819", "iso8859", "iso8859_1", "iso_8859_1",
      "iso_8859_1_1987", "iso_ir_100", "l1", "latin", "latin1"], latin1),
    ("charmap", [], latin1),
    ("utf_16", ["u16", "utf16"], utf16 none),
    ("utf_16_le", ["unicodelittleunmarked", "utf_16le"], utf16 (some .little)),
    ("utf_16_be", ["unicodebigunmarked", "utf_16be"], utf16 (some .big)),
    ("utf_32", ["u32", "utf32"], utf32 none),
    ("utf_32_le", ["utf_32le"], utf32 (some .little)),
    ("utf_32_be", ["utf_32be"], utf32 (some .big))]

/-- All encodings with their names. -/
def all : List (String × List String × Encoding) :=
  unpaged ++ CodePage.all.map fun p => (p.name, p.aliases, page p)

/-- Does the character count in a name? -/
def countsInName (c : Char) : Bool := c.isAlphanum || c = '.'

/-- A name in normal form: in small letters, with one low line for everything that stands between
characters that count. -/
def normalName (s : String) : String :=
  "_".intercalate (((splitWhere (!countsInName ·) s.toList).filter (!·.isEmpty)).map fun cs =>
    String.ofList (cs.map Char.toLower))

/-- The encoding of a name in normal form.  Points count like low lines in the names that an
encoding goes by besides its own. -/
def find? (name : String) : Option Encoding :=
  let goesBy (n : String) := (all.find? fun e => e.2.1.contains n).map (·.2.2)
  let lined := name.map fun c => if c = '.' then '_' else c
  ((goesBy name).or (goesBy lined)).or (all.lookup name |>.map (·.2))

/-- The word for the encoding of the surroundings. -/
def surroundings : String := "locale"

/-- The encoding of a name. -/
def ofName (s : String) : Except Fault Encoding :=
  if s.toList.contains (Char.ofNat 0) then .error .nullCharacter
  else if s = surroundings then .ok utf8
  else match find? (normalName s) with
    | some e => .ok e
    | none => .error .unknown

/-! ## Decoding -/

/-- The text of bytes in UTF-8. -/
def decodeUtf8 (bytes : List UInt8) : Except Fault String :=
  match String.fromUTF8? ⟨bytes.toArray⟩ with
  | some text => .ok text
  | none => .error .bytes

/-- The byte order mark. -/
def mark : List UInt8 := [0xEF, 0xBB, 0xBF]

/-- The bytes without a byte order mark in front.  A mark that breaks off leaves nothing. -/
def withoutMark (bytes : List UInt8) : List UInt8 :=
  if mark.isPrefixOf bytes then bytes.drop mark.length
  else if bytes.isPrefixOf mark then []
  else bytes

/-- The text of bytes of which each is a character. -/
def decodeEach (char? : UInt8 → Option Char) (bytes : List UInt8) : Except Fault String :=
  match bytes.mapM char? with
  | some cs => .ok (String.ofList cs)
  | none => .error .bytes

/-- The number that bytes write, the one that counts most in front. -/
def numberOf (bytes : List UInt8) : Nat := bytes.foldl (fun n b => n * 256 + b.toNat) 0

/-- The units of `size` bytes; the last must be complete. -/
def units (size : Nat) (order : ByteOrder) : Nat → List UInt8 → Except Fault (List Nat)
  | 0, bytes => if bytes.isEmpty then .ok [] else .error .bytes
  | n + 1, bytes => do
    let unit := bytes.take size
    if unit.isEmpty then return []
    if unit.length < size then throw .bytes
    let value := numberOf (if order = .little then unit.reverse else unit)
    return value :: (← units size order n (bytes.drop size))

/-- The characters of units of two bytes.  Characters beyond the first 65536 take a pair. -/
def pairUp : List Nat → Except Fault (List Char)
  | [] => .ok []
  | u :: rest =>
    if u < 0xD800 || 0xE000 ≤ u then (pairUp rest).map (Char.ofNat u :: ·)
    else match rest with
      | [] => .error .bytes
      | v :: rest =>
        if u < 0xDC00 && 0xDC00 ≤ v && v < 0xE000 then
          (pairUp rest).map (Char.ofNat (0x10000 + (u - 0xD800) * 0x400 + (v - 0xDC00)) :: ·)
        else .error .bytes

/-- The character of a number, if there is one. -/
def charOf (n : Nat) : Except Fault Char :=
  if n < 0xD800 || (0xE000 ≤ n && n < 0x110000) then .ok (Char.ofNat n) else .error .bytes

/-- The text of bytes in UTF-16. -/
def decode16 (order : ByteOrder) (bytes : List UInt8) : Except Fault String := do
  return String.ofList (← pairUp (← units 2 order bytes.length bytes))

/-- The text of bytes in UTF-32. -/
def decode32 (order : ByteOrder) (bytes : List UInt8) : Except Fault String := do
  return String.ofList (← (← units 4 order bytes.length bytes).mapM charOf)

/-- The text of bytes whose order a mark in front tells.  Without one, bytes that mean something in
the usual order are refused for the mark, and others for what they are. -/
def decodeMarked (decode : ByteOrder → List UInt8 → Except Fault String) (mark bytes : List UInt8) :
    Except Fault String :=
  if mark.isPrefixOf bytes then decode .little (bytes.drop mark.length)
  else if mark.reverse.isPrefixOf bytes then decode .big (bytes.drop mark.length)
  else if bytes.isEmpty then .ok ""
  else do
    let _ ← decode .little bytes
    throw .noMark

/-- The text of bytes, if the encoding allows them. -/
def decode : Encoding → List UInt8 → Except Fault String
  | utf8, bytes => decodeUtf8 bytes
  | utf8Signed, bytes => decodeUtf8 (withoutMark bytes)
  | ascii, bytes => decodeEach (fun b => if b < 0x80 then some (Char.ofNat b.toNat) else none) bytes
  | latin1, bytes => decodeEach (fun b => some (Char.ofNat b.toNat)) bytes
  | utf16 (some order), bytes => decode16 order bytes
  | utf16 none, bytes => decodeMarked decode16 [0xFF, 0xFE] bytes
  | utf32 (some order), bytes => decode32 order bytes
  | utf32 none, bytes => decodeMarked decode32 [0xFF, 0xFE, 0, 0] bytes
  | page p, bytes => decodeEach p.char? bytes

end Encoding

/-! ## Line ends -/

/-- Ends every line with a line feed, whichever of the usual ends it has. -/
def unifyLineEndsOf : List Char → List Char
  | [] => []
  | '\r' :: '\n' :: cs => '\n' :: unifyLineEndsOf cs
  | c :: cs => (if c = '\r' then '\n' else c) :: unifyLineEndsOf cs

/-- The text with a line feed at the end of every line. -/
def unifyLineEnds (s : String) : String := String.ofList (unifyLineEndsOf s.toList)

end Text
end Entigram
