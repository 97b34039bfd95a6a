import Entigram.Text.CharNameTable

/-!
# The names of characters

Every character has a name, and some have several.  Most names are listed, and may be written in
capitals or not (`isListed`).  Two families of names follow a rule instead and are written in
capitals only: those of the syllables of Hangul, which name their letters (`isSyllable`), and those
of unified ideographs, which give their code (`isIdeograph`).
-/

set_option autoImplicit false

namespace Entigram
namespace Text
namespace CharName

/-! ## Listed names -/

/-- Is a name among those that a table tells?  Both the name and the one that the table told so far
stand last character first. -/
def tells (name : List Char) : List Char → List Char → Bool
  | told, [] => told == name
  | told, c :: cs =>
    if c = 'z' then tells name (told.drop 25) cs
    else if c.isLower then told == name || tells name (told.drop (c.toNat - 'a'.toNat)) cs
    else tells name (c :: told) cs

/-- Is a name listed? -/
def isListed (name : List Char) : Bool :=
  tells (name.map Char.toUpper).reverse [] (charNameTable.flatMap String.toList)

/-! ## Syllables -/

/-- The names of the consonants that a syllable can begin with. -/
def leads : List String :=
  ["G", "GG", "N", "D", "DD", "R", "M", "B", "BB", "S", "SS", "", "J", "JJ", "C", "K", "T", "P",
    "H"]

/-- The names of the vowels. -/
def vowels : List String :=
  ["A", "AE", "YA", "YAE", "EO", "E", "YEO", "YE", "O", "WA", "WAE", "OE", "YO", "U", "WEO", "WE",
    "WI", "YU", "EU", "YI", "I"]

/-- The names of the consonants that a syllable can end with. -/
def tails : List String :=
  ["", "G", "GG", "GS", "N", "NJ", "NH", "D", "L", "LG", "LM", "LB", "LS", "LT", "LP", "LH", "M",
    "B", "BS", "S", "SS", "NG", "J", "C", "K", "T", "P", "H"]

/-- What follows the longest of these names that comes first. -/
def afterLongest? (names : List String) (cs : List Char) : Option (List Char) :=
  let lengths := (names.filter fun n => n.toList.isPrefixOf cs).map String.length
  lengths.max?.map cs.drop

/-- Is it the name of a syllable, behind the words that all of them begin with? -/
def isSyllable (cs : List Char) : Bool :=
  ((afterLongest? leads cs).bind (afterLongest? vowels)).bind (afterLongest? tails) == some []

/-! ## Ideographs -/

/-- The codes of unified ideographs, as first and last ones. -/
def ideographs : List (Nat × Nat) :=
  [(0x3400, 0x4DBF), (0x4E00, 0x9FFF), (0x20000, 0x2A6DF), (0x2A700, 0x2B738), (0x2B740, 0x2B81D),
    (0x2B820, 0x2CEA1), (0x2CEB0, 0x2EBE0), (0x30000, 0x3134A)]

/-- The value of a hexadecimal digit, in capitals. -/
def hexValue? (c : Char) : Option Nat :=
  if c.isDigit then some (c.toNat - '0'.toNat)
  else if 'A' ≤ c && c ≤ 'F' then some (c.toNat - 'A'.toNat + 10)
  else none

/-- Is it the code of a unified ideograph, in four or five digits? -/
def isIdeograph (cs : List Char) : Bool :=
  (cs.length = 4 || cs.length = 5) &&
    match cs.mapM hexValue? with
    | some digits =>
      let code := digits.foldl (fun n d => n * 16 + d) 0
      ideographs.any fun r => r.1 ≤ code && code ≤ r.2
    | none => false

/-! ## All names -/

/-- What all names of syllables begin with. -/
def syllableStart : List Char := "HANGUL SYLLABLE ".toList

/-- What all names of unified ideographs begin with. -/
def ideographStart : List Char := "CJK UNIFIED IDEOGRAPH-".toList

end CharName

/-- Is it the name of a character? -/
def isCharName (name : List Char) : Bool :=
  if CharName.syllableStart.isPrefixOf name then
    CharName.isSyllable (name.drop CharName.syllableStart.length)
  else if CharName.ideographStart.isPrefixOf name then
    CharName.isIdeograph (name.drop CharName.ideographStart.length)
  else CharName.isListed name

end Text
end Entigram
