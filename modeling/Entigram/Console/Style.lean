import Entigram.Text.Blank
import Entigram.Text.Case
import Entigram.Text.WordChar

/-!
# Styles

A style is written as words: attributes, each perhaps with `not` before it, a colour, a colour of
the background behind `on`, and an address behind `link`.  Where a word stands twice the last counts
(`Style.ofText?`).

Different texts can mean one style.  Its normal form (`Style.text`) lists the attributes in a fixed
order, then the colours and the address.  A text that means no style is its own normal form but for
its case (`normalize`).
-/

set_option autoImplicit false

namespace Entigram
namespace Console

open Text

/-- Why a text means no style. -/
inductive StyleFault
  /-- A word that means nothing where it stands. -/
  | unknownWord
  /-- A part of a colour that should be a number and is none. -/
  | notANumber
deriving Repr, DecidableEq

/-! ## Colours -/

/-- The names of colours that have no shades. -/
def plainColors : List String :=
  ["default", "black", "red", "green", "yellow", "blue", "magenta", "cyan", "white",
    "bright_black", "bright_red", "bright_green", "bright_yellow", "bright_blue",
    "bright_magenta", "bright_cyan", "bright_white", "navy_blue", "dark_blue", "dark_green",
    "dark_cyan", "light_sea_green", "dark_turquoise", "medium_spring_green", "dark_red",
    "blue_violet", "steel_blue", "cornflower_blue", "cadet_blue", "medium_turquoise",
    "dark_magenta", "dark_violet", "purple", "light_slate_grey", "light_slate_gray",
    "medium_purple", "light_slate_blue", "dark_sea_green", "light_green", "medium_violet_red",
    "indian_red", "medium_orchid", "dark_goldenrod", "rosy_brown", "dark_khaki",
    "light_steel_blue", "green_yellow", "orchid", "violet", "tan", "hot_pink", "dark_orange",
    "light_coral", "sandy_brown"]

/-- The names of colours with numbered shades. -/
def shadedColors : List (String × List Nat) :=
  [("blue", [1, 3]), ("deep_sky_blue", [1, 2, 3, 4]), ("dodger_blue", [1, 2, 3]),
    ("green", [1, 3, 4]), ("spring_green", [1, 2, 3, 4]), ("turquoise", [2, 4]),
    ("cyan", [1, 2, 3]), ("deep_pink", [1, 2, 3, 4]), ("purple", [3, 4]), ("orange", [1, 3, 4]),
    ("medium_purple", [1, 2, 3, 4]), ("slate_blue", [1, 3]), ("royal_blue", [1]),
    ("chartreuse", [1, 2, 3, 4]), ("dark_sea_green", [1, 2, 3, 4]), ("pale_turquoise", [1, 4]),
    ("steel_blue", [1, 3]), ("sky_blue", [1, 2, 3]), ("pale_green", [1, 3]),
    ("sea_green", [1, 2, 3]), ("aquamarine", [1, 3]), ("dark_slate_gray", [1, 2, 3]),
    ("light_pink", [1, 3, 4]), ("plum", [1, 2, 3, 4]), ("yellow", [1, 2, 3, 4]),
    ("wheat", [1, 4]), ("dark_olive_green", [1, 2, 3]), ("light_sky_blue", [1, 3]),
    ("red", [1, 3]), ("magenta", [1, 2, 3]), ("dark_orange", [3]), ("indian_red", [1]),
    ("hot_pink", [2, 3]), ("medium_orchid", [1, 3]), ("light_salmon", [1, 3]), ("gold", [1, 3]),
    ("navajo_white", [1, 3]), ("light_steel_blue", [1, 3]), ("light_cyan", [1, 3]),
    ("pink", [1, 3]), ("light_goldenrod", [1, 2, 3]), ("misty_rose", [1, 3]),
    ("thistle", [1, 3]), ("khaki", [1, 3]), ("light_yellow", [3]), ("honeydew", [2]),
    ("orange_red", [1]), ("salmon", [1]), ("pale_violet_red", [1]), ("orchid", [1, 2]),
    ("cornsilk", [1])]

/-- The shades of grey, in hundredths. -/
def greys : List Nat :=
  [0, 3, 7, 11, 15, 19, 23, 27, 30, 35, 37, 39, 42, 46, 50, 53, 54, 58, 62, 63, 66, 69, 70, 74, 78,
    82, 84, 85, 89, 93, 100]

/-- All names of colours. -/
def colorNames : List String :=
  plainColors ++ shadedColors.flatMap (fun c => c.2.map fun n => s!"{c.1}{n}")
    ++ greys.flatMap fun n => [s!"grey{n}", s!"gray{n}"]

/-- What stands in brackets behind a word, if a text is made up like that. -/
def bracketed? (word : String) (cs : List Char) : Option (List Char) :=
  let opening := (word ++ "(").toList
  if opening.isPrefixOf cs && cs.getLast? = some ')' && opening.length < cs.length then
    some ((cs.drop opening.length).dropLast)
  else none

/-- The value of decimal digits of any script. -/
def decimalValue (cs : List Char) : Nat :=
  cs.foldl (fun n c => n * 10 + digitValue c) 0

/-- A share of a primary colour. -/
def checkShare (cs : List Char) : Except StyleFault Nat :=
  if cs.isEmpty || 4300 < cs.length then .error .notANumber else .ok (decimalValue cs)

/-- Checks the shares of the primary colours. -/
def checkShares (cs : List Char) : Except StyleFault Unit := do
  let parts := splitWhere (· = ',') cs
  if parts.length ≠ 3 then throw .unknownWord
  let shares ← parts.mapM checkShare
  if shares.all (· ≤ 255) then return else throw .unknownWord

/-- Is it a digit of a colour's code? -/
def isCodeDigit (c : Char) : Bool := c.isDigit || ('a' ≤ c && c ≤ 'f')

/-- Checks a colour in lower case: a name, six digits, a number or three shares. -/
def checkColor (cs : List Char) : Except StyleFault Unit :=
  if colorNames.contains (String.ofList cs) then .ok ()
  else match cs with
    | '#' :: code =>
      if code.length = 6 && code.all isCodeDigit then .ok () else .error .unknownWord
    | _ =>
      match bracketed? "color" cs, bracketed? "rgb" cs with
      | some number, _ =>
        if !number.isEmpty && number.length ≤ 3 && number.all Char.isDigit
            && decimalValue number ≤ 255 then .ok ()
        else .error .unknownWord
      | none, some shares =>
        if !shares.isEmpty && shares.all (fun c => c = ',' || isDecimalDigit c) then
          checkShares shares
        else .error .unknownWord
      | none, none => .error .unknownWord

/-- Reads a colour: its text in lower case. -/
def color? (word : List Char) : Except StyleFault (List Char) := do
  checkColor (lowerChars word)
  return lowerChars word

/-! ## Styles -/

/-- The attributes in the order of normal forms, each with a short word for it, if it has one. -/
def attributes : List (String × Option String) :=
  [("bold", some "b"), ("dim", some "d"), ("italic", some "i"), ("underline", some "u"),
    ("blink", none), ("blink2", none), ("reverse", some "r"), ("conceal", some "c"),
    ("strike", some "s"), ("underline2", some "uu"), ("frame", none), ("encircle", none),
    ("overline", some "o")]

/-- The attribute that a word means. -/
def attribute? (word : List Char) : Option String :=
  let word := String.ofList word
  (attributes.find? fun a => a.1 = word || a.2 = some word).map (·.1)

/-- A style. -/
structure Style where
  /-- Attributes that are on or off, the ones set last in front. -/
  attributes : List (String × Bool) := []
  color : Option (List Char) := none
  background : Option (List Char) := none
  link : Option (List Char) := none
deriving Repr

namespace Style

/-- Reads a style from its words. -/
def ofWords (s : Style) : List (List Char) → Except StyleFault Style
  | [] => .ok s
  | word :: rest =>
    let lower := lowerChars word
    if lower = "on".toList then
      match rest with
      | [] => .error .unknownWord
      | word :: rest => do ofWords { s with background := some (← color? word) } rest
    else if lower = "not".toList then
      match rest with
      | [] => .error .unknownWord
      | word :: rest =>
        match attribute? word with
        | some a => ofWords { s with attributes := (a, false) :: s.attributes } rest
        | none => .error .unknownWord
    else if lower = "link".toList then
      match rest with
      | [] => .error .unknownWord
      | word :: rest => ofWords { s with link := some word } rest
    else
      match attribute? lower with
      | some a => ofWords { s with attributes := (a, true) :: s.attributes } rest
      | none => do ofWords { s with color := some (← color? lower) } rest

/-- Reads a style.  The word `none` alone means one without anything. -/
def ofText? (cs : List Char) : Except StyleFault Style :=
  if trim cs = "none".toList then .ok {} else ofWords {} (words cs)

/-- The normal form of a style. -/
def text (s : Style) : List Char :=
  let attributeWords := Console.attributes.filterMap fun a =>
    (s.attributes.lookup a.1).map fun isOn => ((if isOn then "" else "not ") ++ a.1).toList
  let colorWords := s.color.toList ++ (s.background.map ("on ".toList ++ ·)).toList
    ++ (s.link.map ("link ".toList ++ ·)).toList
  match attributeWords ++ colorWords with
  | [] => "none".toList
  | parts => [' '].intercalate parts

end Style

/-- The normal form of a text that may mean a style. -/
def normalize (cs : List Char) : Except StyleFault (List Char) :=
  match Style.ofText? cs with
  | .ok s => .ok s.text
  | .error .unknownWord => .ok (lowerChars (trim cs))
  | .error .notANumber => .error .notANumber

end Console
end Entigram
