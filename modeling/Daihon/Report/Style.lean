import Daihon.Decimal.Digits
import Daihon.Text.Blank
import Daihon.Text.Case
import Daihon.Value.Basic

/-!
# Styles

The name of a style is a row of words: qualities, which `not` turns off, a colour, a colour behind
`on` for the background, and an address behind `link`.  Two names of one style have the same normal
form.  A name that is none of a style is its own normal form, in lower case.
-/

namespace Daihon.Report

/-- The words for qualities, and what they are short for. -/
def qualityWords : List (String × String) :=
  [("dim", "dim"), ("d", "dim"), ("bold", "bold"), ("b", "bold"), ("italic", "italic"),
    ("i", "italic"), ("underline", "underline"), ("u", "underline"), ("blink", "blink"),
    ("blink2", "blink2"), ("reverse", "reverse"), ("r", "reverse"), ("conceal", "conceal"),
    ("c", "conceal"), ("strike", "strike"), ("s", "strike"), ("underline2", "underline2"),
    ("uu", "underline2"), ("frame", "frame"), ("encircle", "encircle"), ("overline", "overline"),
    ("o", "overline")]

/-- The qualities in the order in which a normal form lists them. -/
def qualities : List String :=
  ["bold", "dim", "italic", "underline", "blink", "blink2", "reverse", "conceal", "strike",
    "underline2", "frame", "encircle", "overline"]

/-! ## Colours -/

def colourNames : String := "
  black red green yellow blue magenta cyan white bright_black bright_red bright_green
  bright_yellow bright_blue bright_magenta bright_cyan bright_white grey0 gray0 navy_blue
  dark_blue blue3 blue1 dark_green deep_sky_blue4 dodger_blue3 dodger_blue2 green4 spring_green4
  turquoise4 deep_sky_blue3 dodger_blue1 green3 spring_green3 dark_cyan light_sea_green
  deep_sky_blue2 deep_sky_blue1 spring_green2 cyan3 dark_turquoise turquoise2 green1 spring_green1
  medium_spring_green cyan2 cyan1 dark_red deep_pink4 purple4 purple3 blue_violet orange4 grey37
  gray37 medium_purple4 slate_blue3 royal_blue1 chartreuse4 dark_sea_green4 pale_turquoise4
  steel_blue steel_blue3 cornflower_blue chartreuse3 cadet_blue sky_blue3 steel_blue1 pale_green3
  sea_green3 aquamarine3 medium_turquoise chartreuse2 sea_green2 sea_green1 aquamarine1
  dark_slate_gray2 dark_magenta dark_violet purple light_pink4 plum4 medium_purple3 slate_blue1
  yellow4 wheat4 grey53 gray53 light_slate_grey light_slate_gray medium_purple light_slate_blue
  dark_olive_green3 dark_sea_green light_sky_blue3 sky_blue2 dark_sea_green3 dark_slate_gray3
  sky_blue1 chartreuse1 light_green pale_green1 dark_slate_gray1 red3 medium_violet_red magenta3
  dark_orange3 indian_red hot_pink3 medium_orchid3 medium_orchid medium_purple2 dark_goldenrod
  light_salmon3 rosy_brown grey63 gray63 medium_purple1 gold3 dark_khaki navajo_white3 grey69
  gray69 light_steel_blue3 light_steel_blue yellow3 dark_sea_green2 light_cyan3 light_sky_blue1
  green_yellow dark_olive_green2 dark_sea_green1 pale_turquoise1 deep_pink3 magenta2 hot_pink2
  orchid medium_orchid1 orange3 light_pink3 pink3 plum3 violet light_goldenrod3 tan misty_rose3
  thistle3 plum2 khaki3 light_goldenrod2 light_yellow3 grey84 gray84 light_steel_blue1 yellow2
  dark_olive_green1 honeydew2 light_cyan1 red1 deep_pink2 deep_pink1 magenta1 orange_red1
  indian_red1 hot_pink dark_orange salmon1 light_coral pale_violet_red1 orchid2 orchid1 orange1
  sandy_brown light_salmon1 light_pink1 pink1 plum1 gold1 navajo_white1 misty_rose1 thistle1
  yellow1 light_goldenrod1 khaki1 wheat1 cornsilk1 grey100 gray100 grey3 gray3 grey7 gray7 grey11
  gray11 grey15 gray15 grey19 gray19 grey23 gray23 grey27 gray27 grey30 gray30 grey35 gray35
  grey39 gray39 grey42 gray42 grey46 gray46 grey50 gray50 grey54 gray54 grey58 gray58 grey62
  gray62 grey66 gray66 grey70 gray70 grey74 gray74 grey78 gray78 grey82 gray82 grey85 gray85
  grey89 gray89 grey93 gray93"

def isColourName (name : List Char) : Bool :=
  name == ['d', 'e', 'f', 'a', 'u', 'l', 't'] || (Text.words colourNames.toList).contains name

inductive ColourCheck where
  | valid
  | invalid
  /-- One of the three parts of a colour is empty. -/
  | emptyPart
  deriving DecidableEq, Repr

def commaParts : List Char → List (List Char)
  | [] => [[]]
  | c :: s =>
    if c = ',' then [] :: commaParts s
    else
      match commaParts s with
      | [] => [[c]]
      | p :: ps => (c :: p) :: ps

/-- Checks the three parts of a colour, each at most 255. -/
def checkParts (body : List Char) : ColourCheck :=
  if body.isEmpty || !body.all fun c => c.isDigit || c == ',' then .invalid
  else
    match commaParts body with
    | [r, g, b] =>
      if [r, g, b].any List.isEmpty then .emptyPart
      else if [r, g, b].all fun part => Decimal.ofDigits part ≤ 255 then .valid
      else .invalid
    | _ => .invalid

/-- The text between `opening` and a closing parenthesis at the end. -/
def enclosed? (opening s : List Char) : Option (List Char) :=
  if opening.isPrefixOf s && s.getLast? == some ')' then some (s.drop opening.length).dropLast
  else none

/-- Checks a word, in lower case, for a colour: a name, six hexadecimal digits behind a number sign, a
number up to 255, or three of them. -/
def checkColour (word : List Char) : ColourCheck :=
  if isColourName word then .valid
  else
    match word with
    | '#' :: digits =>
      if digits.length = 6 && (Decimal.ofBase? 16 digits).isSome then .valid else .invalid
    | _ =>
      match enclosed? ['c', 'o', 'l', 'o', 'r', '('] word with
      | some digits =>
        if 1 ≤ digits.length && digits.length ≤ 3 && digits.all Char.isDigit &&
            Decimal.ofDigits digits ≤ 255 then .valid
        else .invalid
      | none =>
        match enclosed? ['r', 'g', 'b', '('] word with
        | some body => checkParts body
        | none => .invalid

/-! ## Normal forms -/

structure Style where
  switches : Table Bool := []
  colour : Option String := none
  background : Option String := none
  link : Option String := none
  deriving DecidableEq, Repr

inductive StyleReading where
  | style (s : Style)
  | notStyle
  | emptyPart
  deriving DecidableEq, Repr

/-- A style with the colour that `set` puts into it, if the word is one. -/
def Style.withColour (word : List Char) (set : String → Style) : StyleReading :=
  let word := word.flatMap Text.lowerChar
  match checkColour word with
  | .valid => .style (set (.ofList word))
  | .invalid => .notStyle
  | .emptyPart => .emptyPart

/-- The style of one word, or of a word with the one behind it, over a style, and whether the second
word was used. -/
def Style.addWord (s : Style) (word : List Char) (next : Option (List Char)) : StyleReading × Bool :=
  let name := String.ofList (word.flatMap Text.lowerChar)
  if name == "on" then
    match next with
    | none => (.notStyle, true)
    | some next => (Style.withColour next fun c => { s with background := some c }, true)
  else if name == "not" then
    match next.bind fun next => Table.get? qualityWords (.ofList next) with
    | some quality => (.style { s with switches := s.switches.put quality false }, true)
    | none => (.notStyle, true)
  else if name == "link" then
    match next with
    | none => (.notStyle, true)
    | some next => (.style { s with link := some (.ofList next) }, true)
  else
    match Table.get? qualityWords name with
    | some quality => (.style { s with switches := s.switches.put quality true }, false)
    | none => (Style.withColour word fun c => { s with colour := some c }, false)

/-- Reads the words of a name over a style. -/
def Style.addWords (s : Style) : List (List Char) → StyleReading
  | [] => .style s
  | [word] => (s.addWord word none).1
  | word :: next :: rest =>
    match s.addWord word (some next) with
    | (.style s, true) => addWords s rest
    | (.style s, false) => addWords s (next :: rest)
    | (failed, _) => failed

def Style.text (s : Style) : String :=
  let switches := qualities.filterMap fun quality =>
    (Table.get? s.switches quality).map fun isOn => if isOn then quality else "not " ++ quality
  let words := switches ++ s.colour.toList ++ (s.background.map ("on " ++ ·)).toList ++
    (s.link.map ("link " ++ ·)).toList
  if words.isEmpty then "none" else " ".intercalate words

/-- Why a name has no normal form: a part of a colour is empty. -/
inductive StyleError where
  | emptyPart
  deriving DecidableEq, Repr

/-- The normal form of the name of a style. -/
def normalStyle (name : List Char) : Except StyleError String :=
  if Text.trim name == ['n', 'o', 'n', 'e'] then .ok "none"
  else
    match Style.addWords {} (Text.words name) with
    | .style s => .ok s.text
    | .notStyle => .ok (.ofList ((Text.trim name).flatMap Text.lowerChar))
    | .emptyPart => .error .emptyPart

end Daihon.Report
