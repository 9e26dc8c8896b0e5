import Recurrence.Text.Blank
import Recurrence.Text.Case
import Recurrence.Text.Digit
import Recurrence.Text.Integer
import Recurrence.Text.Radix

/-! Names of text styles: words for attributes and colours, in any order. Two names of one style
have the same normal form; a name that is no style's stands for itself in small letters. A colour in
three parts, one of which is no number, is a fault. -/

namespace Recurrence.Terminal

/-- The words between blanks. -/
def blankSeparated : Text → List Text
  | [] => []
  | c :: r =>
    if isBlank c then blankSeparated r
    else
      match r with
      | [] => [[c]]
      | d :: _ =>
        if isBlank d then [c] :: blankSeparated r
        else
          match blankSeparated r with
          | [] => [[c]]
          | w :: ws => (c :: w) :: ws

/-- The attributes in their order, each with its other name. -/
def attributes : List (Text × Option Text) :=
  [("bold".toList, some ['b']), ("dim".toList, some ['d']), ("italic".toList, some ['i']),
   ("underline".toList, some ['u']), ("blink".toList, none), ("blink2".toList, none),
   ("reverse".toList, some ['r']), ("conceal".toList, some ['c']), ("strike".toList, some ['s']),
   ("underline2".toList, some ['u', 'u']), ("frame".toList, none), ("encircle".toList, none),
   ("overline".toList, some ['o'])]

def attribute? (word : Text) : Option Text :=
  (attributes.find? fun a => a.1 == word || a.2 == some word).map Prod.fst

def colourNames : List Text :=
  blankSeparated (String.toList (
    "black red green yellow blue magenta cyan white bright_black bright_red bright_green " ++
    "bright_yellow bright_blue bright_magenta bright_cyan bright_white grey0 gray0 " ++
    "navy_blue dark_blue blue3 blue1 dark_green deep_sky_blue4 dodger_blue3 dodger_blue2 " ++
    "green4 spring_green4 turquoise4 deep_sky_blue3 dodger_blue1 green3 spring_green3 " ++
    "dark_cyan light_sea_green deep_sky_blue2 deep_sky_blue1 spring_green2 cyan3 " ++
    "dark_turquoise turquoise2 green1 spring_green1 medium_spring_green cyan2 cyan1 " ++
    "dark_red deep_pink4 purple4 purple3 blue_violet orange4 grey37 gray37 " ++
    "medium_purple4 slate_blue3 royal_blue1 chartreuse4 dark_sea_green4 pale_turquoise4 " ++
    "steel_blue steel_blue3 cornflower_blue chartreuse3 cadet_blue sky_blue3 steel_blue1 " ++
    "pale_green3 sea_green3 aquamarine3 medium_turquoise chartreuse2 sea_green2 " ++
    "sea_green1 aquamarine1 dark_slate_gray2 dark_magenta dark_violet purple light_pink4 " ++
    "plum4 medium_purple3 slate_blue1 yellow4 wheat4 grey53 gray53 light_slate_grey " ++
    "light_slate_gray medium_purple light_slate_blue dark_olive_green3 dark_sea_green " ++
    "light_sky_blue3 sky_blue2 dark_sea_green3 dark_slate_gray3 sky_blue1 chartreuse1 " ++
    "light_green pale_green1 dark_slate_gray1 red3 medium_violet_red magenta3 " ++
    "dark_orange3 indian_red hot_pink3 medium_orchid3 medium_orchid medium_purple2 " ++
    "dark_goldenrod light_salmon3 rosy_brown grey63 gray63 medium_purple1 gold3 " ++
    "dark_khaki navajo_white3 grey69 gray69 light_steel_blue3 light_steel_blue yellow3 " ++
    "dark_sea_green2 light_cyan3 light_sky_blue1 green_yellow dark_olive_green2 " ++
    "dark_sea_green1 pale_turquoise1 deep_pink3 magenta2 hot_pink2 orchid medium_orchid1 " ++
    "orange3 light_pink3 pink3 plum3 violet light_goldenrod3 tan misty_rose3 thistle3 " ++
    "plum2 khaki3 light_goldenrod2 light_yellow3 grey84 gray84 light_steel_blue1 yellow2 " ++
    "dark_olive_green1 honeydew2 light_cyan1 red1 deep_pink2 deep_pink1 magenta1 " ++
    "orange_red1 indian_red1 hot_pink dark_orange salmon1 light_coral pale_violet_red1 " ++
    "orchid2 orchid1 orange1 sandy_brown light_salmon1 light_pink1 pink1 plum1 gold1 " ++
    "navajo_white1 misty_rose1 thistle1 yellow1 light_goldenrod1 khaki1 wheat1 cornsilk1 " ++
    "grey100 gray100 grey3 gray3 grey7 gray7 grey11 gray11 grey15 gray15 grey19 gray19 " ++
    "grey23 gray23 grey27 gray27 grey30 gray30 grey35 gray35 grey39 gray39 grey42 gray42 " ++
    "grey46 gray46 grey50 gray50 grey54 gray54 grey58 gray58 grey62 gray62 grey66 gray66 " ++
    "grey70 gray70 grey74 gray74 grey78 gray78 grey82 gray82 grey85 gray85 grey89 gray89 " ++
    "grey93 gray93" ++
    " default"))

/-- What stands between a start and a closing bracket at the end. -/
def inBrackets? (start t : Text) : Option Text :=
  (Text.after? start t).bind fun r => if r.getLast? = some ')' then some r.dropLast else none

/-- A number of a colour, in at most three digits. -/
def isColourNumber (t : Text) : Bool :=
  t.all Char.isDigit && !t.isEmpty && decide (t.length ≤ 3)
    && (Integer.read? t).any fun n => decide (n ≤ 255)

/-- Three parts of a colour, none above 255. Of three parts each has to be an integer. -/
def isColourMix (t : Text) : Except Fault Bool :=
  let parts := Text.pieces ',' t
  if !t.isEmpty && parts.length == 3 && parts.all (·.all isDigit) then
    (parts.mapM Integer.read).map (·.all fun n => decide (n ≤ 255))
  else .ok false

/-- A colour by its name in small letters, six hexadecimal digits, a number, or three parts. -/
def isColour (t : Text) : Except Fault Bool :=
  let isNamed := colourNames.contains t
  let isHex := match t with
    | '#' :: r => r.length == 6 && r.all isHexDigit
    | _ => false
  let isNumbered := (inBrackets? "color(".toList t).any isColourNumber
  if isNamed || isHex || isNumbered then .ok true
  else ((inBrackets? "rgb(".toList t).map isColourMix).getD (.ok false)

structure Style where
  /-- Attributes switched on or off. -/
  attributes : List (Text × Bool) := []
  colour : Option Text := none
  ground : Option Text := none
  link : Option Text := none

namespace Style

/-- Switches an attribute on or off. -/
def switch (s : Style) (name : Text) (on : Bool) : Style :=
  { s with attributes := (name, on) :: s.attributes.filter fun a => a.1 != name }

/-- The style after some words; none if they are no style's name. -/
def ofWords? : Style → List Text → Except Fault (Option Style)
  | s, [] => .ok (some s)
  | s, word :: rest =>
    if word.lower = "on".toList then
      match rest with
      | [] => .ok none
      | colour :: rest =>
        (isColour colour.lower).bind fun found =>
          if found then ofWords? { s with ground := some colour.lower } rest else .ok none
    else if word.lower = "not".toList then
      match rest with
      | [] => .ok none
      | name :: rest =>
        match attribute? name with
        | none => .ok none
        | some a => ofWords? (s.switch a false) rest
    else if word.lower = "link".toList then
      match rest with
      | [] => .ok none
      | link :: rest => ofWords? { s with link := some link } rest
    else
      match attribute? word.lower with
      | some a => ofWords? (s.switch a true) rest
      | none =>
        (isColour word.lower).bind fun found =>
          if found then ofWords? { s with colour := some word.lower } rest else .ok none

/-- The style with a name, if it is a style's. -/
def named? (t : Text) : Except Fault (Option Style) := ofWords? {} (blankSeparated t)

def attributeWords (s : Style) (name : Text) : List Text :=
  match s.attributes.find? fun a => a.1 == name with
  | none => []
  | some (_, true) => [name]
  | some (_, false) => ["not".toList, name]

/-- The name of a style with its words in order. -/
def name (s : Style) : Text :=
  let words := Terminal.attributes.flatMap (fun a => s.attributeWords a.1)
    ++ s.colour.toList
    ++ (s.ground.map fun g => ["on".toList, g]).getD []
    ++ (s.link.map fun l => ["link".toList, l]).getD []
  if words.isEmpty then "none".toList else Text.joined [' '] words

end Style

/-- The normal form of a style's name. -/
def normalName (t : Text) : Except Fault Text :=
  if t.strip = "none".toList then .ok t.strip
  else (Style.named? t).map fun style? => (style?.map Style.name).getD t.strip.lower

end Recurrence.Terminal
