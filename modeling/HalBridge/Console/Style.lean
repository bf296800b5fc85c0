import HalBridge.Text.Digit
import HalBridge.Text.Lines
import HalBridge.Text.LowerCase

/-!
Styles of console texts, as tags name them: attributes, a colour, a background and a link. A style
has one written form, so that two names of one style can be told to be the same.
-/

namespace HalBridge.Console

/-- The attributes of a style, in the order in which they are written. -/
def attributeNames : List String :=
  ["bold", "dim", "italic", "underline", "blink", "blink2", "reverse", "conceal", "strike",
   "underline2", "frame", "encircle", "overline"]

def attributeShortNames : List (String × String) :=
  [("b", "bold"), ("d", "dim"), ("i", "italic"), ("u", "underline"), ("r", "reverse"),
   ("c", "conceal"), ("s", "strike"), ("uu", "underline2"), ("o", "overline")]

def attribute? (word : String) : Option String :=
  if attributeNames.contains word then some word else attributeShortNames.lookup word

def colourNames : List String :=
  ["black", "red", "green", "yellow", "blue", "magenta", "cyan", "white", "bright_black",
   "bright_red", "bright_green", "bright_yellow", "bright_blue", "bright_magenta", "bright_cyan",
   "bright_white", "grey0", "gray0", "navy_blue", "dark_blue", "blue3", "blue1", "dark_green",
   "deep_sky_blue4", "dodger_blue3", "dodger_blue2", "green4", "spring_green4", "turquoise4",
   "deep_sky_blue3", "dodger_blue1", "green3", "spring_green3", "dark_cyan", "light_sea_green",
   "deep_sky_blue2", "deep_sky_blue1", "spring_green2", "cyan3", "dark_turquoise", "turquoise2",
   "green1", "spring_green1", "medium_spring_green", "cyan2", "cyan1", "dark_red", "deep_pink4",
   "purple4", "purple3", "blue_violet", "orange4", "grey37", "gray37", "medium_purple4",
   "slate_blue3", "royal_blue1", "chartreuse4", "dark_sea_green4", "pale_turquoise4",
   "steel_blue", "steel_blue3", "cornflower_blue", "chartreuse3", "cadet_blue", "sky_blue3",
   "steel_blue1", "pale_green3", "sea_green3", "aquamarine3", "medium_turquoise", "chartreuse2",
   "sea_green2", "sea_green1", "aquamarine1", "dark_slate_gray2", "dark_magenta", "dark_violet",
   "purple", "light_pink4", "plum4", "medium_purple3", "slate_blue1", "yellow4", "wheat4",
   "grey53", "gray53", "light_slate_grey", "light_slate_gray", "medium_purple",
   "light_slate_blue", "dark_olive_green3", "dark_sea_green", "light_sky_blue3", "sky_blue2",
   "dark_sea_green3", "dark_slate_gray3", "sky_blue1", "chartreuse1", "light_green",
   "pale_green1", "dark_slate_gray1", "red3", "medium_violet_red", "magenta3", "dark_orange3",
   "indian_red", "hot_pink3", "medium_orchid3", "medium_orchid", "medium_purple2",
   "dark_goldenrod", "light_salmon3", "rosy_brown", "grey63", "gray63", "medium_purple1", "gold3",
   "dark_khaki", "navajo_white3", "grey69", "gray69", "light_steel_blue3", "light_steel_blue",
   "yellow3", "dark_sea_green2", "light_cyan3", "light_sky_blue1", "green_yellow",
   "dark_olive_green2", "dark_sea_green1", "pale_turquoise1", "deep_pink3", "magenta2",
   "hot_pink2", "orchid", "medium_orchid1", "orange3", "light_pink3", "pink3", "plum3", "violet",
   "light_goldenrod3", "tan", "misty_rose3", "thistle3", "plum2", "khaki3", "light_goldenrod2",
   "light_yellow3", "grey84", "gray84", "light_steel_blue1", "yellow2", "dark_olive_green1",
   "honeydew2", "light_cyan1", "red1", "deep_pink2", "deep_pink1", "magenta1", "orange_red1",
   "indian_red1", "hot_pink", "dark_orange", "salmon1", "light_coral", "pale_violet_red1",
   "orchid2", "orchid1", "orange1", "sandy_brown", "light_salmon1", "light_pink1", "pink1",
   "plum1", "gold1", "navajo_white1", "misty_rose1", "thistle1", "yellow1", "light_goldenrod1",
   "khaki1", "wheat1", "cornsilk1", "grey100", "gray100", "grey3", "gray3", "grey7", "gray7",
   "grey11", "gray11", "grey15", "gray15", "grey19", "gray19", "grey23", "gray23", "grey27",
   "gray27", "grey30", "gray30", "grey35", "gray35", "grey39", "gray39", "grey42", "gray42",
   "grey46", "gray46", "grey50", "gray50", "grey54", "gray54", "grey58", "gray58", "grey62",
   "gray62", "grey66", "gray66", "grey70", "gray70", "grey74", "gray74", "grey78", "gray78",
   "grey82", "gray82", "grey85", "gray85", "grey89", "gray89", "grey93", "gray93"]

/-- Why a text names no style. -/
inductive StyleError where
  | unknown
  /-- A part of a colour is not read as a number. -/
  | unread (part : String) (error : Text.NumeralError)

/-- The text inside `name(…)`. -/
def argument? (name : String) (word : String) : Option (List Char) :=
  let opening := name.toList ++ ['(']
  let cs := word.toList
  let inner := (cs.drop opening.length).dropLast
  if opening.isPrefixOf cs && cs.length > opening.length && cs.getLast? = some ')' then some inner
  else none

def isHexColour (word : String) : Bool :=
  match word.toList with
  | '#' :: digits => digits.length = 6 && digits.all fun c => c.isDigit || ('a' ≤ c && c ≤ 'f')
  | _ => false

/-- Checks the number of a palette colour. -/
def checkPalette (digits : List Char) : Except StyleError Unit :=
  match Text.numeral? digits with
  | some number =>
      if digits.length ≤ 3 && digits.all Char.isDigit && number ≤ 255 then .ok ()
      else .error .unknown
  | none => .error .unknown

def colourPart (part : List Char) : Except StyleError Int :=
  match Text.readInteger (String.ofList part) with
  | .ok value => .ok value
  | .error error => .error (.unread (String.ofList part) error)

/-- Checks the three parts of a mixed colour. -/
def checkMixed (parts : List Char) : Except StyleError Unit := do
  let allowed := parts.all fun c => c = ',' || Text.isBlank c || (Text.decimalValue? c).isSome
  if parts.isEmpty || !allowed then throw .unknown
  match Text.splitChars ',' parts with
  | [red, green, blue] =>
      let values ← [red, green, blue].mapM colourPart
      if values.all (· ≤ 255) then return () else throw .unknown
  | _ => throw .unknown

/-- The written form of a colour. -/
def colour (word : String) : Except StyleError String := do
  let word := Text.trim (Text.lower word)
  if word = "default" || colourNames.contains word || isHexColour word then return word
  match argument? "color" word, argument? "rgb" word with
  | some digits, _ => checkPalette digits
  | none, some parts => checkMixed parts
  | none, none => throw .unknown
  return word

structure Style where
  attributes : List (String × Bool) := []
  colour : Option String := none
  background : Option String := none
  link : Option String := none

namespace Style

def setAttribute (style : Style) (name : String) (on : Bool) : Style :=
  { style with attributes := (name, on) :: style.attributes }

/-- Adds what a word says by itself. -/
def addWord (style : Style) (word : String) : Except StyleError Style := do
  let word := Text.lower word
  if ["on", "not", "link"].contains word then throw .unknown
  match attribute? word with
  | some name => return style.setAttribute name true
  | none => return { style with colour := some (← Console.colour word) }

/-- Reads the words of a style; `on`, `not` and `link` take the word after them along. -/
def ofWords (style : Style) : List String → Except StyleError Style
  | [] => .ok style
  | [word] => style.addWord word
  | word :: next :: rest =>
      match Text.lower word with
      | "on" => do ofWords { style with background := some (← Console.colour next) } rest
      | "link" => ofWords { style with link := some next } rest
      | "not" =>
          match attribute? next with
          | some name => ofWords (style.setAttribute name false) rest
          | none => .error .unknown
      | _ => do ofWords (← style.addWord word) (next :: rest)

def attributeText (style : Style) (name : String) : Option String :=
  (style.attributes.lookup name).map fun on => if on then name else "not " ++ name

/-- The written form of a style. -/
def toText (style : Style) : String :=
  let parts := attributeNames.filterMap style.attributeText ++ style.colour.toList
    ++ style.background.toList.map ("on " ++ ·) ++ style.link.toList.map ("link " ++ ·)
  if parts.isEmpty then "none" else String.intercalate " " parts

end Style

/-- The words of a text, divided by white space. -/
def words (s : String) : List String :=
  let spaced := s.toList.map fun c => if Text.isBlank c then ' ' else c
  ((Text.splitChars ' ' spaced).filter (!·.isEmpty)).map String.ofList

/-- The written form of the style that a tag names. A name of no style stands for itself in lower
case. -/
def styleName (name : String) : Except StyleError String :=
  if Text.trim name = "none" then .ok "none"
  else
    match Style.ofWords {} (words name) with
    | .ok style => .ok style.toText
    | .error .unknown => .ok (Text.lower (Text.trim name))
    | .error (.unread part error) => .error (.unread part error)

end HalBridge.Console
