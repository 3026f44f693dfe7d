import NodeForms.Text.Blank
import NodeForms.Text.Case
import NodeForms.Text.Numeral

/-!
# Styles of text

A style is described by words: attributes, each of which can be denied by `not`, the colour
of the letters, the colour of the ground after `on`, and a target after `link`. Two
descriptions name the same style if they say the same in another order or in short words; any
other description names itself, whatever the case of its letters. A colour that is told by
three levels of which one is missing makes a description that cannot even be named.
-/

namespace NodeForms

/-- Why words describe no style. -/
inductive StyleFault where
  | unknown
  | missingLevel
deriving DecidableEq, Repr

/-- A style, as far as it is described. -/
structure TextStyle where
  attributes : List (String × Bool) := []
  color : Option String := none
  ground : Option String := none
  link : Option String := none

namespace TextStyle

def attributeNames : List String :=
  ["bold", "dim", "italic", "underline", "blink", "blink2", "reverse", "conceal", "strike",
   "underline2", "frame", "encircle", "overline"]

def attribute? (word : String) : Option String :=
  match word with
  | "b" => some "bold"
  | "d" => some "dim"
  | "i" => some "italic"
  | "u" => some "underline"
  | "uu" => some "underline2"
  | "r" => some "reverse"
  | "c" => some "conceal"
  | "s" => some "strike"
  | "o" => some "overline"
  | _ => attributeNames.find? fun name => name == word

def colorNames : List String :=
  ["default", "black", "red", "green", "yellow", "blue", "magenta", "cyan", "white",
   "bright_black", "bright_red", "bright_green", "bright_yellow", "bright_blue", "bright_magenta",
   "bright_cyan", "bright_white", "grey0", "gray0", "navy_blue", "dark_blue", "blue3", "blue1",
   "dark_green", "deep_sky_blue4", "dodger_blue3", "dodger_blue2", "green4", "spring_green4",
   "turquoise4", "deep_sky_blue3", "dodger_blue1", "green3", "spring_green3", "dark_cyan",
   "light_sea_green", "deep_sky_blue2", "deep_sky_blue1", "spring_green2", "cyan3",
   "dark_turquoise", "turquoise2", "green1", "spring_green1", "medium_spring_green", "cyan2",
   "cyan1", "dark_red", "deep_pink4", "purple4", "purple3", "blue_violet", "orange4", "grey37",
   "gray37", "medium_purple4", "slate_blue3", "royal_blue1", "chartreuse4", "dark_sea_green4",
   "pale_turquoise4", "steel_blue", "steel_blue3", "cornflower_blue", "chartreuse3", "cadet_blue",
   "sky_blue3", "steel_blue1", "pale_green3", "sea_green3", "aquamarine3", "medium_turquoise",
   "chartreuse2", "sea_green2", "sea_green1", "aquamarine1", "dark_slate_gray2", "dark_magenta",
   "dark_violet", "purple", "light_pink4", "plum4", "medium_purple3", "slate_blue1", "yellow4",
   "wheat4", "grey53", "gray53", "light_slate_grey", "light_slate_gray", "medium_purple",
   "light_slate_blue", "dark_olive_green3", "dark_sea_green", "light_sky_blue3", "sky_blue2",
   "dark_sea_green3", "dark_slate_gray3", "sky_blue1", "chartreuse1", "light_green",
   "pale_green1", "dark_slate_gray1", "red3", "medium_violet_red", "magenta3", "dark_orange3",
   "indian_red", "hot_pink3", "medium_orchid3", "medium_orchid", "medium_purple2",
   "dark_goldenrod", "light_salmon3", "rosy_brown", "grey63", "gray63", "medium_purple1", "gold3",
   "dark_khaki", "navajo_white3", "grey69", "gray69", "light_steel_blue3", "light_steel_blue",
   "yellow3", "dark_sea_green2", "light_cyan3", "light_sky_blue1", "green_yellow",
   "dark_olive_green2", "dark_sea_green1", "pale_turquoise1", "deep_pink3", "magenta2",
   "hot_pink2", "orchid", "medium_orchid1", "orange3", "light_pink3", "pink3", "plum3", "violet",
   "light_goldenrod3", "tan", "misty_rose3", "thistle3", "plum2", "khaki3", "light_goldenrod2",
   "light_yellow3", "grey84", "gray84", "light_steel_blue1", "yellow2", "dark_olive_green1",
   "honeydew2", "light_cyan1", "red1", "deep_pink2", "deep_pink1", "magenta1", "orange_red1",
   "indian_red1", "hot_pink", "dark_orange", "salmon1", "light_coral", "pale_violet_red1",
   "orchid2", "orchid1", "orange1", "sandy_brown", "light_salmon1", "light_pink1", "pink1",
   "plum1", "gold1", "navajo_white1", "misty_rose1", "thistle1", "yellow1", "light_goldenrod1",
   "khaki1", "wheat1", "cornsilk1", "grey100", "gray100", "grey3", "gray3", "grey7", "gray7",
   "grey11", "gray11", "grey15", "gray15", "grey19", "gray19", "grey23", "gray23", "grey27",
   "gray27", "grey30", "gray30", "grey35", "gray35", "grey39", "gray39", "grey42", "gray42",
   "grey46", "gray46", "grey50", "gray50", "grey54", "gray54", "grey58", "gray58", "grey62",
   "gray62", "grey66", "gray66", "grey70", "gray70", "grey74", "gray74", "grey78", "gray78",
   "grey82", "gray82", "grey85", "gray85", "grey89", "gray89", "grey93", "gray93"]

def isHexDigit (c : Char) : Bool := c.isDigit || ('a' ≤ c && c ≤ 'f')

/-- Whether characters are a number up to 255 of at most three digits. -/
def isLevel (chars : List Char) : Bool :=
  !chars.isEmpty && chars.length ≤ 3 && chars.all Char.isDigit
    && Nat.ofDigitChars 10 chars 0 ≤ 255

def isLevelOfAnyScript (chars : List Char) : Bool :=
  isLevel ((plainNumeral chars).dropWhile (· == '0')) || (plainNumeral chars).all (· == '0')

def commaParts : List Char → List (List Char)
  | [] => [[]]
  | c :: rest =>
      if c = ',' then [] :: commaParts rest
      else
        match commaParts rest with
        | [] => [[c]]
        | part :: parts => (c :: part) :: parts

def bracketed? (opening chars : List Char) : Option (List Char) :=
  if opening.isPrefixOf chars && chars.getLast? == some ')' then
    some ((chars.drop opening.length).dropLast)
  else none

def checkLevels (levels : List Char) : Except StyleFault Unit :=
  let parts := commaParts levels
  if levels.isEmpty || !levels.all (fun c => c == ',' || (digitOf? c).isSome)
      || parts.length != 3 then .error .unknown
  else if parts.any List.isEmpty then .error .missingLevel
  else if parts.all isLevelOfAnyScript then .ok ()
  else .error .unknown

def checkColor (word : String) : Except StyleFault Unit :=
  let chars := word.toList
  if colorNames.contains word
      || (chars.head? == some '#' && chars.length == 7 && (chars.drop 1).all isHexDigit)
      || (bracketed? "color(".toList chars).any isLevel then .ok ()
  else
    match bracketed? "rgb(".toList chars with
    | some levels => checkLevels levels
    | none => .error .unknown

def withWord (style : TextStyle) (word : String) : Except StyleFault TextStyle :=
  match attribute? word with
  | some name => .ok { style with attributes := (name, true) :: style.attributes }
  | none => (checkColor word).map fun _ => { style with color := some word }

def without (style : TextStyle) (word : String) : Except StyleFault TextStyle :=
  match attribute? word with
  | some name => .ok { style with attributes := (name, false) :: style.attributes }
  | none => .error .unknown

def onGround (style : TextStyle) (word : String) : Except StyleFault TextStyle :=
  (checkColor word).map fun _ => { style with ground := some word }

def smallWord (chars : List Char) : String := String.ofList (smallLetters chars)

/-- Read the words of a description. -/
def read (style : TextStyle) : List (List Char) → Except StyleFault TextStyle
  | [] => .ok style
  | [word] => style.withWord (smallWord word)
  | first :: second :: rest =>
      match smallWord first with
      | "on" => do read (← style.onGround (smallWord second)) rest
      | "not" => do read (← style.without (String.ofList second)) rest
      | "link" => read { style with link := some (String.ofList second) } rest
      | word => do read (← style.withWord word) (second :: rest)

def words (style : TextStyle) : List String :=
  (attributeNames.flatMap fun name =>
    match style.attributes.lookup name with
    | some true => [name]
    | some false => ["not", name]
    | none => [])
  ++ style.color.toList
  ++ (style.ground.elim [] fun color => ["on", color])
  ++ (style.link.elim [] fun target => ["link", target])

def description (style : TextStyle) : String :=
  if style.words.isEmpty then "none" else " ".intercalate style.words

end TextStyle

def blankWords (chars : List Char) : List (List Char) :=
  chars.foldr (fun c words =>
    if isBlank c then [] :: words
    else
      match words with
      | [] => [[c]]
      | word :: rest => (c :: word) :: rest) [[]] |>.filter fun word => !word.isEmpty

def readStyle (chars : List Char) : Except StyleFault TextStyle :=
  if trimBlanks chars = "none".toList then .ok {} else TextStyle.read {} (blankWords chars)

/-- The style that characters describe, told apart from others by its text, unless a level of
a colour is missing. -/
def styleName? (chars : List Char) : Option String :=
  match readStyle chars with
  | .ok style => some style.description
  | .error .unknown => some (String.ofList (smallLetters (trimBlanks chars)))
  | .error .missingLevel => none

end NodeForms
