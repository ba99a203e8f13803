import ExternalRepos.Text.Lower
import ExternalRepos.Text.Split

/-!
# Text styles

A style is written as words: attributes, some of which have a short name, `not`
before an attribute that is switched off, a colour, `on` before the colour of the
background, and `link` before the target of a link. Two writings mean the same
style if they have the same normal form, which lists the attributes under their
full names in a fixed order, then the colours, then the link. What is no style
has its text in small letters as normal form.
-/

namespace ExternalRepos.Text

/-- The names of colours, separated by blanks. -/
def colourNames : String := "
black red green yellow blue magenta cyan white bright_black bright_red bright_green bright_yellow
bright_blue bright_magenta bright_cyan bright_white grey0 gray0 navy_blue dark_blue blue3 blue1
dark_green deep_sky_blue4 dodger_blue3 dodger_blue2 green4 spring_green4 turquoise4 deep_sky_blue3
dodger_blue1 green3 spring_green3 dark_cyan light_sea_green deep_sky_blue2 deep_sky_blue1
spring_green2 cyan3 dark_turquoise turquoise2 green1 spring_green1 medium_spring_green cyan2 cyan1
dark_red deep_pink4 purple4 purple3 blue_violet orange4 grey37 gray37 medium_purple4 slate_blue3
royal_blue1 chartreuse4 dark_sea_green4 pale_turquoise4 steel_blue steel_blue3 cornflower_blue
chartreuse3 cadet_blue sky_blue3 steel_blue1 pale_green3 sea_green3 aquamarine3 medium_turquoise
chartreuse2 sea_green2 sea_green1 aquamarine1 dark_slate_gray2 dark_magenta dark_violet purple
light_pink4 plum4 medium_purple3 slate_blue1 yellow4 wheat4 grey53 gray53 light_slate_grey
light_slate_gray medium_purple light_slate_blue dark_olive_green3 dark_sea_green light_sky_blue3
sky_blue2 dark_sea_green3 dark_slate_gray3 sky_blue1 chartreuse1 light_green pale_green1
dark_slate_gray1 red3 medium_violet_red magenta3 dark_orange3 indian_red hot_pink3 medium_orchid3
medium_orchid medium_purple2 dark_goldenrod light_salmon3 rosy_brown grey63 gray63 medium_purple1
gold3 dark_khaki navajo_white3 grey69 gray69 light_steel_blue3 light_steel_blue yellow3
dark_sea_green2 light_cyan3 light_sky_blue1 green_yellow dark_olive_green2 dark_sea_green1
pale_turquoise1 deep_pink3 magenta2 hot_pink2 orchid medium_orchid1 orange3 light_pink3 pink3
plum3 violet light_goldenrod3 tan misty_rose3 thistle3 plum2 khaki3 light_goldenrod2 light_yellow3
grey84 gray84 light_steel_blue1 yellow2 dark_olive_green1 honeydew2 light_cyan1 red1 deep_pink2
deep_pink1 magenta1 orange_red1 indian_red1 hot_pink dark_orange salmon1 light_coral
pale_violet_red1 orchid2 orchid1 orange1 sandy_brown light_salmon1 light_pink1 pink1 plum1 gold1
navajo_white1 misty_rose1 thistle1 yellow1 light_goldenrod1 khaki1 wheat1 cornsilk1 grey100
gray100 grey3 gray3 grey7 gray7 grey11 gray11 grey15 gray15 grey19 gray19 grey23 gray23 grey27
gray27 grey30 gray30 grey35 gray35 grey39 gray39 grey42 gray42 grey46 gray46 grey50 gray50 grey54
gray54 grey58 gray58 grey62 gray62 grey66 gray66 grey70 gray70 grey74 gray74 grey78 gray78 grey82
gray82 grey85 gray85 grey89 gray89 grey93 gray93
"

/-- A decimal number of at most 255, as one of the parts of a colour. -/
def isColourPart (digits : List Char) : Bool :=
  match (String.ofList digits).toNat? with
  | some number => digits.all Char.isDigit && decide (number ≤ 255)
  | none => false

/-- What stands between the parentheses behind a name. -/
def argument? (name : String) (word : List Char) : Option (List Char) :=
  let opening := name.toList ++ ['(']
  if opening.isPrefixOf word && word.getLast? = some ')' then
    some ((word.drop opening.length).dropLast)
  else none

/-- Whether a word in small letters is a colour: a name, a number, or its three parts. -/
def isColour (word : List Char) : Bool :=
  word = "default".toList || (blankSeparated colourNames.toList).contains word ||
  (match word with
    | '#' :: digits => digits.length = 6 && digits.all fun digit =>
        digit.isDigit || ('a' ≤ digit && digit ≤ 'f')
    | _ => false) ||
  (match argument? "color" word with
    | some digits => digits.length ≤ 3 && isColourPart digits
    | none => false) ||
  (match argument? "rgb" word with
    | some parts => (parts.splitOn ',').length = 3 && (parts.splitOn ',').all isColourPart
    | none => false)

/-- The attributes of styles in the order of their normal form. -/
def styleAttributes : List String :=
  ["bold", "dim", "italic", "underline", "blink", "blink2", "reverse", "conceal", "strike",
    "underline2", "frame", "encircle", "overline"]

/-- The short names of attributes. -/
def shortAttributes : List (String × String) := [
  ("b", "bold"), ("d", "dim"), ("i", "italic"), ("u", "underline"), ("r", "reverse"),
  ("c", "conceal"), ("s", "strike"), ("uu", "underline2"), ("o", "overline")]

/-- The attribute of a name. -/
def attribute? (word : List Char) : Option String :=
  let name := String.ofList word
  if styleAttributes.contains name then some name else shortAttributes.lookup name

/-- A style. -/
structure Style where
  /-- Whether attributes are on or off; the first mention of one counts. -/
  attributes : List (String × Bool)
  colour : Option (List Char)
  background : Option (List Char)
  link : Option (List Char)
  deriving DecidableEq, Inhabited

namespace Style

/-- The style that changes nothing. -/
def none : Style := ⟨[], .none, .none, .none⟩

/-- The style with an attribute switched on or off. -/
def setAttribute (style : Style) (name : String) (on : Bool) : Style :=
  { style with attributes := (name, on) :: style.attributes }

/-- The style that some words add to a style; none if a word has no meaning. -/
def read? (style : Style) : List (List Char) → Option Style
  | [] => some style
  | word :: rest =>
      let small := lower word
      if small = "on".toList then
        match rest with
        | colour :: later =>
            if isColour (lower colour) then
              read? { style with background := some (lower colour) } later
            else .none
        | [] => .none
      else if small = "not".toList then
        match rest with
        | name :: later => (attribute? name).bind fun name =>
            read? (style.setAttribute name false) later
        | [] => .none
      else if small = "link".toList then
        match rest with
        | target :: later => read? { style with link := some target } later
        | [] => .none
      else
        match attribute? small with
        | some name => read? (style.setAttribute name true) rest
        | .none => if isColour small then read? { style with colour := some small } rest else .none

/-- The words of the normal form. -/
def words (style : Style) : List (List Char) :=
  (styleAttributes.flatMap fun name =>
    match style.attributes.lookup name with
    | some true => [name.toList]
    | some false => ["not".toList, name.toList]
    | .none => []) ++
  style.colour.toList ++
  (style.background.map fun colour => ["on".toList, colour]).getD [] ++
  (style.link.map fun target => ["link".toList, target]).getD []

/-- The normal form of a style. -/
def written (style : Style) : List Char :=
  match style.words with
  | [] => "none".toList
  | words => List.intercalate [' '] words

end Style

/-- The normal form of the writing of a style. -/
def styleNormalForm (text : List Char) : List Char :=
  let words := blankSeparated text
  if words = ["none".toList] then Style.none.written
  else
    match Style.none.read? words with
    | some style => style.written
    | none => lower (trim text)

end ExternalRepos.Text
