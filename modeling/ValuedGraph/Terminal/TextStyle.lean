import ValuedGraph.Number.Reading
import ValuedGraph.Text.Blank
import ValuedGraph.Text.Lowercase

/-!
# Text styles

A style is written in words: attributes, which `not` turns off, the color of the text, after
`on` that of the ground, and after `link` an address. Two spellings of one style have the same
normal form, so that a tag can be closed under another spelling than it was opened under.

* `TextStyle.read`: the style that words write.
* `TextStyle.normalForm`: the one spelling that stands for all of them.
-/

namespace ValuedGraph

/-- **What a style says.** -/
structure TextStyle where
  attributes : List (String × Bool) := []
  color : Option String := none
  ground : Option String := none
  link : Option String := none
  deriving DecidableEq, Repr

namespace TextStyle

/-- The attributes, in the order of the normal form, each with its spellings. -/
def attributeNames : List (String × List String) :=
  [("bold", ["bold", "b"]), ("dim", ["dim", "d"]), ("italic", ["italic", "i"]),
   ("underline", ["underline", "u"]), ("blink", ["blink"]), ("blink2", ["blink2"]),
   ("reverse", ["reverse", "r"]), ("conceal", ["conceal", "c"]), ("strike", ["strike", "s"]),
   ("underline2", ["underline2", "uu"]), ("frame", ["frame"]), ("encircle", ["encircle"]),
   ("overline", ["overline", "o"])]

/-- The attribute with a spelling. -/
def attribute? (word : String) : Option String :=
  (attributeNames.find? fun e => e.2.contains word).map Prod.fst

/-- The names of the colors of a terminal, with blanks between. -/
def colorCatalogue : String :=
"default
black red green yellow blue magenta cyan white bright_black bright_red bright_green
bright_yellow bright_blue bright_magenta bright_cyan bright_white grey0 gray0 navy_blue
dark_blue blue3 blue1 dark_green deep_sky_blue4 dodger_blue3 dodger_blue2 green4 spring_green4
turquoise4 deep_sky_blue3 dodger_blue1 green3 spring_green3 dark_cyan light_sea_green
deep_sky_blue2 deep_sky_blue1 spring_green2 cyan3 dark_turquoise turquoise2 green1 spring_green1
medium_spring_green cyan2 cyan1 dark_red deep_pink4 purple4 purple3 blue_violet orange4 grey37
gray37 medium_purple4 slate_blue3 royal_blue1 chartreuse4 dark_sea_green4 pale_turquoise4
steel_blue steel_blue3 cornflower_blue chartreuse3 cadet_blue sky_blue3 steel_blue1 pale_green3
sea_green3 aquamarine3 medium_turquoise chartreuse2 sea_green2 sea_green1 aquamarine1
dark_slate_gray2 dark_magenta dark_violet purple light_pink4 plum4 medium_purple3 slate_blue1
yellow4 wheat4 grey53 gray53 light_slate_grey light_slate_gray medium_purple light_slate_blue
dark_olive_green3 dark_sea_green light_sky_blue3 sky_blue2 dark_sea_green3 dark_slate_gray3
sky_blue1 chartreuse1 light_green pale_green1 dark_slate_gray1 red3 medium_violet_red magenta3
dark_orange3 indian_red hot_pink3 medium_orchid3 medium_orchid medium_purple2 dark_goldenrod
light_salmon3 rosy_brown grey63 gray63 medium_purple1 gold3 dark_khaki navajo_white3 grey69
gray69 light_steel_blue3 light_steel_blue yellow3 dark_sea_green2 light_cyan3 light_sky_blue1
green_yellow dark_olive_green2 dark_sea_green1 pale_turquoise1 deep_pink3 magenta2 hot_pink2
orchid medium_orchid1 orange3 light_pink3 pink3 plum3 violet light_goldenrod3 tan misty_rose3
thistle3 plum2 khaki3 light_goldenrod2 light_yellow3 grey84 gray84 light_steel_blue1 yellow2
dark_olive_green1 honeydew2 light_cyan1 red1 deep_pink2 deep_pink1 magenta1 orange_red1
indian_red1 hot_pink dark_orange salmon1 light_coral pale_violet_red1 orchid2 orchid1 orange1
sandy_brown light_salmon1 light_pink1 pink1 plum1 gold1 navajo_white1 misty_rose1 thistle1
yellow1 light_goldenrod1 khaki1 wheat1 cornsilk1 grey100 gray100 grey3 gray3 grey7 gray7 grey11
gray11 grey15 gray15 grey19 gray19 grey23 gray23 grey27 gray27 grey30 gray30 grey35 gray35
grey39 gray39 grey42 gray42 grey46 gray46 grey50 gray50 grey54 gray54 grey58 gray58 grey62
gray62 grey66 gray66 grey70 gray70 grey74 gray74 grey78 gray78 grey82 gray82 grey85 gray85
grey89 gray89 grey93 gray93"

/-- The names of the colors of a terminal. -/
def colorNames : List String :=
  (colorCatalogue.toList.splitOnP fun c => c == ' ' || c == '\n').map String.ofList

/-- The number of at most 255 that digits write. -/
def isByte (cs : List Char) : Bool :=
  !cs.isEmpty && cs.all isDigit && decimalNumber cs ≤ 255

/-- What stands between an opening and a closing text. -/
def enclosed? (opening closing cs : List Char) : Option (List Char) :=
  if opening.isPrefixOf cs && closing.isSuffixOf cs && opening.length + closing.length ≤ cs.length
  then some ((cs.drop opening.length).take (cs.length - opening.length - closing.length))
  else none

/-- **Whether a word is a color:** a name, six hexadecimal digits after a hash sign, the number
of a color, or three bytes. -/
def isColor (word : String) : Bool :=
  let cs := word.toList
  colorNames.contains word ||
    (cs.head? == some '#' && cs.length = 7 && cs.tail.all fun c => (hexValue? c).isSome) ||
    ((enclosed? "color(".toList [')'] cs).any fun body => body.length ≤ 3 && isByte body) ||
    ((enclosed? "rgb(".toList [')'] cs).any fun body =>
      let parts := body.splitOn ','
      parts.length = 3 && parts.all isByte)

/-- Turns an attribute on or off. -/
def set (s : TextStyle) (name : String) (state : Bool) : TextStyle :=
  { s with attributes := (name, state) :: s.attributes }

/-- **The style that words write,** on top of one. -/
def read : List String → TextStyle → Option TextStyle
  | [], s => some s
  | word :: rest, s =>
    let word := lowercase word
    if word = "on" then
      match rest with
      | color :: rest =>
        let color := lowercase color
        if isColor color then read rest { s with ground := some color } else none
      | [] => none
    else if word = "not" then
      match rest with
      | name :: rest => (attribute? name).bind fun a => read rest (s.set a false)
      | [] => none
    else if word = "link" then
      match rest with
      | address :: rest => read rest { s with link := some address }
      | [] => none
    else
      match attribute? word with
      | some a => read rest (s.set a true)
      | none => if isColor word then read rest { s with color := some word } else none

/-- The words of a style in the order of the normal form. -/
def words (s : TextStyle) : List String :=
  attributeNames.flatMap (fun (name, _) =>
    match s.attributes.lookup name with
    | some true => [name]
    | some false => ["not", name]
    | none => []) ++
  s.color.toList ++ s.ground.toList.flatMap (fun c => ["on", c]) ++
  s.link.toList.flatMap fun address => ["link", address]

/-- The text of a style. One that says nothing is called `none`. -/
def text (s : TextStyle) : String :=
  if s.words.isEmpty then "none" else " ".intercalate s.words

/-- The words of a text, without the blanks between them. -/
def wordsOf (s : String) : List String :=
  ((s.toList.splitOnP isBlank).filter fun w => !w.isEmpty).map String.ofList

/-- **The one spelling that stands for all spellings of a style.** Words that write no style
stand for themselves, in lower case. -/
def normalForm (s : String) : String :=
  if strip s = "none" then "none"
  else ((read (wordsOf s) {}).map text).getD (lowercase (strip s))

end TextStyle

end ValuedGraph
