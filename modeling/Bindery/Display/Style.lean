import Bindery.Text.Blank
import Bindery.Text.Case
import Bindery.Text.Digits
import Bindery.Text.Split

/-!
# Styles of displayed text

A style is written as words: attributes such as `bold`, colours, and a background after `on`.
Two texts that describe the same style have the same normal form.  A text that describes no
style is its own normal form, apart from its case.
-/

namespace Bindery.Display

open Bindery.Text

/-! ## Names of attributes and colours -/

/-- The attributes of a style, in the order in which a normal form has them, each with its other
names. -/
def attributeNames : List (String × List String) := [
  ("bold", ["b"]), ("dim", ["d"]), ("italic", ["i"]), ("underline", ["u"]), ("blink", []),
  ("blink2", []), ("reverse", ["r"]), ("conceal", ["c"]), ("strike", ["s"]),
  ("underline2", ["uu"]), ("frame", []), ("encircle", []), ("overline", ["o"])]

/-- The names of the colours of a terminal. -/
def colorNames : List String := [
  "black", "red", "green", "yellow", "blue", "magenta", "cyan", "white", "bright_black",
  "bright_red", "bright_green", "bright_yellow", "bright_blue", "bright_magenta", "bright_cyan",
  "bright_white", "grey0", "gray0", "navy_blue", "dark_blue", "blue3", "blue1", "dark_green",
  "deep_sky_blue4", "dodger_blue3", "dodger_blue2", "green4", "spring_green4", "turquoise4",
  "deep_sky_blue3", "dodger_blue1", "green3", "spring_green3", "dark_cyan", "light_sea_green",
  "deep_sky_blue2", "deep_sky_blue1", "spring_green2", "cyan3", "dark_turquoise", "turquoise2",
  "green1", "spring_green1", "medium_spring_green", "cyan2", "cyan1", "dark_red", "deep_pink4",
  "purple4", "purple3", "blue_violet", "orange4", "grey37", "gray37", "medium_purple4",
  "slate_blue3", "royal_blue1", "chartreuse4", "dark_sea_green4", "pale_turquoise4",
  "steel_blue", "steel_blue3", "cornflower_blue", "chartreuse3", "cadet_blue", "sky_blue3",
  "steel_blue1", "pale_green3", "sea_green3", "aquamarine3", "medium_turquoise", "chartreuse2",
  "sea_green2", "sea_green1", "aquamarine1", "dark_slate_gray2", "dark_magenta", "dark_violet",
  "purple", "light_pink4", "plum4", "medium_purple3", "slate_blue1", "yellow4", "wheat4",
  "grey53", "gray53", "light_slate_grey", "light_slate_gray", "medium_purple",
  "light_slate_blue", "dark_olive_green3", "dark_sea_green", "light_sky_blue3", "sky_blue2",
  "dark_sea_green3", "dark_slate_gray3", "sky_blue1", "chartreuse1", "light_green",
  "pale_green1", "dark_slate_gray1", "red3", "medium_violet_red", "magenta3", "dark_orange3",
  "indian_red", "hot_pink3", "medium_orchid3", "medium_orchid", "medium_purple2",
  "dark_goldenrod", "light_salmon3", "rosy_brown", "grey63", "gray63", "medium_purple1",
  "gold3", "dark_khaki", "navajo_white3", "grey69", "gray69", "light_steel_blue3",
  "light_steel_blue", "yellow3", "dark_sea_green2", "light_cyan3", "light_sky_blue1",
  "green_yellow", "dark_olive_green2", "dark_sea_green1", "pale_turquoise1", "deep_pink3",
  "magenta2", "hot_pink2", "orchid", "medium_orchid1", "orange3", "light_pink3", "pink3",
  "plum3", "violet", "light_goldenrod3", "tan", "misty_rose3", "thistle3", "plum2", "khaki3",
  "light_goldenrod2", "light_yellow3", "grey84", "gray84", "light_steel_blue1", "yellow2",
  "dark_olive_green1", "honeydew2", "light_cyan1", "red1", "deep_pink2", "deep_pink1",
  "magenta1", "orange_red1", "indian_red1", "hot_pink", "dark_orange", "salmon1", "light_coral",
  "pale_violet_red1", "orchid2", "orchid1", "orange1", "sandy_brown", "light_salmon1",
  "light_pink1", "pink1", "plum1", "gold1", "navajo_white1", "misty_rose1", "thistle1",
  "yellow1", "light_goldenrod1", "khaki1", "wheat1", "cornsilk1", "grey100", "gray100", "grey3",
  "gray3", "grey7", "gray7", "grey11", "gray11", "grey15", "gray15", "grey19", "gray19",
  "grey23", "gray23", "grey27", "gray27", "grey30", "gray30", "grey35", "gray35", "grey39",
  "gray39", "grey42", "gray42", "grey46", "gray46", "grey50", "gray50", "grey54", "gray54",
  "grey58", "gray58", "grey62", "gray62", "grey66", "gray66", "grey70", "gray70", "grey74",
  "gray74", "grey78", "gray78", "grey82", "gray82", "grey85", "gray85", "grey89", "gray89",
  "grey93", "gray93"]

/-- The attribute that a word names. -/
def attribute? (word : String) : Option String :=
  (attributeNames.find? fun (name, others) => word = name || word ∈ others).map (·.1)

/-- A number that is written with decimal digits alone and fits into eight bits. -/
def isLevel (digits : List Char) : Bool :=
  ! digits.isEmpty && digits.all Char.isDigit && decimal digits ≤ 255

/-- The text between an opening word with its parenthesis and the closing parenthesis. -/
def argument? (function : String) (word : List Char) : Option (List Char) :=
  let opening := (function ++ "(").toList
  if opening.isPrefixOf word && word.getLast? = some ')' then
    some (word.drop opening.length).dropLast
  else none

/-- A level of a colour that cannot be read as a number, because it has no digits or too many. -/
structure UnreadableLevel where
  digits : List Char
  deriving DecidableEq, Repr

/-- Whether a word between the parentheses of a colour is three levels. Its digits can be those of
any script. -/
def isTriple (inner : List Char) : Except UnreadableLevel Bool :=
  let digits := inner.map asciiDigit
  let levels := split (· = ',') digits
  if digits.all (fun c => c.isDigit || c = ',') && levels.length = 3 then
    match levels.find? fun level => level.isEmpty || maxDigits < level.length with
    | some level => .error ⟨level⟩
    | none => .ok (levels.all isLevel)
  else .ok false

/-- Whether a word in lower case is a colour: a name, a hexadecimal triple, a number, or three
levels. -/
def isColor (word : String) : Except UnreadableLevel Bool :=
  if word = "default" || word ∈ colorNames then .ok true
  else match word.toList with
    | '#' :: digits => .ok (digits.length = 6 && digits.all fun c => (hexDigit? c).isSome)
    | chars =>
      if (argument? "color" chars).any fun inner => inner.length ≤ 3 && isLevel inner then .ok true
      else match argument? "rgb" chars with
        | some inner => isTriple inner
        | none => .ok false

/-- A style: the attributes that are on or off, the colours, and where it links to. -/
structure Style where
  attributes : List (String × Bool) := []
  color : Option String := none
  background : Option String := none
  link : Option String := none
  deriving DecidableEq, Repr

namespace Style

/-- A style with one attribute on or off. -/
def set (style : Style) (name : String) (on : Bool) : Style :=
  { style with attributes := (name, on) :: style.attributes.filter (·.1 ≠ name) }

/-- The style that words describe, added to a style. -/
def ofWords (style : Style) : List String → Except UnreadableLevel (Option Style)
  | [] => .ok (some style)
  | word :: rest =>
    match lower word, rest with
    | "on", color :: rest => do
      let color := lower color
      if ← isColor color then ofWords { style with background := some color } rest else .ok none
    | "on", [] => .ok none
    | "not", name :: rest =>
      match attribute? name with
      | some name => ofWords (style.set name false) rest
      | none => .ok none
    | "not", [] => .ok none
    | "link", target :: rest => ofWords { style with link := some target } rest
    | "link", [] => .ok none
    | word, rest =>
      match attribute? word with
      | some name => ofWords (style.set name true) rest
      | none => do
        if ← isColor word then ofWords { style with color := some word } rest else .ok none

/-- The words of a text. -/
def words (text : String) : List String :=
  ((split isBlank text.toList).filter (! ·.isEmpty)).map String.ofList

/-- The style that a text describes. -/
def parse (text : String) : Except UnreadableLevel (Option Style) :=
  if strip text.toList = "none".toList then .ok (some {}) else ofWords {} (words text)

/-- A style as text: its attributes, its colours and its link. -/
def text (style : Style) : String :=
  let attributes := attributeNames.filterMap fun (name, _) =>
    (style.attributes.lookup name).map fun on => if on then name else "not " ++ name
  let parts := attributes ++ style.color.toList ++
    (style.background.map ("on " ++ ·)).toList ++ (style.link.map ("link " ++ ·)).toList
  if parts.isEmpty then "none" else " ".intercalate parts

/-- The normal form of a text that describes a style. -/
def normalForm (described : String) : Except UnreadableLevel String :=
  (parse described).map fun
    | some style => style.text
    | none => lower (String.ofList (strip described.toList))

end Style

end Bindery.Display
