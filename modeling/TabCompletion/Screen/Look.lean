import TabCompletion.Text.Blank
import TabCompletion.Text.DecimalDigit
import TabCompletion.Text.LowerCase
import TabCompletion.Text.Numeral

/-! # Looks

A look is named by words: traits, a colour, the colour behind the text, and a link. Looks with
the same effect have one normal form. -/

namespace TabCompletion.Screen

/-- The names of traits, each after the words that stand for it, in the order in which they
are written. -/
def traitTable : List (String × List String) :=
  [("bold", ["bold", "b"]), ("dim", ["dim", "d"]), ("italic", ["italic", "i"]),
    ("underline", ["underline", "u"]), ("blink", ["blink"]), ("blink2", ["blink2"]),
    ("reverse", ["reverse", "r"]), ("conceal", ["conceal", "c"]), ("strike", ["strike", "s"]),
    ("underline2", ["underline2", "uu"]), ("frame", ["frame"]), ("encircle", ["encircle"]),
    ("overline", ["overline", "o"])]

def trait? (word : String) : Option String :=
  (traitTable.find? fun entry => entry.2.contains word).map Prod.fst

/-! ## Colours -/

/-- The names of colours. -/
def colorTable : String := "
  default
  black red green yellow blue magenta cyan white bright_black bright_red bright_green bright_yellow
  bright_blue bright_magenta bright_cyan bright_white grey0 gray0 navy_blue dark_blue blue3 blue1
  dark_green deep_sky_blue4 dodger_blue3 dodger_blue2 green4 spring_green4 turquoise4 deep_sky_blue3
  dodger_blue1 green3 spring_green3 dark_cyan light_sea_green deep_sky_blue2 deep_sky_blue1
  spring_green2 cyan3 dark_turquoise turquoise2 green1 spring_green1 medium_spring_green cyan2 cyan1
  dark_red deep_pink4 purple4 purple3 blue_violet orange4 grey37 gray37 medium_purple4 slate_blue3
  royal_blue1 chartreuse4 dark_sea_green4 pale_turquoise4 steel_blue steel_blue3 cornflower_blue
  chartreuse3 cadet_blue sky_blue3 steel_blue1 pale_green3 sea_green3 aquamarine3 medium_turquoise
  chartreuse2 sea_green2 sea_green1 aquamarine1 dark_slate_gray2 dark_magenta dark_violet purple
  light_pink4 plum4 medium_purple3 slate_blue1 yellow4 wheat4 grey53 gray53 light_slate_grey
  light_slate_gray medium_purple light_slate_blue dark_olive_green3 dark_sea_green light_sky_blue3
  sky_blue2 dark_sea_green3 dark_slate_gray3 sky_blue1 chartreuse1 light_green pale_green1
  dark_slate_gray1 red3 medium_violet_red magenta3 dark_orange3 indian_red hot_pink3 medium_orchid3
  medium_orchid medium_purple2 dark_goldenrod light_salmon3 rosy_brown grey63 gray63 medium_purple1
  gold3 dark_khaki navajo_white3 grey69 gray69 light_steel_blue3 light_steel_blue yellow3
  dark_sea_green2 light_cyan3 light_sky_blue1 green_yellow dark_olive_green2 dark_sea_green1
  pale_turquoise1 deep_pink3 magenta2 hot_pink2 orchid medium_orchid1 orange3 light_pink3 pink3
  plum3 violet light_goldenrod3 tan misty_rose3 thistle3 plum2 khaki3 light_goldenrod2 light_yellow3
  grey84 gray84 light_steel_blue1 yellow2 dark_olive_green1 honeydew2 light_cyan1 red1 deep_pink2
  deep_pink1 magenta1 orange_red1 indian_red1 hot_pink dark_orange salmon1 light_coral
  pale_violet_red1 orchid2 orchid1 orange1 sandy_brown light_salmon1 light_pink1 pink1 plum1 gold1
  navajo_white1 misty_rose1 thistle1 yellow1 light_goldenrod1 khaki1 wheat1 cornsilk1 grey100
  gray100 grey3 gray3 grey7 gray7 grey11 gray11 grey15 gray15 grey19 gray19 grey23 gray23 grey27
  gray27 grey30 gray30 grey35 gray35 grey39 gray39 grey42 gray42 grey46 gray46 grey50 gray50 grey54
  gray54 grey58 gray58 grey62 gray62 grey66 gray66 grey70 gray70 grey74 gray74 grey78 gray78 grey82
  gray82 grey85 gray85 grey89 gray89 grey93 gray93"

inductive LookFault
  /-- A word stands for nothing. -/
  | unknown
  /-- One of the three numbers of a colour is missing, or too long to be read. -/
  | noNumber
deriving DecidableEq, Repr

def isHexadecimal (c : Char) : Bool :=
  c.isDigit || ('a' ≤ c && c ≤ 'f')

/-- What stands between an opening text and a closing parenthesis at the end. -/
def argument? (opening word : String) : Option (List Char) :=
  let cs := word.toList.drop opening.length
  if Text.beginsWith opening word && cs.getLast? = some ')' then some cs.dropLast else none

/-- Whether some digits are a number that can be read. -/
def isReadable (digits : List Char) : Bool :=
  !digits.isEmpty && digits.length ≤ Text.digitLimit

/-- Checks the three numbers of a colour. -/
def checkShares (shares : List (List Char)) : Except LookFault Unit :=
  if shares.length ≠ 3 then .error .unknown
  else if !shares.all isReadable then .error .noNumber
  else if shares.all fun digits => Text.decimal digits ≤ 255 then .ok ()
  else .error .unknown

/-- Checks that a word in small letters stands for a colour: a name, a number of a palette in plain
digits, or the shares of red, green and blue in the digits of any script. -/
def checkColor (word : String) : Except LookFault Unit :=
  if (Text.pieces colorTable).contains word then .ok ()
  else
    match word.toList, argument? "color(" word, argument? "rgb(" word with
    | '#' :: digits, _, _ =>
      if digits.length = 6 && digits.all isHexadecimal then .ok () else .error .unknown
    | _, some digits, _ =>
      if 1 ≤ digits.length && digits.length ≤ 3 && digits.all Char.isDigit
          && Text.decimal digits ≤ 255
      then .ok () else .error .unknown
    | _, _, some shares =>
      if !shares.isEmpty && shares.all fun c => Text.isDecimalDigit c || c == ',' then
        checkShares (shares.splitOnP (· == ','))
      else .error .unknown
    | _, _, _ => .error .unknown

/-! ## Looks -/

structure Look where
  /-- Traits that are given, and whether they are asked for or kept off. -/
  traits : List (String × Bool) := []
  color : Option String := none
  background : Option String := none
  link : Option String := none
deriving DecidableEq, Repr

namespace Look

def withTrait (name : String) (on : Bool) (look : Look) : Look :=
  { look with traits := (name, on) :: look.traits }

/-- Adds what some words say to a look; later words win over earlier ones. -/
def read (look : Look) : List String → Except LookFault Look
  | [] => .ok look
  | word :: rest =>
    match Text.lowerCase word, rest with
    | "on", color :: rest => do
      checkColor (Text.lowerCase color)
      { look with background := some (Text.lowerCase color) }.read rest
    | "not", name :: rest =>
      match trait? name with
      | some trait => (look.withTrait trait false).read rest
      | none => .error .unknown
    | "link", target :: rest => { look with link := some target }.read rest
    | word, rest =>
      match trait? word with
      | some trait => (look.withTrait trait true).read rest
      | none => do
        checkColor word
        { look with color := some word }.read rest

/-- The words of a trait that is given. -/
def traitText? (look : Look) (trait : String) : Option String :=
  (look.traits.lookup trait).map fun on => if on then trait else "not " ++ trait

/-- The words that name a look, in a fixed order. -/
def text (look : Look) : String :=
  let words := traitTable.filterMap (fun entry => look.traitText? entry.1)
    ++ look.color.toList
    ++ (look.background.map ("on " ++ ·)).toList
    ++ (look.link.map ("link " ++ ·)).toList
  if words.isEmpty then "none" else " ".intercalate words

/-- Whether a name asks for a colour of which a number cannot be read. -/
def lacksNumber (name : String) : Bool :=
  match Look.read {} (Text.pieces name) with
  | .error .noNumber => true
  | _ => false

/-- The normal form of a name. A name that is not understood is only trimmed and put in small
letters; there is none if a number of a colour cannot be read. -/
def normalName? (name : String) : Option String :=
  if Text.trimBlanks name = "none" then some "none"
  else
    match Look.read {} (Text.pieces name) with
    | .ok look => some look.text
    | .error .unknown => some (Text.lowerCase (Text.trimBlanks name))
    | .error .noNumber => none

end Look

end TabCompletion.Screen
