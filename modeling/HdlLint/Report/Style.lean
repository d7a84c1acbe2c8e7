import HdlLint.Fault.Crash
import HdlLint.Text.Blank
import HdlLint.Text.Digit
import HdlLint.Text.Integer
import HdlLint.Text.LowerCase

/-!
# Styles

A tag names a style by words: attributes, a colour, and a colour behind `on` for the
background. Several spellings can mean the same style; `Style.normalize` gives one form to
all of them. Words that name no style are left as they are, in lower case. A colour by
three numbers of which one cannot be read is a crash.
-/

namespace HdlLint.Report

/-- A style by its parts. -/
structure Style where
  attributes : List (String × Bool) := []
  color : Option String := none
  background : Option String := none
  link : Option String := none
  deriving Repr, DecidableEq

namespace Style

/-- The attributes and the words for each, the full one first. -/
def attributeWords : List (List String) :=
  [["bold", "b"], ["dim", "d"], ["italic", "i"], ["underline", "u"], ["blink"],
    ["blink2"], ["reverse", "r"], ["conceal", "c"], ["strike", "s"],
    ["underline2", "uu"], ["frame"], ["encircle"], ["overline", "o"]]

/-- The full word of the attribute for which a word stands. -/
def attribute? (word : String) : Option String :=
  (attributeWords.find? fun ws => ws.contains word).bind List.head?

/-- Cuts a text at its blanks. -/
def blankParts : List Char → List (List Char)
  | [] => [[]]
  | c :: r =>
    if Text.isBlank c then [] :: blankParts r
    else match blankParts r with
      | [] => [[c]]
      | w :: ws => (c :: w) :: ws

/-- The words of a text between blanks. -/
def wordsOfText (s : String) : List String :=
  ((blankParts s.toList).filter fun w => !w.isEmpty).map String.ofList

def colorNames : List String := [
  "black red green yellow blue magenta cyan white bright_black bright_red bright_green bright_yellow",
  "bright_blue bright_magenta bright_cyan bright_white grey0 gray0 navy_blue dark_blue blue3 blue1",
  "dark_green deep_sky_blue4 dodger_blue3 dodger_blue2 green4 spring_green4 turquoise4 deep_sky_blue3",
  "dodger_blue1 green3 spring_green3 dark_cyan light_sea_green deep_sky_blue2 deep_sky_blue1 spring_green2",
  "cyan3 dark_turquoise turquoise2 green1 spring_green1 medium_spring_green cyan2 cyan1 dark_red deep_pink4",
  "purple4 purple3 blue_violet orange4 grey37 gray37 medium_purple4 slate_blue3 royal_blue1 chartreuse4",
  "dark_sea_green4 pale_turquoise4 steel_blue steel_blue3 cornflower_blue chartreuse3 cadet_blue sky_blue3",
  "steel_blue1 pale_green3 sea_green3 aquamarine3 medium_turquoise chartreuse2 sea_green2 sea_green1",
  "aquamarine1 dark_slate_gray2 dark_magenta dark_violet purple light_pink4 plum4 medium_purple3",
  "slate_blue1 yellow4 wheat4 grey53 gray53 light_slate_grey light_slate_gray medium_purple",
  "light_slate_blue dark_olive_green3 dark_sea_green light_sky_blue3 sky_blue2 dark_sea_green3",
  "dark_slate_gray3 sky_blue1 chartreuse1 light_green pale_green1 dark_slate_gray1 red3 medium_violet_red",
  "magenta3 dark_orange3 indian_red hot_pink3 medium_orchid3 medium_orchid medium_purple2 dark_goldenrod",
  "light_salmon3 rosy_brown grey63 gray63 medium_purple1 gold3 dark_khaki navajo_white3 grey69 gray69",
  "light_steel_blue3 light_steel_blue yellow3 dark_sea_green2 light_cyan3 light_sky_blue1 green_yellow",
  "dark_olive_green2 dark_sea_green1 pale_turquoise1 deep_pink3 magenta2 hot_pink2 orchid medium_orchid1",
  "orange3 light_pink3 pink3 plum3 violet light_goldenrod3 tan misty_rose3 thistle3 plum2 khaki3",
  "light_goldenrod2 light_yellow3 grey84 gray84 light_steel_blue1 yellow2 dark_olive_green1 honeydew2",
  "light_cyan1 red1 deep_pink2 deep_pink1 magenta1 orange_red1 indian_red1 hot_pink dark_orange salmon1",
  "light_coral pale_violet_red1 orchid2 orchid1 orange1 sandy_brown light_salmon1 light_pink1 pink1 plum1",
  "gold1 navajo_white1 misty_rose1 thistle1 yellow1 light_goldenrod1 khaki1 wheat1 cornsilk1 grey100",
  "gray100 grey3 gray3 grey7 gray7 grey11 gray11 grey15 gray15 grey19 gray19 grey23 gray23 grey27 gray27",
  "grey30 gray30 grey35 gray35 grey39 gray39 grey42 gray42 grey46 gray46 grey50 gray50 grey54 gray54 grey58",
  "gray58 grey62 gray62 grey66 gray66 grey70 gray70 grey74 gray74 grey78 gray78 grey82 gray82 grey85 gray85",
  "grey89 gray89 grey93 gray93"].flatMap wordsOfText

/-- The digits between an opening word and a closing bracket. -/
def bracketed? (word : String) (s : List Char) : Option (List Char) :=
  let opening := word.toList ++ ['(']
  if opening.isPrefixOf s && s.getLast? = some ')' then
    some (s.drop opening.length).dropLast
  else none

/-- The greatest number in a colour. -/
def maxComponent : Int := 255

/-- Whether a text is the number of a colour in at most three digits. -/
def isColorNumber (s : List Char) : Bool :=
  !s.isEmpty && s.length ≤ 3 && s.all Text.isAsciiDigit &&
    Text.ofDigits 10 (s.filterMap Text.digitValue?) ≤ maxComponent.toNat

def commaParts : List Char → List (List Char)
  | [] => [[]]
  | c :: r =>
    if c = ',' then [] :: commaParts r
    else match commaParts r with
      | [] => [[c]]
      | w :: ws => (c :: w) :: ws

/-- Reads a number of a colour. -/
def readComponent (s : List Char) : Except Crash Int :=
  (Text.readInteger 10 (String.ofList s)).mapError fun f => .of .value f.message

/-- Whether what stands between the brackets of a colour by its parts is one: three
numbers with commas between them, none too great. -/
def areComponents (s : List Char) : Except Crash Bool :=
  if s.isEmpty || !s.all fun c => c = ',' || (Text.digitValue? c).isSome then .ok false
  else
    let parts := commaParts s
    if parts.length ≠ 3 then .ok false
    else do
      let numbers ← parts.mapM readComponent
      pure (numbers.all fun n => n ≤ maxComponent)

/-- Whether a word in lower case is a colour: a name, six hexadecimal digits, a number, or
three numbers. -/
def isColor (word : String) : Except Crash Bool :=
  let s := word.toList
  if word = "default" || colorNames.contains word ||
    (s.head? = some '#' && s.length = 7 && s.tail.all fun c =>
      (Text.radixDigit? c).any (· < 16)) ||
    (bracketed? "color" s).any isColorNumber then .ok true
  else match bracketed? "rgb" s with
    | some parts => areComponents parts
    | none => .ok false

/-- A style with a value for an attribute; the latest value counts. -/
def setAttribute (st : Style) (name : String) (b : Bool) : Style :=
  { st with attributes := (name, b) :: st.attributes.filter fun x => x.1 ≠ name }

/-- Reads the words of a style; there is none if they name no style. -/
def ofWords? : List String → Style → Except Crash (Option Style)
  | [], st => .ok (some st)
  | word :: rest, st =>
    let lower := Text.lower word
    if lower = "on" then
      match rest with
      | c :: rest => do
        if ← isColor (Text.lower c) then
          ofWords? rest { st with background := some (Text.lower c) }
        else pure none
      | [] => .ok none
    else if lower = "not" then
      match rest with
      | a :: rest =>
        match attribute? a with
        | some name => ofWords? rest (st.setAttribute name false)
        | none => .ok none
      | [] => .ok none
    else if lower = "link" then
      match rest with
      | l :: rest => ofWords? rest { st with link := some l }
      | [] => .ok none
    else match attribute? lower with
      | some name => ofWords? rest (st.setAttribute name true)
      | none => do
        if ← isColor lower then ofWords? rest { st with color := some lower }
        else pure none

/-- The words of a style in their order: attributes, colour, background, link. -/
def words (st : Style) : List String :=
  let attributes := attributeWords.filterMap fun ws => do
    let name ← ws.head?
    let value ← st.attributes.lookup name
    pure (if value then name else "not " ++ name)
  attributes ++ st.color.toList ++ (st.background.map fun c => "on " ++ c).toList ++
    (st.link.map fun l => "link " ++ l).toList

/-- The style that a text means, if it means one. -/
def ofText? (s : String) : Except Crash (Option Style) :=
  ofWords? (wordsOfText s) {}

/-- One form for all spellings of a style. -/
def normalize (s : String) : Except Crash String := do
  match ← ofText? s with
  | some st => pure (if st.words.isEmpty then "none" else " ".intercalate st.words)
  | none => pure (Text.lower (Text.trim s))

end Style

end HdlLint.Report
