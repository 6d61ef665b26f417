import ComponentMigration.Text.Basic
import ComponentMigration.Text.Casing
import ComponentMigration.Text.Numeral
import ComponentMigration.Trouble

/-!
# Colours and styles

A colour is given by its name, by its number in the palette, by six hexadecimal digits, or by its
shares of red, green and blue.

A style is named by words: attributes, each of which may be switched off, a colour, a background,
and a link.  Names with the same meaning have one usual form; a name with unknown words stands for
itself in small letters.
-/

namespace ComponentMigration.Markup

/-- The names of the colours in the palette, in rows. -/
def colourNames : List String :=
  ["default black red green yellow blue magenta cyan white bright_black bright_red",
    "bright_green bright_yellow bright_blue bright_magenta bright_cyan bright_white grey0 gray0",
    "navy_blue dark_blue blue3 blue1 dark_green deep_sky_blue4 dodger_blue3 dodger_blue2 green4",
    "spring_green4 turquoise4 deep_sky_blue3 dodger_blue1 green3 spring_green3 dark_cyan",
    "light_sea_green deep_sky_blue2 deep_sky_blue1 spring_green2 cyan3 dark_turquoise",
    "turquoise2 green1 spring_green1 medium_spring_green cyan2 cyan1 dark_red deep_pink4",
    "purple4 purple3 blue_violet orange4 grey37 gray37 medium_purple4 slate_blue3 royal_blue1",
    "chartreuse4 dark_sea_green4 pale_turquoise4 steel_blue steel_blue3 cornflower_blue",
    "chartreuse3 cadet_blue sky_blue3 steel_blue1 pale_green3 sea_green3 aquamarine3",
    "medium_turquoise chartreuse2 sea_green2 sea_green1 aquamarine1 dark_slate_gray2",
    "dark_magenta dark_violet purple light_pink4 plum4 medium_purple3 slate_blue1 yellow4",
    "wheat4 grey53 gray53 light_slate_grey light_slate_gray medium_purple light_slate_blue",
    "dark_olive_green3 dark_sea_green light_sky_blue3 sky_blue2 dark_sea_green3",
    "dark_slate_gray3 sky_blue1 chartreuse1 light_green pale_green1 dark_slate_gray1 red3",
    "medium_violet_red magenta3 dark_orange3 indian_red hot_pink3 medium_orchid3 medium_orchid",
    "medium_purple2 dark_goldenrod light_salmon3 rosy_brown grey63 gray63 medium_purple1 gold3",
    "dark_khaki navajo_white3 grey69 gray69 light_steel_blue3 light_steel_blue yellow3",
    "dark_sea_green2 light_cyan3 light_sky_blue1 green_yellow dark_olive_green2 dark_sea_green1",
    "pale_turquoise1 deep_pink3 magenta2 hot_pink2 orchid medium_orchid1 orange3 light_pink3",
    "pink3 plum3 violet light_goldenrod3 tan misty_rose3 thistle3 plum2 khaki3 light_goldenrod2",
    "light_yellow3 grey84 gray84 light_steel_blue1 yellow2 dark_olive_green1 honeydew2",
    "light_cyan1 red1 deep_pink2 deep_pink1 magenta1 orange_red1 indian_red1 hot_pink",
    "dark_orange salmon1 light_coral pale_violet_red1 orchid2 orchid1 orange1 sandy_brown",
    "light_salmon1 light_pink1 pink1 plum1 gold1 navajo_white1 misty_rose1 thistle1 yellow1",
    "light_goldenrod1 khaki1 wheat1 cornsilk1 grey100 gray100 grey3 gray3 grey7 gray7 grey11",
    "gray11 grey15 gray15 grey19 gray19 grey23 gray23 grey27 gray27 grey30 gray30 grey35 gray35",
    "grey39 gray39 grey42 gray42 grey46 gray46 grey50 gray50 grey54 gray54 grey58 gray58 grey62",
    "gray62 grey66 gray66 grey70 gray70 grey74 gray74 grey78 gray78 grey82 gray82 grey85 gray85",
    "grey89 gray89 grey93 gray93"]

/-- Whether a name is one of the palette. -/
def isColourName (name : String) : Bool :=
  colourNames.any fun row => (Text.splitOn row " ").contains name

/-- The components that a colour gives between parentheses behind a word. -/
def components? (word : String) (cs : List Char) : Option (List Char) :=
  if Text.startsWith (String.ofList cs) (word ++ "(") && cs.getLast? == some ')' then
    some ((cs.drop (word.length + 1)).dropLast)
  else none

/-- Whether six hexadecimal digits stand behind a number sign. -/
def isHexColour (cs : List Char) : Bool :=
  match cs with
  | '#' :: digits =>
    digits.length == 6 && digits.all fun c => c.isDigit || ('a' ≤ c && c ≤ 'f')
  | _ => false

/-- Whether digits are a number of the palette, which has 256 colours. -/
def isPaletteNumber (cs : List Char) : Bool :=
  !cs.isEmpty && cs.length ≤ 3 && cs.all Char.isDigit &&
    (Text.integer? (String.ofList cs)).any (· ≤ 255)

/-- Whether digits between commas are three shares up to 255.  A share that is left out, or has too
many digits, is a trouble. -/
def isShares (cs : List Char) : Usable Bool :=
  if cs.isEmpty || !cs.all fun c => c == ',' || (Text.digitValue? c).isSome then .ok false
  else
    let parts := Text.splitChars [','] cs
    if parts.length != 3 then .ok false
    else
      match parts.mapM fun p => Text.integer? (String.ofList p) with
      | some shares => .ok (shares.all (· ≤ 255))
      | none => .error ⟨.badValue, "not a share of a colour", none⟩

/-- The usual form of a colour's name, if it is one. -/
def colour? (word : String) : Usable (Option String) := do
  let name := Text.lowered word
  let cs := name.toList
  if isColourName name || isHexColour cs then return some name
  else if (components? "color" cs).any isPaletteNumber then return some name
  else
    match components? "rgb" cs with
    | some shares => return if ← isShares shares then some name else none
    | none => return none

/-- The attributes of styles by their spellings, in the order in which styles name them. -/
def attributes : List (String × List String) :=
  [("bold", ["bold", "b"]), ("dim", ["dim", "d"]), ("italic", ["italic", "i"]),
    ("underline", ["underline", "u"]), ("blink", ["blink"]), ("blink2", ["blink2"]),
    ("reverse", ["reverse", "r"]), ("conceal", ["conceal", "c"]), ("strike", ["strike", "s"]),
    ("underline2", ["underline2", "uu"]), ("frame", ["frame"]), ("encircle", ["encircle"]),
    ("overline", ["overline", "o"])]

/-- What a style sets. -/
structure Style where
  switches : List (String × Bool) := []
  colour : Option String := none
  background : Option String := none
  link : Option String := none

/-- The attribute with a spelling. -/
def attribute? (word : String) : Option String :=
  (attributes.find? (·.2.contains word)).map Prod.fst

namespace Style

/-- The style with an attribute switched on or off. -/
def switch (s : Style) (name : String) (on : Bool) : Style :=
  { s with switches := (name, on) :: s.switches }

/-- What a word asks for: an attribute that is on, or a colour. -/
def plain (s : Style) (word : String) : Usable (Option Style) :=
  match attribute? word with
  | some a => .ok (some (s.switch a true))
  | none => do return (← colour? word).map fun c => { s with colour := some c }

/-- What a word asks for behind another one: a background, an attribute that is off, or a link.
Nothing if the first word does not go with a second one. -/
def joint? (s : Style) (first second : String) : Option (Usable (Option Style)) :=
  match first with
  | "on" => some do return (← colour? second).map fun c => { s with background := some c }
  | "not" => some (.ok ((attribute? second).map fun a => s.switch a false))
  | "link" => some (.ok (some { s with link := some second }))
  | _ => none

/-- Reads the words of a style; nothing if one of them is not known. -/
def read (s : Style) : List String → Usable (Option Style)
  | [] => .ok (some s)
  | [word] => s.plain (Text.lowered word)
  | word :: next :: rest =>
    match s.joint? (Text.lowered word) next with
    | some joined => do
      match ← joined with
      | some s => s.read rest
      | none => return none
    | none => do
      match ← s.plain (Text.lowered word) with
      | some s => s.read (next :: rest)
      | none => return none

/-- The words of a style in their usual order. -/
def words (s : Style) : List String :=
  (attributes.filterMap fun (a, _) =>
    (s.switches.lookup a).map fun on => if on then a else "not " ++ a) ++
    s.colour.toList ++ (s.background.map ("on " ++ ·)).toList ++ (s.link.map ("link " ++ ·)).toList

end Style

/-- The words of a text. -/
def wordsOf (s : String) : List String :=
  let spaced := String.ofList (s.toList.map fun c => if Text.isBlank c then ' ' else c)
  (Text.splitOn spaced " ").filter (!·.isEmpty)

/-- The usual form of a style's name: its words in order if all are known, else in small letters. -/
def usualName (name : String) : Usable String := do
  match ← Style.read {} (wordsOf name) with
  | some style =>
    return if style.words.isEmpty then "none" else String.intercalate " " style.words
  | none => return Text.lowered (Text.strip name)

end ComponentMigration.Markup
