import GroupLint.Console
import GroupLint.Text.Alphanumeric
import GroupLint.Text.Blank
import GroupLint.Text.LowerCase
import GroupLint.Text.Split

/-!
Text styles by their definitions: words for attributes, which `not` takes back, a colour, `on` and a
background, `link` and a target. Two definitions of one style have the same normal form; what defines
no style is its own normal form, in lower case.
-/
namespace GroupLint

namespace Style

def attributes : List (String × List String) :=
  [("bold", ["b"]), ("dim", ["d"]), ("italic", ["i"]), ("underline", ["u"]), ("blink", []), ("blink2", []),
   ("reverse", ["r"]), ("conceal", ["c"]), ("strike", ["s"]), ("underline2", ["uu"]), ("frame", []),
   ("encircle", []), ("overline", ["o"])]

def attribute? (word : String) : Option String :=
  (attributes.find? fun (name, short) => name == word || short.contains word).map (·.1)

def colours : List String := [
  "black", "red", "green", "yellow", "blue", "magenta", "cyan", "white", "bright_black", "bright_red",
  "bright_green", "bright_yellow", "bright_blue", "bright_magenta", "bright_cyan", "bright_white",
  "grey0", "gray0", "navy_blue", "dark_blue", "blue3", "blue1", "dark_green", "deep_sky_blue4",
  "dodger_blue3", "dodger_blue2", "green4", "spring_green4", "turquoise4", "deep_sky_blue3",
  "dodger_blue1", "green3", "spring_green3", "dark_cyan", "light_sea_green", "deep_sky_blue2",
  "deep_sky_blue1", "spring_green2", "cyan3", "dark_turquoise", "turquoise2", "green1",
  "spring_green1", "medium_spring_green", "cyan2", "cyan1", "dark_red", "deep_pink4", "purple4",
  "purple3", "blue_violet", "orange4", "grey37", "gray37", "medium_purple4", "slate_blue3",
  "royal_blue1", "chartreuse4", "dark_sea_green4", "pale_turquoise4", "steel_blue", "steel_blue3",
  "cornflower_blue", "chartreuse3", "cadet_blue", "sky_blue3", "steel_blue1", "pale_green3",
  "sea_green3", "aquamarine3", "medium_turquoise", "chartreuse2", "sea_green2", "sea_green1",
  "aquamarine1", "dark_slate_gray2", "dark_magenta", "dark_violet", "purple", "light_pink4",
  "plum4", "medium_purple3", "slate_blue1", "yellow4", "wheat4", "grey53", "gray53",
  "light_slate_grey", "light_slate_gray", "medium_purple", "light_slate_blue", "dark_olive_green3",
  "dark_sea_green", "light_sky_blue3", "sky_blue2", "dark_sea_green3", "dark_slate_gray3",
  "sky_blue1", "chartreuse1", "light_green", "pale_green1", "dark_slate_gray1", "red3",
  "medium_violet_red", "magenta3", "dark_orange3", "indian_red", "hot_pink3", "medium_orchid3",
  "medium_orchid", "medium_purple2", "dark_goldenrod", "light_salmon3", "rosy_brown", "grey63",
  "gray63", "medium_purple1", "gold3", "dark_khaki", "navajo_white3", "grey69", "gray69",
  "light_steel_blue3", "light_steel_blue", "yellow3", "dark_sea_green2", "light_cyan3",
  "light_sky_blue1", "green_yellow", "dark_olive_green2", "dark_sea_green1", "pale_turquoise1",
  "deep_pink3", "magenta2", "hot_pink2", "orchid", "medium_orchid1", "orange3", "light_pink3",
  "pink3", "plum3", "violet", "light_goldenrod3", "tan", "misty_rose3", "thistle3", "plum2",
  "khaki3", "light_goldenrod2", "light_yellow3", "grey84", "gray84", "light_steel_blue1", "yellow2",
  "dark_olive_green1", "honeydew2", "light_cyan1", "red1", "deep_pink2", "deep_pink1", "magenta1",
  "orange_red1", "indian_red1", "hot_pink", "dark_orange", "salmon1", "light_coral",
  "pale_violet_red1", "orchid2", "orchid1", "orange1", "sandy_brown", "light_salmon1",
  "light_pink1", "pink1", "plum1", "gold1", "navajo_white1", "misty_rose1", "thistle1", "yellow1",
  "light_goldenrod1", "khaki1", "wheat1", "cornsilk1", "grey100", "gray100", "grey3", "gray3",
  "grey7", "gray7", "grey11", "gray11", "grey15", "gray15", "grey19", "gray19", "grey23", "gray23",
  "grey27", "gray27", "grey30", "gray30", "grey35", "gray35", "grey39", "gray39", "grey42",
  "gray42", "grey46", "gray46", "grey50", "gray50", "grey54", "gray54", "grey58", "gray58",
  "grey62", "gray62", "grey66", "gray66", "grey70", "gray70", "grey74", "gray74", "grey78",
  "gray78", "grey82", "gray82", "grey85", "gray85", "grey89", "gray89", "grey93", "gray93"]

def isHexDigit (c : Char) : Bool := c.isDigit || ('a' ≤ c && c ≤ 'f')

/-- What stands between an opening word with its bracket and a closing bracket at the end. -/
def bracketed? (opening word : String) : Option (List Char) :=
  let o := opening.toList
  let w := word.toList
  if o.isPrefixOf w && w.getLast? == some ')' && o.length < w.length then
    some ((w.drop o.length).dropLast)
  else none

def decimal (ds : List Char) : Nat := ds.foldl (fun n c => n * 10 + (Text.digitValue? c).getD 0) 0

def isColour (word : String) : Except StyleFault Bool :=
  if word == "default" || colours.contains word then .ok true
  else
    match word.toList with
    | '#' :: hex => .ok (hex.length == 6 && hex.all isHexDigit)
    | _ =>
      match bracketed? "color(" word, bracketed? "rgb(" word with
      | some ds, _ =>
        .ok (!ds.isEmpty && ds.length ≤ 3 && ds.all Char.isDigit && decimal ds ≤ 255)
      | _, some cs =>
        let parts := Text.split [','] cs
        if cs.isEmpty || !(cs.all fun c => c == ',' || (Text.digitValue? c).isSome) || parts.length != 3 then
          .ok false
        else if parts.any List.isEmpty then .error .missingDigits
        else .ok (parts.all fun ds => decimal ds ≤ 255)
      | none, none => .ok false

end Style

structure Style where
  marks : List (String × Bool)
  colour : Option String
  background : Option String
  link : Option String
deriving DecidableEq, Repr, Inhabited

namespace Style

def plain : Style := ⟨[], none, none, none⟩

def set (s : Style) (name : String) (on : Bool) : Style := { s with marks := (name, on) :: s.marks }

def lowered (word : List Char) : String := String.ofList (Text.lower word)

def ofWords (s : Style) : List (List Char) → Except StyleFault (Option Style)
  | [] => .ok (some s)
  | [w] =>
    let word := lowered w
    if word == "on" || word == "not" || word == "link" then .ok none
    else
      match attribute? word with
      | some name => .ok (some (s.set name true))
      | none =>
        match isColour word with
        | .error e => .error e
        | .ok yes => .ok (if yes then some { s with colour := some word } else none)
  | w :: x :: r =>
    let word := lowered w
    if word == "on" then
      match isColour (lowered x) with
      | .error e => .error e
      | .ok yes => if yes then ofWords { s with background := some (lowered x) } r else .ok none
    else if word == "not" then
      match attribute? (String.ofList x) with
      | some name => ofWords (s.set name false) r
      | none => .ok none
    else if word == "link" then ofWords { s with link := some (String.ofList x) } r
    else
      match attribute? word with
      | some name => ofWords (s.set name true) (x :: r)
      | none =>
        match isColour word with
        | .error e => .error e
        | .ok yes => if yes then ofWords { s with colour := some word } (x :: r) else .ok none

def attributeWords (s : Style) : List String :=
  attributes.filterMap fun (name, _) =>
    (s.marks.lookup name).map fun on => if on then name else "not " ++ name

def phrase (lead : String) : Option String → List String
  | some word => [lead ++ word]
  | none => []

def definition (s : Style) : String :=
  let parts := s.attributeWords ++ s.colour.toList ++ phrase "on " s.background ++ phrase "link " s.link
  if parts.isEmpty then "none" else " ".intercalate parts

def normalForm (cs : List Char) : Except StyleFault String :=
  if Text.trim cs == "none".toList then .ok "none"
  else
    match ofWords plain (Text.words cs) with
    | .error e => .error e
    | .ok (some s) => .ok s.definition
    | .ok none => .ok (lowered (Text.trim cs))

end Style
end GroupLint
