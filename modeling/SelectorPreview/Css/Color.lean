import SelectorPreview.Css.Color.Name
import SelectorPreview.Css.Color.Space
import SelectorPreview.Css.Scan
/-!
# Colours

A colour is one of 256 levels each of red, green, blue and opacity, a colour in another space, or a
word for a colour of the surroundings. It is written in its shortest form.

* `Color.levels` : the levels of a colour of the standard space;
* `Color.text` : a colour as it is written.
-/

namespace SelectorPreview.Css

open Text

/-- A colour. -/
inductive Color where
  /-- The colour of the text. -/
  | current
  /-- Red, green and blue as one number in base 256, and the opacity. -/
  | rgba (rgb : Nat) (alpha : Nat)
  /-- A word that stands for a colour of the surroundings. -/
  | system (name : String)
  /-- A colour of a space that is written with its coordinates. -/
  | measured (space : ColorSpace) (x : Coordinates)
  /-- A colour of which a coordinate is missing; it is written by its levels. -/
  | incomplete (space : ColorSpace) (x : Coordinates)
  /-- One colour on a light and another one on a dark ground. -/
  | lightDark (light dark : Color)
  deriving BEq

namespace Color

/-- Nothing to be seen. -/
def transparent : Color := rgba 0 0

/-! ## Levels -/

/-- The nearest level to a part of one. -/
def level (x : Float32) : Nat :=
  let scaled := (x * 255).round
  if 0 < scaled then if scaled < 255 then scaled.toUInt8.toNat else 255 else 0

/-- A colour by its levels. -/
def ofLevels (red green blue alpha : Nat) : Color := rgba ((red * 256 + green) * 256 + blue) alpha

/-- The levels of a colour of the standard space. -/
def levels (x : Coordinates) : Color := ofLevels (level x.a) (level x.b) (level x.c) (level x.alpha)

/-- The levels of a colour of any space. -/
def levelsOf (space : ColorSpace) (x : Coordinates) : Color :=
  levels (Coordinates.fit .srgb (Coordinates.convert space .srgb x.resolve))

/-- The coordinates of a colour in some space; none for a colour of the surroundings. -/
def coordinates? : Color → Option (ColorSpace × Coordinates)
  | rgba rgb alpha =>
    let part (n : Nat) : Float32 := Float32.ofNat n / 255
    some (.srgb, ⟨part (rgb / 65536), part (rgb / 256 % 256), part (rgb % 256), part alpha⟩)
  | measured space x => some (space, x)
  | incomplete space x => some (space, x)
  | _ => none

/-- A colour of a space: by its levels where the space is written so, else by its coordinates. -/
def ofCoordinates (space : ColorSpace) (x : Coordinates) : Color :=
  match space with
  | .rgb => if x.hasMissing then incomplete space x else levelsOf space x
  | .srgb => if x.hasMissing then incomplete space x else levelsOf space x
  | .hsl => if x.hasMissing then incomplete space x else levelsOf space x
  | .hwb => if x.hasMissing then incomplete space x else levelsOf space x
  | _ => measured space x

/-- What of a colour shows on a light ground. -/
def onLight : Color → Color
  | lightDark light _ => light
  | color => color

/-- What of a colour shows on a dark ground. -/
def onDark : Color → Color
  | lightDark _ dark => dark
  | color => color

/-! ## Names and digits -/

/-- The colour that a keyword names. -/
def ofName? (name : String) : Option Color :=
  let name := lowerString name
  if name == "currentcolor" then some current
  else if name == "transparent" then some transparent
  else
    match named.lookup name with
    | some rgb => some (rgba rgb 255)
    | none => if systemNames.contains name then some (system name) else none

/-- The colour that three, four, six or eight digits in base 16 give. -/
def ofDigits? (digits : String) : Option Color := do
  let values ← digits.toList.mapM Scan.hexValue?
  match values with
  | [r, g, b] => some (ofLevels (r * 17) (g * 17) (b * 17) 255)
  | [r, g, b, a] => some (ofLevels (r * 17) (g * 17) (b * 17) (a * 17))
  | [r, r', g, g', b, b'] => some (ofLevels (r * 16 + r') (g * 16 + g') (b * 16 + b') 255)
  | [r, r', g, g', b, b', a, a'] =>
    some (ofLevels (r * 16 + r') (g * 16 + g') (b * 16 + b') (a * 16 + a'))
  | _ => none

/-! ## Writing -/

/-- A number as `count` digits in base 16. -/
def digits (count n : Nat) : List Char :=
  let written := Nat.toDigits 16 n
  List.replicate (count - written.length) '0' ++ written

/-- Every second digit, if the digits come in equal pairs. -/
def halved : List Char → Option (List Char)
  | [] => some []
  | c :: d :: rest => if c == d then (halved rest).map (c :: ·) else none
  | _ => none

/-- The digits of a colour, in the short form if there is one. -/
def hex (digits : List Char) : String := String.ofList ('#' :: (halved digits).getD digits)

/-- The short name of a colour. -/
def shortName? (rgb : Nat) : Option String :=
  shortNames.find? fun name => named.lookup name == some rgb

/-- A colour by its levels, by name or by digits. -/
def levelsText (rgb alpha : Nat) : String :=
  if alpha == 255 then (shortName? rgb).getD (hex (digits 6 rgb))
  else hex (digits 8 (rgb * 256 + alpha))

/-- A coordinate. -/
def coordinateText (x : Float32) : String := if x.isNaN then "none" else Single.text x

/-- A coordinate as a part of the whole. -/
def partText (x : Float32) : String := if x.isNaN then "none" else Measure.percentageText x

/-- A function of three coordinates, and of the opacity if that is not full. -/
def functionText (start first : String) (x : Coordinates) : String :=
  let alpha :=
    if x.alpha.isNaN || 1.1920929e-7 < (x.alpha - 1).abs then " / " ++ coordinateText x.alpha
    else ""
  start ++ first ++ " " ++ coordinateText x.b ++ " " ++ coordinateText x.c ++ alpha ++ ")"

/-- The name of a space that is written as a word. -/
def spaceWord : ColorSpace → String
  | .srgb => "srgb"
  | .srgbLinear => "srgb-linear"
  | .displayP3 => "display-p3"
  | .a98 => "a98-rgb"
  | .proPhoto => "prophoto-rgb"
  | .rec2020 => "rec2020"
  | .xyzD50 => "xyz-d50"
  | _ => "xyz"

/-- A colour by its coordinates. -/
def measuredText (space : ColorSpace) (x : Coordinates) : String :=
  match space with
  | .lab => functionText "lab(" (partText (x.a / 100)) x
  | .lch => functionText "lch(" (partText (x.a / 100)) x
  | .oklab => functionText "oklab(" (partText x.a) x
  | .oklch => functionText "oklch(" (partText x.a) x
  | space => functionText ("color(" ++ spaceWord space ++ " ") (coordinateText x.a) x

/-- The shortest form of a colour. -/
def text : Color → String
  | current => "currentColor"
  | rgba rgb alpha => levelsText rgb alpha
  | system name => name
  | measured space x => measuredText space x
  | incomplete space x =>
    match levelsOf space x with
    | rgba rgb alpha => levelsText rgb alpha
    | _ => ""
  | lightDark light dark => "light-dark(" ++ text light ++ ", " ++ text dark ++ ")"

end Color

end SelectorPreview.Css
