import SelectorPreview.Css.Identifier
import SelectorPreview.Css.Token
import SelectorPreview.Text.Ascii
/-!
# Measures

A measure is a length, a percentage, an angle or a duration. Lengths in absolute units can be turned
into pixels, so that they can be added and compared; of all other lengths only those in one unit
can. Angles can be added and compared in degrees, durations in milliseconds.

* `Measure.add?`, `Measure.compare?` : sum and order, as far as they are known;
* `Measure.text` : a measure as it is written; `Measure.short` drops the unit of a length of zero.
-/

namespace SelectorPreview.Css

open Text

/-- The units of angles. -/
inductive AngleUnit where
  | degrees
  | gradians
  | radians
  | turns
  deriving DecidableEq

/-- A quantity with its unit. -/
inductive Measure where
  | length (value : Float32) (unit : String)
  /-- A part of a whole. -/
  | percentage (part : Float32)
  | angle (value : Float32) (unit : AngleUnit)
  | seconds (value : Float32)
  | milliseconds (value : Float32)
  deriving BEq

/-! ## Units -/

/-- The units of length. -/
def lengthUnits : List String :=
  ["px", "in", "cm", "mm", "q", "pt", "pc", "em", "rem", "ex", "rex", "ch", "rch", "cap", "rcap",
    "ic", "ric", "lh", "rlh", "vw", "lvw", "svw", "dvw", "cqw", "vh", "lvh", "svh", "dvh", "cqh",
    "vi", "svi", "lvi", "dvi", "cqi", "vb", "svb", "lvb", "dvb", "cqb", "vmin", "svmin", "lvmin",
    "dvmin", "cqmin", "vmax", "svmax", "lvmax", "dvmax", "cqmax"]

/-- How many pixels one unit is, if it has a fixed size. -/
def pixelsPerUnit? (unit : String) : Option Float32 :=
  let inch : Float32 := 96
  let centimetre : Float32 := inch / 2.54
  match unit with
  | "px" => some 1
  | "in" => some inch
  | "cm" => some centimetre
  | "mm" => some (centimetre / 10)
  | "q" => some (centimetre / 40)
  | "pt" => some (inch / 72)
  | "pc" => some (inch / 6)
  | _ => none

/-- The ratio of the circumference of a circle to its diameter. -/
def circleRatio : Float32 := 3.14159265358979

namespace AngleUnit

/-- An angle in degrees. -/
def toDegrees (unit : AngleUnit) (value : Float32) : Float32 :=
  match unit with
  | degrees => value
  | gradians => value * 180 / 200
  | radians => value * (180 / circleRatio)
  | turns => value * 360

/-- An angle in radians. -/
def toRadians (unit : AngleUnit) (value : Float32) : Float32 :=
  let radian := circleRatio / 180
  match unit with
  | degrees => value * radian
  | gradians => value * 180 / 200 * radian
  | radians => value
  | turns => value * 360 * radian

/-- The name of a unit of angles. -/
def text : AngleUnit → String
  | degrees => "deg"
  | gradians => "grad"
  | radians => "rad"
  | turns => "turn"

end AngleUnit

namespace Measure

/-- The length of zero pixels. -/
def zero : Measure := length 0 "px"

/-- A length with a unit, by any name of it. -/
def lengthOf? (value : Float32) (unit : String) : Option Measure :=
  let unit := lowerString unit
  if lengthUnits.contains unit then some (length value unit) else none

/-- An angle with a unit, by any name of it. -/
def angleOf? (value : Float32) (unit : String) : Option Measure :=
  match lowerString unit with
  | "deg" => some (angle value .degrees)
  | "grad" => some (angle value .gradians)
  | "rad" => some (angle value .radians)
  | "turn" => some (angle value .turns)
  | _ => none

/-- A duration with a unit, by any name of it. -/
def durationOf? (value : Float32) (unit : String) : Option Measure :=
  match lowerString unit with
  | "s" => some (seconds value)
  | "ms" => some (milliseconds value)
  | _ => none

/-- The measure of a number with a unit, if it has such a unit. -/
def ofUnit? (value : Float32) (unit : String) : Option Measure :=
  ((lengthOf? value unit).or (angleOf? value unit)).or (durationOf? value unit)

/-! ## Arithmetic -/

/-- The number of units. -/
def size : Measure → Float32
  | length value _ => value
  | percentage part => part
  | angle value _ => value
  | seconds value => value
  | milliseconds value => value

/-- The measure with another number of the same units. -/
def resize (f : Float32 → Float32) : Measure → Measure
  | length value unit => length (f value) unit
  | percentage part => percentage (f part)
  | angle value unit => angle (f value) unit
  | seconds value => seconds (f value)
  | milliseconds value => milliseconds (f value)

/-- Whether there are no units. -/
def isZero (m : Measure) : Bool := m.size == 0

/-- Whether a measure is a percentage. -/
def isPercentage : Measure → Bool
  | percentage _ => true
  | _ => false

/-- A length in pixels, if it has a fixed size. -/
def pixels? : Measure → Option Float32
  | length value unit => (pixelsPerUnit? unit).map (value * ·)
  | _ => none

/-- Two measures of one kind as numbers of one unit, and what a number of that unit is. -/
def alike? : Measure → Measure → Option (Float32 × Float32 × (Float32 → Measure))
  | length a unit, length b unit' =>
    if unit == unit' then some (a, b, (length · unit))
    else do
      let a ← pixels? (length a unit)
      let b ← pixels? (length b unit')
      pure (a, b, (length · "px"))
  | percentage a, percentage b => some (a, b, percentage)
  | angle a unit, angle b unit' =>
    if unit = unit' then some (a, b, (angle · unit))
    else some (unit.toDegrees a, unit'.toDegrees b, (angle · .degrees))
  | seconds a, seconds b => some (a, b, seconds)
  | seconds a, milliseconds b => some (a, b / 1000, seconds)
  | milliseconds a, seconds b => some (a, b * 1000, milliseconds)
  | milliseconds a, milliseconds b => some (a, b, milliseconds)
  | _, _ => none

/-- The result of an operation on the numbers of two measures of one kind. -/
def combine? (f : Float32 → Float32 → Float32) (a b : Measure) : Option Measure :=
  (alike? a b).map fun (x, y, make) => make (f x y)

/-- The sum of two measures, if it is a measure. -/
def add? (a b : Measure) : Option Measure := combine? (· + ·) a b

/-- The order of two numbers; none if one of them is no number. -/
def order? (x y : Float32) : Option Ordering :=
  if x < y then some .lt else if x == y then some .eq else if y < x then some .gt else none

/-- The order of two measures, if it is known. -/
def compare? (a b : Measure) : Option Ordering :=
  match a, b with
  | angle x unit, angle y unit' => order? (unit.toDegrees x) (unit'.toDegrees y)
  | seconds x, milliseconds y => order? (x * 1000) y
  | _, _ => (alike? a b).bind fun (x, y, _) => order? x y

/-! ## Writing -/

/-- A unit that no measure has, written so that it does not continue its number. -/
def otherUnit (unit : String) : String :=
  match unit.toList with
  | ['e'] => "\\65 "
  | ['E'] => "\\65 "
  | 'e' :: '-' :: rest => "\\65 " ++ nameText (String.ofList ('-' :: rest))
  | 'E' :: '-' :: rest => "\\65 " ++ nameText (String.ofList ('-' :: rest))
  | _ => identifier unit

/-- A percentage; a part of less than a hundredth has no zero before its point. -/
def percentageText (part : Float32) : String :=
  let digits := Single.written (part * 100) false (part * 100 - (part * 100).floor == 0)
  let short :=
    if part != 0 && part.abs < 0.01 then
      if part < 0 then
        "-" ++ String.ofList ((digits.toList.drop 1).dropWhile (· == '0'))
      else String.ofList (digits.toList.dropWhile (· == '0'))
    else digits
  short ++ "%"

/-- An angle; radians are written in degrees. -/
def angleText (value : Float32) (unit : AngleUnit) : String :=
  let degrees := unit.toDegrees value
  let scaled := (degrees * 100000).round
  if unit = .radians && scaled - scaled.floor == 0 then Single.beforeUnit degrees ++ "deg"
  else Single.beforeUnit value ++ unit.text

/-- A measure with its unit. Of seconds and milliseconds those are written that are shorter. -/
def text : Measure → String
  | length value unit => Single.beforeUnit value ++ unit
  | percentage part => percentageText part
  | angle value unit => angleText value unit
  | seconds value =>
    if 0 < value && value < 0.1 then Single.text (value * 1000) ++ "ms"
    else Single.text value ++ "s"
  | milliseconds value =>
    if value == 0 || 100 ≤ value then Single.text (value / 1000) ++ "s"
    else Single.text value ++ "ms"

/-- A measure; a length of zero has no unit. -/
def short (m : Measure) : String :=
  match m with
  | length value _ => if value == 0 then "0" else m.text
  | _ => m.text

/-- The units of resolution, each with the name it is written by. -/
def resolutionUnits : List (String × String) :=
  [("dpi", "dpi"), ("dpcm", "dpcm"), ("dppx", "x"), ("x", "x")]

/-- A number with a unit, as it is written where nothing is known of it. -/
def unitText (value : Float32) (unit : String) : String :=
  match ofUnit? value unit with
  | some m => m.text
  | none =>
    Single.beforeUnit value ++ (resolutionUnits.lookup (lowerString unit)).getD (otherUnit unit)

end Measure

end SelectorPreview.Css
