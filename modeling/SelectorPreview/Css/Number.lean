import SelectorPreview.Css.Single
/-!
# Numbers in style sheets

A number is kept as a decimal fraction, exactly as it was written; its value is that fraction in
single precision.
-/

namespace SelectorPreview.Css

/-- The number `mantissa * 10 ^ exponent`, negated if `negative`. -/
structure Number where
  negative : Bool := false
  mantissa : Nat
  exponent : Int := 0
  /-- Whether a sign was written. -/
  signed : Bool := false
  /-- Whether it was written without fraction and exponent. -/
  integral : Bool := true
  deriving DecidableEq

namespace Number

/-- Zero. -/
def zero : Number := { mantissa := 0 }

/-- The value of a number. -/
def value (n : Number) : Float32 := Single.ofDecimal n.negative n.mantissa n.exponent

/-- The part of the whole that a number of percent stands for. -/
def part (n : Number) : Float32 := Single.ofDecimal n.negative n.mantissa (n.exponent - 2)

/-- The greatest whole number that a count may have. -/
def countLimit : Nat := 2147483647

/-- The whole number that was written, cut off at the limits of a count; none for a fraction. -/
def count? (n : Number) : Option Int :=
  if n.integral then
    some (if n.negative then -(Nat.min n.mantissa (countLimit + 1) : Nat)
      else (Nat.min n.mantissa countLimit : Nat))
  else none

/-- A number as it was written, with its sign and with a point if it was not a whole number. -/
def written (n : Number) : String := Single.written n.value n.signed n.integral

/-- A number of percent as it was written, without the percent sign. -/
def writtenPart (n : Number) : String := Single.written (n.part * 100) n.signed n.integral

end Number

end SelectorPreview.Css
