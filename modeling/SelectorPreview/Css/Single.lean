/-!
# Numbers in single precision

The value of a number is kept in single precision. A decimal fraction is rounded to the nearest
value, an exact half to the even one. A value is printed by the fewest digits that read back as it,
cut down to six; very large and very small values are printed with an exponent.

* `Single.ofDecimal` : the value nearest to a decimal fraction;
* `Single.shortest` : the fewest digits that read back as a value;
* `Single.full`, `Single.text` : a value with and without the zero before its point.
-/

namespace SelectorPreview.Css.Single

/-- A power of ten. -/
def tenPower (n : Nat) : Nat := Nat.pow 10 n

/-- A power of two. -/
def twoPower (n : Nat) : Nat := Nat.pow 2 n

/-! ## From decimal fractions -/

/-- The whole number nearest to a quotient, the even one of two that are equally near. -/
def roundDiv (numerator denominator : Nat) : Nat :=
  let quotient := numerator / denominator
  let rest := 2 * (numerator % denominator)
  if rest < denominator then quotient
  else if denominator < rest then quotient + 1
  else quotient + quotient % 2

/-- The exponent of the least value above zero, and of the last place of all values near it. -/
def leastExponent : Int := -149

/-- The bits of infinity. -/
def infinityBits : Nat := 0x7F800000

/-- The bits of the value nearest to a quotient above zero. -/
def bitsOfRatio (numerator denominator : Nat) : Nat :=
  let scaled (exponent : Int) : Nat × Nat :=
    if 0 ≤ exponent then (numerator, denominator * twoPower exponent.toNat)
    else (numerator * twoPower (-exponent).toNat, denominator)
  let guess : Int := (numerator.log2 : Int) - denominator.log2 - 24
  let (top, bottom) := scaled guess
  let fitting := if twoPower 24 ≤ top / bottom then guess + 1 else guess
  let exponent := if fitting < leastExponent then leastExponent else fitting
  let (top, bottom) := scaled exponent
  let significand := roundDiv top bottom
  if significand < twoPower 23 then significand
  else min infinityBits ((exponent + 150).toNat * twoPower 23 + (significand - twoPower 23))

/-- A value by the bits of its size and by its sign. -/
def ofBits (negative : Bool) (bits : Nat) : Float32 :=
  Float32.ofBits (UInt32.ofNat (if negative then twoPower 31 + bits else bits))

/-- The value nearest to `mantissa * 10 ^ exponent`, negated if `negative`. -/
def ofDecimal (negative : Bool) (mantissa : Nat) (exponent : Int) : Float32 :=
  let point := (Nat.toDigits 10 mantissa).length + exponent
  if mantissa == 0 || point < -45 then ofBits negative 0
  else if 40 < point then ofBits negative infinityBits
  else if 0 ≤ exponent then
    ofBits negative (bitsOfRatio (mantissa * tenPower exponent.toNat) 1)
  else ofBits negative (bitsOfRatio mantissa (tenPower (-exponent).toNat))

/-! ## Digits -/

/-- Whether the sign of a value is a minus; zero has a sign as well. -/
def isNegative (x : Float32) : Bool := twoPower 31 ≤ x.toBits.toNat

/-- The size of a value as a whole number and the exponent of the power of two it is multiplied
by. What stands for infinity counts as the next number after the greatest. -/
def binary (x : Float32) : Nat × Int :=
  let bits := x.toBits.toNat % twoPower 31
  let fraction := bits % twoPower 23
  let exponent := bits / twoPower 23
  if exponent == 0 then (fraction, leastExponent)
  else (fraction + twoPower 23, (exponent : Int) - 150)

/-- The sizes that round to a value above zero lie between two bounds, which belong to them if
`closed`; the bounds and the value itself are whole numbers over one denominator. -/
structure Interval where
  low : Nat
  value : Nat
  high : Nat
  denominator : Nat
  closed : Bool

/-- The sizes that round to `significand * 2 ^ exponent`. -/
def Interval.around (significand : Nat) (exponent : Int) : Interval :=
  let scale := twoPower exponent.toNat
  let atStep := significand == twoPower 23 && leastExponent < exponent
  { low := (4 * significand - if atStep then 1 else 2) * scale
    value := 4 * significand * scale
    high := (4 * significand + 2) * scale
    denominator := 4 * twoPower (-exponent).toNat
    closed := significand % 2 == 0 }

/-- Whether `digits * 10 ^ places` lies in an interval. -/
def Interval.holds (i : Interval) (digits : Nat) (places : Int) : Bool :=
  let size := digits * tenPower places.toNat * i.denominator
  let unit := tenPower (-places).toNat
  if i.closed then i.low * unit ≤ size && size ≤ i.high * unit
  else i.low * unit < size && size < i.high * unit

/-- How many places before its point the first digit of the value stands. -/
def Interval.point (i : Interval) : Int :=
  (((List.range 90).map fun (n : Nat) => (n : Int) - 50).find? fun place =>
    i.value * tenPower (-place).toNat < tenPower place.toNat * i.denominator).getD 40

/-- The number of `count` digits in the interval that is nearest to the value, if there is one. -/
def Interval.digits? (i : Interval) (count : Nat) : Option (Nat × Int) :=
  let places := i.point - count
  let top := i.value * tenPower (-places).toNat
  let bottom := tenPower places.toNat * i.denominator
  let below := top / bottom
  let nearBelow := 2 * (top % bottom) ≤ bottom
  let first := if nearBelow then below else below + 1
  let second := if nearBelow then below + 1 else below
  if i.holds first places then some (first, places)
  else if i.holds second places then some (second, places)
  else none

/-- Drops the zeros at the end of digits. -/
def dropZeros (digits : List Char) : List Char := (digits.reverse.dropWhile (· == '0')).reverse

/-- The digits of a number, and how many of them stand before the point. -/
def pointed (digits : Nat) (places : Int) : List Char × Int :=
  let written := Nat.toDigits 10 digits
  (dropZeros written, written.length + places)

/-- The fewest digits that read back as a value other than zero, and how many of them stand before
the point. Nine are enough for every value. -/
def shortest (x : Float32) : List Char × Int :=
  let (significand, exponent) := binary x
  let i := Interval.around significand exponent
  match ((List.range 9).map (· + 1)).findSome? i.digits? with
  | some (digits, places) => pointed digits places
  | none => pointed significand 0

/-! ## Printing -/

/-- The number of digits that are printed. -/
def precision : Nat := 6

/-- The digits cut down to those that are printed, a half rounded up. -/
def cutDown (digits : List Char) (point : Int) : List Char × Int :=
  if digits.length ≤ precision then (digits, point)
  else
    let kept := (String.ofList (digits.take precision)).toNat?.getD 0
    let up := (digits.drop precision).head?.any fun c => '5' ≤ c
    pointed (if up then kept + 1 else kept) (point - precision)

/-- Digits whose point stands after `point` of them. -/
def positional (digits : List Char) (point : Int) : List Char :=
  if point ≤ 0 then ['0', '.'] ++ List.replicate (-point).toNat '0' ++ digits
  else
    let whole := digits.take point.toNat
    let filled := whole ++ List.replicate (point.toNat - whole.length) '0'
    match digits.drop point.toNat with
    | [] => filled
    | fraction => filled ++ ['.'] ++ fraction

/-- A whole number with its sign if it is negative. -/
def signed (n : Int) : List Char :=
  (if n < 0 then ['-'] else []) ++ Nat.toDigits 10 n.natAbs

/-- The size of a value. Whether it has an exponent is settled before its digits are cut down, and
the exponent does not change when they are. -/
def magnitude (x : Float32) : List Char :=
  if x == 0 then ['0']
  else
    let (digits, point) := shortest x
    let (shown, shownPoint) := cutDown digits point
    if -6 < point && point ≤ 21 then positional shown shownPoint
    else positional shown (shownPoint - point + 1) ++ ['e'] ++ signed (point - 1)

/-- The sign of a value below zero. -/
def minus (x : Float32) : List Char := if x < 0 then ['-'] else []

/-- A value with a zero before its point if it is a fraction. -/
def full (x : Float32) : String := String.ofList (minus x ++ magnitude x)

/-- Whether a value lies between minus one and one and is not zero. -/
def isFraction (x : Float32) : Bool := x != 0 && x.abs < 1

/-- A value without the zero before its point. -/
def text (x : Float32) : String :=
  let digits := magnitude x
  String.ofList (minus x ++ if isFraction x then digits.dropWhile (· == '0') else digits)

/-- A value before a unit or sign that follows it: like `text`, but zero keeps its sign. -/
def beforeUnit (x : Float32) : String := if x == 0 && isNegative x then "-0" else text x

/-- A value with all that was written of it: its sign, even if it is a plus, its zeros, and the
point of a number that was not written as a whole one. -/
def written (x : Float32) (plus whole : Bool) : String :=
  let digits := magnitude x
  let exact := x - x.floor == 0 && !digits.any fun c => c == '.' || c == 'e'
  String.ofList ((if isNegative x then ['-'] else if plus then ['+'] else []) ++ digits ++
    if !whole && exact then ['.', '0'] else [])

end SelectorPreview.Css.Single
