import SelectorPreview.Css.Measure
/-!
# Calculations

A calculation is a measure, a number, or a sum, a product or a function of calculations. Measures
that can be added are added where they meet, so that only what cannot be known is left.

* `Calculation.add?`, `Calculation.scale` : sum and product with a number;
* `Calculation.text` : a calculation as it is written.
-/

namespace SelectorPreview.Css

/-- How a number is rounded to a multiple of another one. -/
inductive Rounding where
  | nearest
  | up
  | down
  | toZero
  deriving DecidableEq

/-- The functions that may be left in a calculation. -/
inductive Operation where
  | least
  | greatest
  | clamp
  | round (rounding : Rounding)
  | remainder
  | modulus
  | magnitude
  | sign
  | norm
  deriving DecidableEq

/-- The name of a function. -/
def Operation.name : Operation → String
  | .least => "min"
  | .greatest => "max"
  | .clamp => "clamp"
  | .round _ => "round"
  | .remainder => "rem"
  | .modulus => "mod"
  | .magnitude => "abs"
  | .sign => "sign"
  | .norm => "hypot"

/-- A calculation. -/
inductive Calculation where
  | measure (m : Measure)
  | number (n : Float32)
  | sum (a b : Calculation)
  | product (n : Float32) (c : Calculation)
  /-- A calculation in brackets of its own. -/
  | group (c : Calculation)
  | apply (f : Operation) (arguments : List Calculation)
  deriving BEq

/-- Rounds a number to a multiple of another one. -/
def Rounding.apply (rounding : Rounding) (value step : Float32) : Float32 :=
  let steps := value / step
  match rounding with
  | nearest => steps.round * step
  | up => steps.ceil * step
  | down => steps.floor * step
  | toZero => (if steps < 0 then steps.ceil else steps.floor) * step

/-- The word for a way of rounding. -/
def Rounding.text : Rounding → String
  | nearest => "nearest"
  | up => "up"
  | down => "down"
  | toZero => "to-zero"

/-- What is left of a number when a multiple of another one is taken away from it. -/
def floatRemainder (a b : Float32) : Float32 :=
  let quotient := a.toFloat / b.toFloat
  let whole := if quotient < 0 then quotient.ceil else quotient.floor
  (a.toFloat - b.toFloat * whole).toFloat32

/-- The sign of a number as one, minus one or zero; zero keeps its own sign. -/
def signOf (x : Float32) : Float32 := if x == 0 then x else if x < 0 then -1 else 1

namespace Calculation

/-- The calculation of no length. -/
def zero : Calculation := measure Measure.zero

/-- Whether a calculation is a measure of no units. -/
def isZero : Calculation → Bool
  | measure m => m.isZero
  | _ => false

/-! ## Signs -/

/-- A sign that all of some calculations have. -/
def common? : List (Option Float32) → Option Float32
  | [] => none
  | [s] => s
  | s :: rest => do
    let s ← s
    let t ← common? rest
    if s == t then some s else none

mutual

/-- The sign of a calculation, if it is known. -/
def sign? : Calculation → Option Float32
  | measure m => some (signOf m.size)
  | number n => some (signOf n)
  | sum _ _ => none
  | product n c => (sign? c).map (· * signOf n)
  | group c => sign? c
  | apply f arguments =>
    let signs := signs arguments
    match f with
    | .magnitude => some 1
    | .least => common? signs
    | .greatest => common? signs
    | .clamp => common? signs
    | .round _ => common? signs
    | .sign => common? signs
    | _ => none

/-- The signs of calculations. -/
def signs : List Calculation → List (Option Float32)
  | [] => []
  | c :: rest => sign? c :: signs rest

end

/-- Whether a calculation is known not to be positive, minus zero included. -/
def isNegative (c : Calculation) : Bool := (sign? c).any Single.isNegative

/-- Whether a calculation is known not to be negative, zero included. -/
def isPositive (c : Calculation) : Bool := (sign? c).any fun s => !Single.isNegative s

/-! ## Arithmetic -/

/-- A calculation multiplied by a number. -/
def scale (n : Float32) (c : Calculation) : Calculation :=
  if n == 1 then c
  else
    match c with
    | measure m => measure (m.resize (· * n))
    | number m => number (m * n)
    | sum a b => sum (scale n a) (scale n b)
    | product m c => if m * n == 1 then c else product (m * n) c
    | group c => group (scale n c)
    | apply f arguments => product n (apply f arguments)

/-- A sum of two calculations one of which is no measure. Numbers are added up. -/
def joinOpen : Calculation → Calculation → Calculation
  | number a, number b => number (a + b)
  | sum (number a) b, number c => sum (number (a + c)) b
  | sum a (number b), number c => sum a (number (b + c))
  | number a, sum (number b) c => sum (number (a + b)) c
  | number a, sum b (number c) => sum (number (a + c)) b
  | a, b => sum a b

/-- A sum of two calculations that do not add up to a measure. Nothing is added to zero, and what is
negative stands behind. -/
def join (a b : Calculation) : Calculation :=
  if a.isZero then b
  else if b.isZero then a
  else
    let (a, b) := if a.isNegative && b.isPositive then (b, a) else (a, b)
    match a, b with
    | measure a, b => sum (measure a) b
    | a, measure b => sum a (measure b)
    | a, b => joinOpen a b

/-- The sum of a measure and a calculation with a measure in it that can be added to it. -/
def absorb? (m : Measure) : Calculation → Option Calculation
  | measure n => (m.add? n).map measure
  | sum a b =>
    match absorb? m a with
    | some c => some (join c b)
    | none => (absorb? m b).map (join a)
  | _ => none

/-- The sum of two calculations in which measures can be added. -/
def merge? : Calculation → Calculation → Option Calculation
  | measure m, c => absorb? m c
  | sum a b, c =>
    match merge? a c with
    | some d => some (join d b)
    | none => (merge? b c).map (join a)
  | _, _ => none

/-- The sum of two calculations. Measures that cannot be added stay apart if they may, otherwise
there is no sum. -/
def add? (apart : Bool) (a b : Calculation) : Option Calculation :=
  let measured : Option Calculation :=
    if apart then some ((merge? a b).getD (join a b))
    else
      match a, b with
      | measure m, measure n => (m.add? n).map measure
      | _, _ => none
  match a, b with
  | measure _, measure _ => measured
  | measure _, sum _ _ => measured
  | sum _ _, measure _ => measured
  | sum _ _, sum _ _ => if apart then some ((merge? a b).getD (sum a b)) else none
  | a, b => some (joinOpen a b)

/-! ## Writing -/

mutual

/-- A calculation inside another one, multiplied by minus one if `negated`. Lengths have their unit
here even if they are zero. -/
def inner (negated : Bool) : Calculation → String
  | measure m => (if negated then m.resize (· * -1) else m).text
  | number n => Single.text (if negated then n * -1 else n)
  | sum a b =>
    let minus := if negated then b.isPositive else b.isNegative
    inner negated a ++ (if minus then " - " else " + ") ++ inner (negated != minus) b
  | product n c =>
    let n := if negated then n * -1 else n
    if n == 1 then inner false c
    else if n.abs < 1 then inner false c ++ " / " ++ Single.text (1 / n)
    else Single.text n ++ " * " ++ inner false c
  | group c => "calc(" ++ inner negated c ++ ")"
  | apply f arguments =>
    let rounding :=
      match f with
      | .round .nearest => ""
      | .round rounding => rounding.text ++ ", "
      | _ => ""
    (if negated then "-1 * " else "") ++ f.name ++ "(" ++ rounding ++
      ", ".intercalate (inners arguments) ++ ")"

/-- Calculations as arguments of a function. -/
def inners : List Calculation → List String
  | [] => []
  | c :: rest => inner false c :: inners rest

end

/-- A calculation as a value of its own. -/
def text : Calculation → String
  | measure m => m.short
  | c => inner false c

/-- A length of pixels without its unit; any other calculation as it is. -/
def unitless : Calculation → String
  | measure (.length value "px") => Single.text value
  | c => c.text

end Calculation

end SelectorPreview.Css
