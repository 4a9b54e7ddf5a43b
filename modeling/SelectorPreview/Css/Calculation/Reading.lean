import SelectorPreview.Css.Calculation
import SelectorPreview.Css.Reader
/-!
# Reading calculations

A calculation is read from a function and its arguments. Sums need blanks around their signs, a
product needs a number on one side, and a quotient a number on its right that is not zero.

Main definitions: `Calculation.ofCall?`, the calculation that a function stands for, and
`Calculation.ofComponent?`, which takes plain numbers and measures as well.
-/

namespace SelectorPreview.Css

open Text

namespace Calculation

/-- What a calculation has to come out as. -/
inductive Kind where
  | length
  | percentage
  | lengthPercentage
  | angle
  | anglePercentage
  | duration
  | number
  deriving DecidableEq

namespace Kind

/-- Whether a measure may stand in a calculation of a kind. -/
def admits (kind : Kind) : Measure → Bool
  | .length _ _ => kind = length || kind = lengthPercentage
  | .percentage _ => kind = percentage || kind = lengthPercentage || kind = anglePercentage
  | .angle _ _ => kind = angle || kind = anglePercentage
  | .seconds _ => kind = duration
  | .milliseconds _ => kind = duration

/-- Whether calculations of a kind may hold measures that cannot be added. -/
def apart (kind : Kind) : Bool :=
  kind = length || kind = lengthPercentage || kind = anglePercentage

/-- Whether an angle may stand in a calculation of a kind. -/
def takesAngle (kind : Kind) : Bool := kind = angle || kind = anglePercentage

end Kind

/-- What a calculation has to come out as, and the calculations that words in it stand for. -/
structure Scope where
  kind : Kind
  names : String → Option Calculation := fun _ => none

/-- A number, if a calculation is one. -/
def number? : Calculation → Option Float32
  | number n => some n
  | _ => none

/-- The scope of another kind, in which only words for numbers are known. -/
def Scope.numbers (scope : Scope) (kind : Kind) : Scope :=
  { kind, names := fun name => ((scope.names name).bind number?).map number }

/-! ## Terms -/

/-- What stands in a calculation. -/
inductive Item where
  | operand (c : Calculation)
  | mark (c : Char)
  | word (w : String)
  | comma
  | blank

/-- The numbers that have a name. -/
def constants : List (String × Float32) :=
  [("e", 2.718281828459045), ("pi", circleRatio), ("infinity", 1 / 0), ("-infinity", -1 / 0),
    ("nan", 0 / 0)]

/-- A calculation without the brackets around it. -/
def ungrouped : Calculation → Calculation
  | group c => c
  | c => c

/-- What a token stands for in a calculation. -/
def tokenItem? (scope : Scope) : Token → Option Item
  | .whitespace _ => some .blank
  | .comma => some .comma
  | .delim c => some (.mark c)
  | .number n => some (.operand (number n.value))
  | .percentage n =>
    let m := Measure.percentage n.part
    if scope.kind.admits m then some (.operand (measure m)) else none
  | .dimension n unit =>
    match Measure.ofUnit? n.value unit with
    | some m => if scope.kind.admits m then some (.operand (measure m)) else none
    | none => none
  | .ident name =>
    match constants.lookup (lowerString name) with
    | some n => some (.operand (number n))
    | none =>
      match scope.names name with
      | some c => some (.operand c)
      | none => some (.word (lowerString name))
  | _ => none

/-- A product, or none if both of its sides are no numbers. -/
def multiply? (a b : Calculation) : Option Calculation :=
  match a, b with
  | a, number n => some (scale n a)
  | number n, b => some (scale n b)
  | _, _ => none

/-- A quotient, or none if its right side is no number or zero. -/
def divide? : Calculation → Calculation → Option Calculation
  | a, number n => if n != 0 then some (scale (1 / n) a) else none
  | _, _ => none

/-- What may follow at a place in a sum. -/
inductive Expected where
  /-- The first factor of a product. -/
  | first
  | factor
  | divisor
  /-- A sign of multiplication or division; a sign of addition only after a blank. -/
  | sign (blank : Bool)

/-- A sum that has been read so far: the products before the last one, that product, and whether it
is taken away from them. -/
structure Progress where
  total : Option Calculation := none
  product : Calculation := number 0
  negated : Bool := false
  expected : Expected := .first

/-- The sum with its last product. -/
def Progress.finish? (apart : Bool) (p : Progress) : Option Calculation :=
  let last := if p.negated then scale (-1) p.product else p.product
  match p.total with
  | none => some last
  | some total => add? apart total last

/-- Reads one more item of a sum. -/
def Progress.add? (apart : Bool) (p : Progress) (i : Item) : Option Progress :=
  match p.expected, i with
  | .sign _, .blank => some { p with expected := .sign true }
  | _, .blank => some p
  | .first, .operand c => some { p with product := c, expected := .sign false }
  | .factor, .operand c =>
    (multiply? p.product c).map fun c => { p with product := c, expected := .sign false }
  | .divisor, .operand c =>
    (divide? p.product c).map fun c => { p with product := c, expected := .sign false }
  | .sign blank, .mark c =>
    if c == '*' then some { p with expected := .factor }
    else if c == '/' then some { p with expected := .divisor }
    else if blank && (c == '+' || c == '-') then
      (p.finish? apart).map fun total => { total := some total, negated := c == '-' }
    else none
  | _, _ => none

/-- The calculation that items stand for. -/
def ofItems? (apart : Bool) (items : List Item) : Option Calculation := do
  let p ← items.foldlM (Progress.add? apart) {}
  match p.expected with
  | .sign _ => p.finish? apart
  | _ => none

/-- Whether an item is a comma. -/
def Item.isComma : Item → Bool
  | comma => true
  | _ => false

/-! ## Functions -/

/-- The order of two calculations, as far as it is known. -/
def compare? : Calculation → Calculation → Option Ordering
  | measure a, measure b => Measure.compare? a b
  | number a, number b => Measure.order? a b
  | _, _ => none

/-- Puts a calculation among others of which none can be compared with another; of two that can be
compared only the one is kept that comes first in an order. -/
def keepFirst (wanted : Ordering) (kept : List Calculation) (c : Calculation) : List Calculation :=
  match kept with
  | [] => [c]
  | d :: rest =>
    match compare? c d with
    | some order => (if order == wanted then c else d) :: rest
    | none => d :: keepFirst wanted rest c

/-- The least or the greatest of some calculations. -/
def extreme (f : Operation) (wanted : Ordering) (cs : List Calculation) : Calculation :=
  match cs.foldl (keepFirst wanted) [] with
  | [c] => c
  | kept => apply f kept

/-- A calculation between two bounds; if the bounds are in the wrong order the lower one holds. -/
def clamped (low center high : Calculation) : Calculation :=
  let (center, high) :=
    match compare? center high with
    | some .gt => (high, none)
    | some _ => (center, none)
    | none => (center, some high)
  let (center, low) :=
    match compare? center low with
    | some .lt => (low, none)
    | some _ => (center, none)
    | none => (center, some low)
  match low, high with
  | none, none => center
  | some low, none => apply .greatest [low, center]
  | none, some high => apply .least [center, high]
  | some low, some high => apply .clamp [low, center, high]

/-- An operation on two measures of one kind or on two numbers. -/
def combine? (f : Float32 → Float32 → Float32) :
    Calculation → Calculation → Option Calculation
  | measure a, measure b => (Measure.combine? f a b).map measure
  | number a, number b => some (number (f a b))
  | _, _ => none

/-- An operation on a number or on a measure; what a percentage comes to is only known where
percentages are asked for. -/
def map? (kind : Kind) (f : Float32 → Float32) : Calculation → Option Calculation
  | measure m =>
    if m.isPercentage && kind ≠ .percentage then none else some (measure (m.resize f))
  | number n => some (number (f n))
  | _ => none

/-- The root of the sum of squares. -/
def norm? (kind : Kind) (cs : List Calculation) : Option Calculation :=
  let square (x : Float) : Float := x * x
  match cs with
  | [] => none
  | [c] => some c
  | [a, b] =>
    combine? (fun x y => (square x.toFloat + square y.toFloat).sqrt.toFloat32) a b
  | first :: rest => do
    let first ← map? kind (fun x => x * x) first
    let total ← rest.foldlM (fun total c => combine? (fun x y => x + y * y) total c) first
    map? kind Float32.sqrt total

/-- The angle whose tangent is a quotient. -/
def quotientAngle? : Calculation → Calculation → Option Float32
  | measure a, measure b => (Measure.alike? a b).map fun (x, y, _) => x.atan2 y
  | number a, number b => some (a.atan2 b)
  | _, _ => none

/-- The functions of a number or an angle that give a number. -/
def trigonometric : List (String × (Float32 → Float32)) :=
  [("sin", Float32.sin), ("cos", Float32.cos), ("tan", Float32.tan)]

/-- The functions of a number that give an angle. -/
def inverse : List (String × (Float32 → Float32)) :=
  [("asin", Float32.asin), ("acos", Float32.acos), ("atan", Float32.atan)]

/-- The functions of a number that give a number. -/
def numeric : List (String × (Float32 → Float32)) :=
  [("sqrt", Float32.sqrt), ("exp", Float32.exp)]

/-- The words for ways of rounding. -/
def roundings : List (String × Rounding) :=
  [("nearest", .nearest), ("up", .up), ("down", .down), ("to-zero", .toZero)]

/-- An angle in radians, where an angle is asked for. -/
def angleResult? (kind : Kind) (radians : Float32) : Option Calculation :=
  if kind.takesAngle then some (measure (.angle radians .radians)) else none

/-- The arguments of a function, read in a scope. -/
abbrev Arguments := Scope → Option (List Item)

/-- The calculations that the arguments of a function stand for. -/
def Arguments.calculations? (arguments : Arguments) (scope : Scope) :
    Option (List Calculation) := do
  ((← arguments scope).splitOnP (·.isComma)).mapM (ofItems? scope.kind.apart)

/-- The numbers that the arguments of a function stand for. -/
def Arguments.numbers? (arguments : Arguments) (scope : Scope) : Option (List Float32) := do
  (← arguments.calculations? (scope.numbers .number)).mapM number?

/-- A word before the first comma of some items, and what follows the comma. -/
def roundingAndRest (items : List Item) : Option (Rounding × List Item) :=
  match items.filter (fun | .blank => false | _ => true) with
  | .word w :: .comma :: _ =>
    (roundings.lookup w).map fun rounding =>
      (rounding, (items.dropWhile fun | .comma => false | _ => true).drop 1)
  | _ => none

/-- The calculation that a function of some name stands for. -/
def ofFunction? (scope : Scope) (name : String) (arguments : Arguments) : Option Calculation :=
  let kind := scope.kind
  match name with
  | "calc" =>
    match arguments.calculations? scope with
    | some [measure m] => some (measure m)
    | some [number n] => some (number n)
    | some [c] => some (group c)
    | _ => none
  | "min" => (arguments.calculations? scope).map (extreme .least .lt)
  | "max" => (arguments.calculations? scope).map (extreme .greatest .gt)
  | "clamp" =>
    match arguments.calculations? scope with
    | some [low, center, high] => some (clamped low center high)
    | _ => none
  | "round" => do
    let items ← arguments scope
    let (rounding, items) := (roundingAndRest items).getD (.nearest, items)
    match (items.splitOnP (·.isComma)).mapM (ofItems? kind.apart) with
    | some [a, b] =>
      some ((combine? rounding.apply a b).getD (apply (.round rounding) [a, b]))
    | _ => none
  | "rem" =>
    match arguments.calculations? scope with
    | some [a, b] => some ((combine? floatRemainder a b).getD (apply .remainder [a, b]))
    | _ => none
  | "mod" =>
    match arguments.calculations? scope with
    | some [a, b] =>
      let modulo (x y : Float32) : Float32 := floatRemainder (floatRemainder x y + y) y
      some ((combine? modulo a b).getD (apply .modulus [a, b]))
    | _ => none
  | "abs" =>
    match arguments.calculations? scope with
    | some [a] => some ((map? kind Float32.abs a).getD (apply .magnitude [a]))
    | _ => none
  | "sign" =>
    match arguments.calculations? scope with
    | some [a] =>
      match map? kind signOf a with
      | some (measure m) => some (number (signOf m.size))
      | some c => some c
      | none => some (apply .sign [a])
    | _ => none
  | "hypot" =>
    (arguments.calculations? scope).map fun cs => (norm? kind cs).getD (apply .norm cs)
  | "pow" =>
    match arguments.numbers? scope with
    | some [a, b] => some (number (a.pow b))
    | _ => none
  | "log" =>
    match arguments.numbers? scope with
    | some [a] => some (number a.log)
    | some [a, b] => some (number (a.log / b.log))
    | _ => none
  | "atan2" =>
    let plain : List Scope :=
      [{ kind := .length }, { kind := .percentage }, { kind := .angle }, { kind := .duration }]
    let radians := (plain ++ [scope.numbers .number]).findSome? fun scope =>
      match arguments.calculations? scope with
      | some [a, b] => quotientAngle? a b
      | _ => none
    radians.bind (angleResult? kind)
  | name =>
    match trigonometric.lookup name with
    | some f =>
      match arguments.calculations? (scope.numbers .angle) with
      | some [measure (.angle value unit)] => some (number (f (unit.toRadians value)))
      | some [number n] => some (number (f n))
      | _ => none
    | none =>
      match inverse.lookup name with
      | some f =>
        match arguments.calculations? (scope.numbers .angle) with
        | some [number n] =>
          let radians := f n
          if radians.isNaN then some (number radians) else angleResult? kind radians
        | _ => none
      | none => do
        let f ← numeric.lookup name
        match arguments.numbers? scope with
        | some [n] => some (number (f n))
        | _ => none

mutual

/-- What a component stands for in a calculation. -/
def itemOf? (scope : Scope) : Component → Option Item
  | .token t => tokenItem? scope t
  | .block .round contents => do
    let items ← itemsOf? scope contents
    let c ← ofItems? scope.kind.apart items
    pure (.operand c)
  | .block _ _ => none
  | .function name arguments => do
    let c ← ofFunction? scope (lowerString name) fun inside => itemsOf? inside arguments
    pure (.operand (ungrouped c))

/-- What components stand for in a calculation; comments stand for nothing. -/
def itemsOf? (scope : Scope) : List Component → Option (List Item)
  | [] => some []
  | c :: rest =>
    if c.isComment then itemsOf? scope rest
    else do
      let first ← itemOf? scope c
      let more ← itemsOf? scope rest
      pure (first :: more)

end

/-- The calculation that a function with its arguments stands for. -/
def ofCall? (scope : Scope) (name : String) (arguments : List Component) : Option Calculation :=
  ofFunction? scope (lowerString name) fun inside => itemsOf? inside arguments

/-- Whether a calculation is a result of a kind; where measures cannot stay apart it has to come out
as one measure or number. -/
def isResult (kind : Kind) (c : Calculation) : Bool :=
  kind.apart ||
    match c with
    | measure _ => true
    | number _ => kind = .number
    | _ => false

/-- The calculation that a component stands for. A number is a length in pixels where a length may
stand. -/
def ofComponent? (kind : Kind) : Component → Option Calculation
  | .function name arguments => (ofCall? { kind } name arguments).filter (isResult kind)
  | .token (.number n) =>
    if kind = .number then some (number n.value)
    else if kind = .length || kind = .lengthPercentage then
      some (measure (.length n.value "px"))
    else none
  | .token t =>
    match tokenItem? { kind } t with
    | some (.operand (measure m)) => some (measure m)
    | _ => none
  | _ => none

end Calculation

namespace Reader

/-- A calculation of a kind. -/
def calculation (kind : Calculation.Kind) : Reader Calculation :=
  one (Calculation.ofComponent? kind)

/-- A length. -/
def length : Reader Calculation := calculation .length

/-- A length or a percentage. -/
def lengthPercentage : Reader Calculation := calculation .lengthPercentage

/-- An angle. -/
def angle : Reader Calculation := calculation .angle

/-- An angle, or the number zero. -/
def angleOrZero : Reader Calculation :=
  angle <|> one fun
    | .token (.number n) =>
      if n.value == 0 then some (.measure (.angle 0 .degrees)) else none
    | _ => none

/-- A number. -/
def number : Reader Float32 := one fun c =>
  (Calculation.ofComponent? .number c).bind Calculation.number?

/-- A percentage, as a part of the whole. -/
def percentage : Reader Float32 := one fun c =>
  match Calculation.ofComponent? .percentage c with
  | some (.measure m) => some m.size
  | _ => none

end Reader

end SelectorPreview.Css
