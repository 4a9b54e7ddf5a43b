import SelectorPreview.Css.Color
/-!
# Mixing colours

Two colours are mixed in a space, each with a part of the whole. A coordinate that one of them lacks
is taken from the other one; hues are mixed along the circle, and all other coordinates in
proportion to the opacity.

Main definition: `Color.mix?`, the mixture of two colours.
-/

namespace SelectorPreview.Css

/-- The way round the circle between two hues. -/
inductive HuePath where
  | shorter
  | longer
  | increasing
  | decreasing
  | specified
  deriving DecidableEq

namespace HuePath

/-- A hue within one turn. -/
def normal (hue : Float32) : Float32 := hue - 360 * (hue / 360).floor

/-- Two hues, one of them brought one turn further where the path asks for it. -/
def adjust (path : HuePath) (a b : Float32) : Float32 × Float32 :=
  let (a, b) := if path = specified then (a, b) else (normal a, normal b)
  let delta := b - a
  match path with
  | shorter => if 180 < delta then (a + 360, b) else if delta < -180 then (a, b + 360) else (a, b)
  | longer =>
    if 0 < delta && delta < 180 then (a + 360, b)
    else if -180 < delta && delta ≤ 0 then (a, b + 360)
    else (a, b)
  | increasing => if b < a then (a, b + 360) else (a, b)
  | decreasing => if a < b then (a + 360, b) else (a, b)
  | specified => (a, b)

end HuePath

namespace ColorSpace

/-- Whether the first coordinate of a space is a hue. -/
def startsWithHue (s : ColorSpace) : Bool := s = hsl || s = hwb

/-- Whether the last coordinate of a space is a hue. -/
def endsWithHue (s : ColorSpace) : Bool := s = lch || s = oklch

end ColorSpace

namespace Coordinates

/-- What counts as zero. -/
def tiny : Float32 := 1.1920929e-7

/-- No number. -/
def missing : Float32 := 0 / 0

/-- A colour without the coordinates that make no difference to it. -/
def dropPowerless (s : ColorSpace) (x : Coordinates) : Coordinates :=
  match s with
  | .lab => if x.a.abs < tiny then { x with b := missing, c := missing } else x
  | .oklab => if x.a.abs < tiny then { x with b := missing, c := missing } else x
  | .lch => polar x
  | .oklch => polar x
  | .hsl =>
    let x := if x.b.abs < tiny then { x with a := missing } else x
    if x.c.abs < tiny then { x with a := missing, b := missing } else x
  | .hwb => if ((x.b + x.c) / 100 - 1).abs < tiny then { x with a := missing } else x
  | _ => x
where
  /-- A colour without its hue if it is grey, and without its distance from grey if it is black. -/
  polar (x : Coordinates) : Coordinates :=
    let x := if x.b.abs < tiny then { x with c := missing } else x
    if x.a.abs < tiny then { x with b := missing, c := missing } else x

/-- A colour with the coordinates that it lacks taken from another one. -/
def fillFrom (x y : Coordinates) : Coordinates :=
  let pick (v w : Float32) : Float32 := if v.isNaN then w else v
  ⟨pick x.a y.a, pick x.b y.b, pick x.c y.c, pick x.alpha y.alpha⟩

/-- The coordinates other than hues changed by a function. -/
def mapSizes (s : ColorSpace) (f : Float32 → Float32) (x : Coordinates) : Coordinates :=
  ⟨if s.startsWithHue then x.a else f x.a, f x.b, if s.endsWithHue then x.c else f x.c, x.alpha⟩

/-- The coordinates in proportion to the opacity. -/
def premultiply (s : ColorSpace) (x : Coordinates) : Coordinates :=
  if x.alpha.isNaN then x else x.mapSizes s (· * x.alpha)

/-- The coordinates in full, with an opacity that is brought down by a factor. -/
def unpremultiply (s : ColorSpace) (factor : Float32) (x : Coordinates) : Coordinates :=
  if x.alpha.isNaN || x.alpha == 0 then x
  else { x.mapSizes s (· / x.alpha) with alpha := x.alpha * factor }

/-- Two colours with their hues brought along a path. -/
def adjustHues (s : ColorSpace) (path : HuePath) (x y : Coordinates) : Coordinates × Coordinates :=
  if s.startsWithHue then
    let (a, b) := path.adjust x.a y.a
    ({ x with a := a }, { y with a := b })
  else if s.endsWithHue then
    let (a, b) := path.adjust x.c y.c
    ({ x with c := a }, { y with c := b })
  else (x, y)

/-- The sum of parts of two colours. -/
def blend (x y : Coordinates) (p q : Float32) : Coordinates :=
  ⟨x.a * p + y.a * q, x.b * p + y.b * q, x.c * p + y.c * q, x.alpha * p + y.alpha * q⟩

end Coordinates

namespace Color

open Coordinates

/-- A colour in a space, made ready to be mixed. -/
def prepare? (s : ColorSpace) (color : Color) : Option Coordinates := do
  let (space, x) ← color.coordinates?
  if space = s then pure x else pure (dropPowerless s (fit s (convert space s x)))

/-- The mixture of two plain colours. -/
def mixPlain? (s : ColorSpace) (path : HuePath) (first second : Color) (p q : Float32) :
    Option Color := do
  let x ← prepare? s first
  let y ← prepare? s second
  let filled := x.fillFrom y
  let (x, y) := adjustHues s path filled (y.fillFrom filled)
  let total := p + q
  let (p, q) := if total == 1 then (p, q) else (p / total, q / total)
  let factor := if 1 < total then 1 else total
  pure (ofCoordinates s (unpremultiply s factor (blend (premultiply s x) (premultiply s y) p q)))

/-- Whether a colour is another one on light ground than on dark. -/
def isLightDark : Color → Bool
  | lightDark _ _ => true
  | _ => false

/-- The mixture of two colours, in parts that are not both zero. -/
def mix? (s : ColorSpace) (path : HuePath) (first second : Color) (p q : Float32) :
    Option Color := do
  if p + q == 0 then none
  else if first.isLightDark || second.isLightDark then do
    let light ← mixPlain? s path first.onLight second.onLight p q
    let dark ← mixPlain? s path first.onDark second.onDark p q
    pure (lightDark light dark)
  else mixPlain? s path first second p q

end Color

end SelectorPreview.Css
