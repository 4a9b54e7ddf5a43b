import SelectorPreview.Css.Measure
/-!
# Colour spaces

A colour is given by three coordinates in a space and by its opacity. All spaces but one are reached
from another one, their base, so that every space has a way to every other. A coordinate that is no
number is missing; it counts as zero when a colour is brought into another space.

* `Coordinates.convert` : a colour in another space;
* `Coordinates.fit` : the nearest colour that a space can show.
-/

namespace SelectorPreview.Css

/-- The spaces of colours. -/
inductive ColorSpace where
  /-- Red, green and blue up to 255. -/
  | rgb
  | srgb
  | srgbLinear
  | displayP3
  | a98
  | proPhoto
  | rec2020
  | xyzD50
  | xyzD65
  | lab
  | lch
  | oklab
  | oklch
  | hsl
  | hwb
  deriving DecidableEq

/-- Three coordinates and an opacity. -/
structure Coordinates where
  a : Float32
  b : Float32
  c : Float32
  alpha : Float32
  deriving BEq

namespace ColorSpace

/-- The names of the coordinates of a space. -/
def names : ColorSpace → List String
  | rgb => ["r", "g", "b"]
  | srgb => ["r", "g", "b"]
  | srgbLinear => ["r", "g", "b"]
  | displayP3 => ["r", "g", "b"]
  | a98 => ["r", "g", "b"]
  | proPhoto => ["r", "g", "b"]
  | rec2020 => ["r", "g", "b"]
  | xyzD50 => ["x", "y", "z"]
  | xyzD65 => ["x", "y", "z"]
  | lab => ["l", "a", "b"]
  | oklab => ["l", "a", "b"]
  | lch => ["l", "c", "h"]
  | oklch => ["l", "c", "h"]
  | hsl => ["h", "s", "l"]
  | hwb => ["h", "w", "b"]

/-- The space that a space is reached from. -/
def base? : ColorSpace → Option ColorSpace
  | rgb => some srgb
  | hsl => some srgb
  | hwb => some srgb
  | srgb => some srgbLinear
  | srgbLinear => some xyzD65
  | displayP3 => some xyzD65
  | a98 => some xyzD65
  | rec2020 => some xyzD65
  | proPhoto => some xyzD50
  | lch => some lab
  | lab => some xyzD50
  | xyzD50 => some xyzD65
  | oklch => some oklab
  | oklab => some xyzD65
  | xyzD65 => none

/-- The spaces on the way from a space to the one that has no base; there are at most five. -/
def way (s : ColorSpace) : List ColorSpace :=
  let step (s : ColorSpace) : List ColorSpace := s.base?.toList
  let once := step s
  let twice := once.flatMap step
  let thrice := twice.flatMap step
  s :: once ++ twice ++ thrice ++ thrice.flatMap step

end ColorSpace

/-! ## Arithmetic -/

/-- Three rows of three numbers. -/
structure Matrix3 where
  rows : List (List Float32)

/-- A matrix applied to three numbers. -/
def Matrix3.apply (m : Matrix3) (x : Coordinates) : Coordinates :=
  let row (n : Nat) : Float32 :=
    match m.rows[n]? with
    | some [p, q, r] => p * x.a + q * x.b + r * x.c
    | _ => 0
  ⟨row 0, row 1, row 2, x.alpha⟩

namespace Coordinates

/-- The same function applied to the three coordinates. -/
def map (f : Float32 → Float32) (x : Coordinates) : Coordinates :=
  ⟨f x.a, f x.b, f x.c, x.alpha⟩

/-- A number, or zero if there is none. -/
def orZero (x : Float32) : Float32 := if x.isNaN then 0 else x

/-- The coordinates with zero for those that are missing. -/
def resolve (x : Coordinates) : Coordinates :=
  ⟨orZero x.a, orZero x.b, orZero x.c, orZero x.alpha⟩

/-- Whether a coordinate or the opacity is missing. -/
def hasMissing (x : Coordinates) : Bool :=
  x.a.isNaN || x.b.isNaN || x.c.isNaN || x.alpha.isNaN

/-- The sign of a number put before a function of its size. -/
def withSign (x : Float32) (f : Float32 → Float32) : Float32 :=
  if x < 0 then -1 * f x.abs else f x.abs

/-- The third power. -/
def cube (x : Float32) : Float32 := x * x * x

/-! ### Light -/

/-- Linear light of a coordinate of the standard space. -/
def srgbToLinear (x : Float32) : Float32 :=
  if x.abs < 0.04045 then x / 12.92 else withSign x fun x => ((x + 0.055) / 1.055).pow 2.4

/-- A coordinate of the standard space of linear light. -/
def linearToSrgb (x : Float32) : Float32 :=
  if 0.0031308 < x.abs then withSign x fun x => 1.055 * x.pow (1 / 2.4) - 0.055 else 12.92 * x

/-- Linear light of a coordinate of the photographic space. -/
def proPhotoToLinear (x : Float32) : Float32 :=
  if x.abs ≤ 16 / 512 then x / 16 else withSign x (·.pow 1.8)

/-- A coordinate of the photographic space of linear light. -/
def linearToProPhoto (x : Float32) : Float32 :=
  if 1 / 512 ≤ x.abs then withSign x (·.pow (1 / 1.8)) else 16 * x

/-- The constant that the wide space is scaled by. -/
def wideScale : Float32 := 1.09929682680944

/-- Where the curve of the wide space begins. -/
def wideStart : Float32 := 0.018053968510807

/-- Linear light of a coordinate of the wide space. -/
def wideToLinear (x : Float32) : Float32 :=
  if x.abs < wideStart * 4.5 then x / 4.5
  else withSign x fun x => ((x + wideScale - 1) / wideScale).pow (1 / 0.45)

/-- A coordinate of the wide space of linear light. -/
def linearToWide (x : Float32) : Float32 :=
  if wideStart < x.abs then withSign x fun x => wideScale * x.pow 0.45 - (wideScale - 1)
  else 4.5 * x

/-! ### Matrices -/

/-- From linear light to tristimulus values. -/
def linearToXyz : Matrix3 := ⟨[
  [0.41239079926595934, 0.357584339383878, 0.1804807884018343],
  [0.21263900587151027, 0.715168678767756, 0.07219231536073371],
  [0.01933081871559182, 0.11919477979462598, 0.9505321522496607]]⟩

/-- From tristimulus values to linear light. -/
def xyzToLinear : Matrix3 := ⟨[
  [3.2409699419045226, -1.537383177570094, -0.4986107602930034],
  [-0.9692436362808796, 1.8759675015077202, 0.04155505740717559],
  [0.05563007969699366, -0.20397695888897652, 1.0569715142428786]]⟩

/-- From the display space to tristimulus values. -/
def displayToXyz : Matrix3 := ⟨[
  [0.4865709486482162, 0.26566769316909306, 0.1982172852343625],
  [0.2289745640697488, 0.6917385218365064, 0.079286914093745],
  [0, 0.04511338185890264, 1.043944368900976]]⟩

/-- From tristimulus values to the display space. -/
def xyzToDisplay : Matrix3 := ⟨[
  [2.493496911941425, -0.9313836179191239, -0.40271078445071684],
  [-0.8294889695615747, 1.7626640603183463, 0.023624685841943577],
  [0.03584583024378447, -0.07617238926804182, 0.9568845240076872]]⟩

/-- From the space of printers to tristimulus values. -/
def a98ToXyz : Matrix3 := ⟨[
  [0.5766690429101305, 0.1855582379065463, 0.1882286462349947],
  [0.29734497525053605, 0.6273635662554661, 0.07529145849399788],
  [0.02703136138641234, 0.07068885253582723, 0.9913375368376388]]⟩

/-- From tristimulus values to the space of printers. -/
def xyzToA98 : Matrix3 := ⟨[
  [2.0415879038107465, -0.5650069742788596, -0.34473135077832956],
  [-0.9692436362808795, 1.8759675015077202, 0.04155505740717557],
  [0.013444280632031142, -0.11836239223101838, 1.0151749943912054]]⟩

/-- From the photographic space to tristimulus values. -/
def proPhotoToXyz : Matrix3 := ⟨[
  [0.7977604896723027, 0.13518583717574031, 0.0313493495815248],
  [0.2880711282292934, 0.7118432178101014, 0.00008565396060525902],
  [0, 0, 0.8251046025104601]]⟩

/-- From tristimulus values to the photographic space. -/
def xyzToProPhoto : Matrix3 := ⟨[
  [1.3457989731028281, -0.25558010007997534, -0.05110628506753401],
  [-0.5446224939028347, 1.5082327413132781, 0.02053603239147973],
  [0, 0, 1.2119675456389454]]⟩

/-- From the wide space to tristimulus values. -/
def wideToXyz : Matrix3 := ⟨[
  [0.6369580483012914, 0.14461690358620832, 0.1688809751641721],
  [0.2627002120112671, 0.6779980715188708, 0.05930171646986196],
  [0, 0.028072693049087428, 1.060985057710791]]⟩

/-- From tristimulus values to the wide space. -/
def xyzToWide : Matrix3 := ⟨[
  [1.7166511879712674, -0.35567078377639233, -0.25336628137365974],
  [-0.6666843518324892, 1.6164812366349395, 0.01576854581391113],
  [0.017639857445310783, -0.042770613257808524, 0.9421031212354738]]⟩

/-- From the daylight of evening to that of noon. -/
def warmToCool : Matrix3 := ⟨[
  [0.9554734527042182, -0.023098536874261423, 0.0632593086610217],
  [-0.028369706963208136, 1.0099954580058226, 0.021041398966943008],
  [0.012314001688319899, -0.020507696433477912, 1.3303659366080753]]⟩

/-- From the daylight of noon to that of evening. -/
def coolToWarm : Matrix3 := ⟨[
  [1.0479298208405488, 0.022946793341019088, -0.05019222954313557],
  [0.029627815688159344, 0.990434484573249, -0.01707382502938514],
  [-0.009243058152591178, 0.015055144896577895, 0.7518742899580008]]⟩

/-- From tristimulus values to the response of the eye. -/
def xyzToEye : Matrix3 := ⟨[
  [0.8190224432164319, 0.3619062562801221, -0.12887378261216414],
  [0.0329836671980271, 0.9292868468965546, 0.03614466816999844],
  [0.048177199566046255, 0.26423952494422764, 0.6335478258136937]]⟩

/-- From the response of the eye to lightness and two opponent colours. -/
def eyeToOklab : Matrix3 := ⟨[
  [0.2104542553, 0.7936177850, -0.0040720468],
  [1.9779984951, -2.4285922050, 0.4505937099],
  [0.0259040371, 0.7827717662, -0.8086757660]]⟩

/-- From the response of the eye to tristimulus values. -/
def eyeToXyz : Matrix3 := ⟨[
  [1.2268798733741557, -0.5578149965554813, 0.28139105017721583],
  [-0.04057576262431372, 1.1122868293970594, -0.07171106666151701],
  [-0.07637294974672142, -0.4214933239627914, 1.5869240244272418]]⟩

/-- From lightness and two opponent colours to the response of the eye. -/
def oklabToEye : Matrix3 := ⟨[
  [0.99999999845051981432, 0.39633779217376785678, 0.21580375806075880339],
  [1.0000000088817607767, -0.1055613423236563494, -0.063854174771705903402],
  [1.0000000546724109177, -0.089484182094965759684, -1.2914855378640917399]]⟩

/-! ### Lightness -/

/-- The white of evening daylight. -/
def white : Coordinates := ⟨0.3457 / 0.3585, 1, (1 - 0.3457 - 0.3585) / 0.3585, 1⟩

/-- The slope of lightness near black. -/
def darkSlope : Float32 := 24389 / 27

/-- Where lightness becomes a root. -/
def darkEnd : Float32 := 216 / 24389

/-- Tristimulus values of lightness and two opponent colours. -/
def labToXyz (x : Coordinates) : Coordinates :=
  let middle := (x.a + 16) / 116
  let first := x.b / 500 + middle
  let last := middle - x.c / 200
  let light (f : Float32) : Float32 :=
    if darkEnd < cube f then cube f else (116 * f - 16) / darkSlope
  let y := if darkSlope * darkEnd < x.a then cube middle else x.a / darkSlope
  ⟨light first * white.a, y * white.b, light last * white.c, x.alpha⟩

/-- Lightness and two opponent colours of tristimulus values. -/
def xyzToLab (x : Coordinates) : Coordinates :=
  let root (v : Float32) : Float32 :=
    if darkEnd < v then v.cbrt else (darkSlope * v + 16) / 116
  let first := root (x.a / white.a)
  let middle := root (x.b / white.b)
  let last := root (x.c / white.c)
  ⟨116 * middle - 16, 500 * (first - middle), 200 * (middle - last), x.alpha⟩

/-- Two opponent colours as a distance and a hue. -/
def toPolar (x : Coordinates) : Coordinates :=
  let hue := x.c.atan2 x.b * 180 / circleRatio
  let hue := if hue < 0 then hue + 360 else hue
  ⟨x.a, (x.b * x.b + x.c * x.c).sqrt, if 360 ≤ hue then hue - 360 else hue, x.alpha⟩

/-- A distance and a hue as two opponent colours. -/
def fromPolar (x : Coordinates) : Coordinates :=
  let hue := x.c * circleRatio / 180
  ⟨x.a, x.b * hue.cos, x.b * hue.sin, x.alpha⟩

/-! ### Hue, saturation and lightness -/

/-- The smaller of two numbers. -/
def least (x y : Float32) : Float32 := if x < y then x else y

/-- The larger of two numbers. -/
def greatest (x y : Float32) : Float32 := if x < y then y else x

/-- Hue, saturation and lightness of red, green and blue; grey has no hue. -/
def srgbToHsl (x : Coordinates) : Coordinates :=
  let top := greatest (greatest x.a x.b) x.c
  let bottom := least (least x.a x.b) x.c
  let lightness := (bottom + top) / 2
  let spread := top - bottom
  if spread == 0 then ⟨0 / 0, 0, lightness * 100, x.alpha⟩
  else
    let saturation :=
      if lightness == 0 || lightness == 1 then 0
      else (top - lightness) / least lightness (1 - lightness)
    let hue :=
      if top == x.a then (x.b - x.c) / spread + (if x.b < x.c then 6 else 0)
      else if top == x.b then (x.c - x.a) / spread + 2
      else (x.a - x.b) / spread + 4
    ⟨hue * 60, saturation * 100, lightness * 100, x.alpha⟩

/-- Red, green or blue between two bounds by a hue in thirds of the circle. -/
def hueLevel (low high third : Float32) : Float32 :=
  let third := if third < 0 then third + 3 else third
  let third := if 3 < third then third - 3 else third
  if third * 2 < 1 then low + (high - low) * third * 2
  else if third * 2 < 3 then high
  else if third < 2 then low + (high - low) * (2 - third) * 2
  else low

/-- Red, green and blue of hue, saturation and lightness, the last two as parts of one. -/
def srgbOfHue (hue saturation lightness alpha : Float32) : Coordinates :=
  let turn := (hue - 360 * (hue / 360).floor) / 360
  let high :=
    if lightness ≤ 0.5 then lightness * (saturation + 1)
    else lightness + saturation - lightness * saturation
  let low := lightness * 2 - high
  let third := turn * 3
  ⟨hueLevel low high (third + 1), hueLevel low high third, hueLevel low high (third - 1), alpha⟩

/-- Red, green and blue of hue, saturation and lightness. -/
def hslToSrgb (x : Coordinates) : Coordinates := srgbOfHue x.a (x.b / 100) (x.c / 100) x.alpha

/-- Hue, whiteness and blackness of red, green and blue. -/
def srgbToHwb (x : Coordinates) : Coordinates :=
  let white := least (least x.a x.b) x.c
  let black := 1 - greatest (greatest x.a x.b) x.c
  ⟨(srgbToHsl x).a, white * 100, black * 100, x.alpha⟩

/-- Red, green and blue of hue, whiteness and blackness. -/
def hwbToSrgb (x : Coordinates) : Coordinates :=
  let white := x.b / 100
  let black := x.c / 100
  if 1 ≤ white + black then
    let grey := white / (white + black)
    ⟨grey, grey, grey, x.alpha⟩
  else (srgbOfHue x.a 1 0.5 x.alpha).map fun v => v * (1 - white - black) + white

/-! ## Conversion -/

/-- A colour of a space in the base of the space. -/
def toBase (s : ColorSpace) (x : Coordinates) : Coordinates :=
  let x := x.resolve
  match s with
  | .rgb => x.map (· / 255)
  | .hsl => hslToSrgb x
  | .hwb => hwbToSrgb x
  | .srgb => x.map srgbToLinear
  | .srgbLinear => linearToXyz.apply x
  | .displayP3 => displayToXyz.apply (x.map srgbToLinear)
  | .a98 => a98ToXyz.apply (x.map fun v => withSign v (·.pow (563 / 256)))
  | .rec2020 => wideToXyz.apply (x.map wideToLinear)
  | .proPhoto => proPhotoToXyz.apply (x.map proPhotoToLinear)
  | .lch => fromPolar x
  | .lab => labToXyz x
  | .xyzD50 => warmToCool.apply x
  | .oklch => fromPolar x
  | .oklab => eyeToXyz.apply ((oklabToEye.apply x).map cube)
  | .xyzD65 => x

/-- A colour of the base of a space in the space. -/
def ofBase (s : ColorSpace) (x : Coordinates) : Coordinates :=
  let x := x.resolve
  match s with
  | .rgb => x.map (· * 255)
  | .hsl => srgbToHsl x
  | .hwb => srgbToHwb x
  | .srgb => x.map linearToSrgb
  | .srgbLinear => xyzToLinear.apply x
  | .displayP3 => (xyzToDisplay.apply x).map linearToSrgb
  | .a98 => (xyzToA98.apply x).map fun v => withSign v (·.pow (256 / 563))
  | .rec2020 => (xyzToWide.apply x).map linearToWide
  | .proPhoto => (xyzToProPhoto.apply x).map linearToProPhoto
  | .lch => toPolar x
  | .lab => xyzToLab x
  | .xyzD50 => coolToWarm.apply x
  | .oklch => toPolar x
  | .oklab => eyeToOklab.apply ((xyzToEye.apply x).map Float32.cbrt)
  | .xyzD65 => x

/-- A colour of one space in another one, by the shortest way over their bases. -/
def convert (source target : ColorSpace) (x : Coordinates) : Coordinates :=
  if source = target then x
  else
    let up := source.way.takeWhile fun s => !target.way.contains s
    let down := target.way.takeWhile fun s => !source.way.contains s
    down.reverse.foldl (fun x s => ofBase s x) (up.foldl (fun x s => toBase s x) x)

/-! ## What a space can show -/

/-- A number between two bounds. -/
def clampTo (low high x : Float32) : Float32 :=
  if x < low then low else if high < x then high else x

/-- Whether a number lies between zero and a bound. -/
def within (high x : Float32) : Bool := 0 ≤ x && x ≤ high

/-- Whether a space can show a colour. -/
def isShown (s : ColorSpace) (x : Coordinates) : Bool :=
  let all (high : Float32) : Bool := within high x.a && within high x.b && within high x.c
  match s with
  | .rgb => all 255
  | .srgb => all 1
  | .srgbLinear => all 1
  | .displayP3 => all 1
  | .a98 => all 1
  | .proPhoto => all 1
  | .rec2020 => all 1
  | .hsl => within 100 x.b && within 100 x.c
  | .hwb => within 100 x.b && within 100 x.c
  | _ => true

/-- The coordinates cut off at the bounds of a space. -/
def clip (s : ColorSpace) (x : Coordinates) : Coordinates :=
  let alpha := clampTo 0 1 x.alpha
  match s with
  | .rgb => { x.map (clampTo 0 255) with alpha }
  | .hsl => ⟨x.a, clampTo 0 100 x.b, clampTo 0 100 x.c, alpha⟩
  | .hwb => ⟨x.a, clampTo 0 100 x.b, clampTo 0 100 x.c, alpha⟩
  | _ => { x.map (clampTo 0 1) with alpha }

/-- The distance of two colours as the eye sees it. -/
def distance (x y : Coordinates) : Float32 :=
  let square (v : Float32) : Float32 := v * v
  (square (x.a - y.a) + square (x.b - y.b) + square (x.c - y.c)).sqrt

/-- Halves the range of the distance from grey in which the strongest colour is that a space can
show, at most `steps` times. -/
def search (s : ColorSpace) (x : Coordinates) (low high : Float32) : Nat → Coordinates
  | 0 => convert .oklch s x
  | steps + 1 =>
    if 0.00001 < high - low then
      let middle := (low + high) / 2
      let x := { x with b := middle }
      let converted := convert .oklch s x
      if isShown s converted then search s x middle high steps
      else
        let clipped := clip s converted
        if distance (convert s .oklab clipped) (convert .oklch .oklab x) < 0.02 then clipped
        else search s x low middle steps
    else convert .oklch s x

/-- The nearest colour of the same lightness and hue that a space can show. -/
def fit (s : ColorSpace) (x : Coordinates) : Coordinates :=
  if isShown s x then x
  else
    let polar := convert s .oklch x
    if (polar.a - 1).abs < 0.00001 || 1 < polar.a then
      convert .oklch s ⟨1, 0, 0, polar.alpha⟩
    else if polar.a < 0.00001 then convert .oklch s ⟨0, 0, 0, polar.alpha⟩
    else search s polar 0 polar.b 64

end Coordinates

end SelectorPreview.Css
