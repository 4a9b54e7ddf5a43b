import SelectorPreview.Css.Form.Position
import SelectorPreview.Css.Value
/-!
# Images

An image is an address, a gradient, or a set of images for different screens. A gradient is a list
of colours with the places that they stand at and with hints between them. What is as by default is
not written: the direction from top to bottom, an ellipse as far as the farthest corner, the middle
of the box as the center, and a hint in the middle of two colours.

Main definitions: `Image.read`, an image or `none`, and `Image.address`, an address.
-/

namespace SelectorPreview.Css

open Text

/-! ## Gradients -/

/-- A colour of a gradient or a hint between two of them. -/
inductive Stop where
  | color (c : Color) (position : Option Calculation)
  | hint (position : Calculation)
  deriving BEq

namespace Stop

/-- The stops of one part of a gradient; a colour with two places is two stops. A hint may only
follow a colour. -/
def ofPart (place : Reader Calculation) (hints : Bool) : Reader (List Stop) := do
  let hinted ← if hints then optional place else pure none
  match hinted with
  | some position => pure [hint position]
  | none =>
    let c ← Reader.color
    let first ← optional place
    match ← optional place with
    | some second => pure [color c first, color c (some second)]
    | none => pure [color c first]

/-- The stops of the parts of a gradient. -/
def ofParts? (place : Reader Calculation) (hints : Bool) :
    List (List Component) → Option (List Stop)
  | [] => some []
  | part :: parts => do
    let stops ← Reader.whole? (ofPart place hints) part
    let isHint := stops.any fun
      | hint _ => true
      | color _ _ => false
    let rest ← ofParts? place (!isHint) parts
    pure (stops ++ rest)

/-- All stops of a gradient. -/
def read (place : Reader Calculation) : Reader (List Stop) := fun cs =>
  (ofParts? place false (Reader.splitCommas cs)).map (·, [])

/-- A stop as it is written. -/
def text : Stop → String
  | color c position => spaced [c.text, (position.map Calculation.text).getD ""]
  | hint position => position.text

/-- Whether a stop is a hint that says nothing. -/
def isUseless (s : Stop) : Bool := s == hint (.measure (.percentage 0.5))

/-- Stops as they are written; `last` is the stop before them if a second place may be added
to it. -/
def textAfter (last : Option Stop) : List Stop → String
  | [] => ""
  | s :: rest =>
    match last, s with
    | some (color c (some _)), color d (some position) =>
      if c == d then " " ++ position.text ++ textAfter none rest
      else ", " ++ text s ++ textAfter (some s) rest
    | _, _ => ", " ++ text s ++ textAfter (some s) rest

/-- The stops of a gradient as they are written; of two stops of one colour both places stand after
it. -/
def listText (stops : List Stop) : String :=
  match stops.filter (! ·.isUseless) with
  | [] => ""
  | s :: rest => text s ++ textAfter (some s) rest

end Stop

namespace Gradient

/-! ### Along a line -/

/-- The direction of a gradient along a line: its text, and whether it is from top to bottom. -/
def direction (marked : Bool) : Reader (String × Bool) :=
  (do
    let angle ← Reader.angleOrZero
    let down :=
      match angle with
      | .measure (.angle value unit) => unit.toDegrees value == 180
      | _ => false
    pure (angle.text, down)) <|>
  (do
    if !marked then Reader.word "to"
    let start := if marked then "" else "to "
    let sides := [Reader.keyword Place.downSides, Reader.keyword Place.acrossSides]
    match ← Reader.anyOrder sides with
    | [none, none] => failure
    | [down, across] =>
      pure (start ++ spaced [down.getD "", across.getD ""],
        down == some "bottom" && across.isNone)
    | _ => failure)

/-- A gradient along a line. -/
def linear (marked : Bool) : Form := do
  match ← optional (direction marked) with
  | some (text, down) => do
    Reader.comma
    let stops ← Stop.read Reader.lengthPercentage
    pure (if down then Stop.listText stops else text ++ ", " ++ Stop.listText stops)
  | none => Stop.listText <$> Stop.read Reader.lengthPercentage

/-! ### Around a point -/

/-- How far a shape reaches. -/
def extents : List String := ["closest-side", "farthest-side", "closest-corner", "farthest-corner"]

/-- The extent of a shape that is not given. -/
def defaultExtent : String := "farthest-corner"

/-- Two radii. -/
def radii : Form := do
  let x ← Reader.lengthPercentage
  let y ← Reader.lengthPercentage
  pure (x.text ++ " " ++ y.text)

/-- An ellipse, the default shape as the empty text. -/
def ellipse : Form :=
  let shown (extent : String) : String := textUnless (extent == defaultExtent) extent
  (do
    let extent ← Reader.keyword extents
    if ← Reader.hasWord "circle" then failure
    let _ ← Reader.hasWord "ellipse"
    pure (shown extent)) <|>
  (do
    let text ← radii
    let _ ← Reader.hasWord "ellipse"
    pure text) <|>
  (do
    Reader.word "ellipse"
    shown <$> Reader.keyword extents <|> radii <|> pure "")

/-- A circle. -/
def circle : Form :=
  let shown (extent : String) : String :=
    spaced ["circle", textUnless (extent == defaultExtent) extent]
  let radius : Form := Calculation.text <$> Reader.length
  (do
    let extent ← Reader.keyword extents
    Reader.word "circle"
    pure (shown extent)) <|>
  (do
    let text ← radius
    let _ ← Reader.hasWord "circle"
    pure text) <|>
  (do
    Reader.word "circle"
    shown <$> Reader.keyword extents <|> radius <|> pure "circle")

/-- What stands before the stops of a gradient around a point: its shape or angle, and its center
unless that is the middle. -/
def beforeStops (shape : String) (center : Position) : String :=
  let parts := spaced [shape, textUnless center.isCenter ("at " ++ center.text)]
  if parts.isEmpty then "" else parts ++ ", "

/-- A gradient from a point outwards. -/
def radial : Form := do
  let shape ← optional (ellipse <|> circle)
  let center ← optional Position.afterAt
  if shape.isSome || center.isSome then Reader.comma
  let stops ← Stop.read Reader.lengthPercentage
  pure (beforeStops (shape.getD "") (center.getD .center) ++ Stop.listText stops)

/-- A gradient around a point, from an angle on. -/
def conic : Form := do
  let angle ← optional (do Reader.word "from"; Reader.angleOrZero)
  let center ← optional Position.afterAt
  let turned := angle.any (! ·.isZero)
  let moved := center.any (· != Position.center)
  if turned || moved then Reader.comma
  let stops ← Stop.read (Reader.calculation .anglePercentage)
  let start := if turned then "from " ++ (angle.map Calculation.text).getD "" else ""
  pure (beforeStops start (center.getD .center) ++ Stop.listText stops)

/-! ### The older function -/

/-- A part of a point, by the names of the sides in its direction. -/
def pointPart (sides : List String) : Form :=
  Reader.keyword ("center" :: sides) <|> Single.text <$> Reader.number <|>
    (fun part => if part == 0 then "0" else Measure.percentageText part) <$> Reader.percentage

/-- A point. -/
def point : Form := do
  let x ← pointPart Place.acrossSides
  let y ← pointPart Place.downSides
  pure (x ++ " " ++ y)

/-- A colour with the place that it stands at. -/
def stop : Form := Reader.function fun name arguments =>
  let place : Reader Float32 :=
    match name with
    | "from" => pure 0
    | "to" => pure 1
    | "color-stop" => do
      let place ← Reader.number <|> Reader.percentage
      Reader.comma
      pure place
    | _ => failure
  Reader.whole? (do
    let place ← place
    let color := (← Reader.color).text
    pure (if place == 0 then "from(" ++ color ++ ")"
      else if place == 1 then "to(" ++ color ++ ")"
      else "color-stop(" ++ Single.text place ++ ", " ++ color ++ ")")) arguments

/-- A part of a function with the comma after it. -/
def beforeComma (r : Form) : Form := do
  let text ← r
  Reader.comma
  pure text

/-- A gradient of the older function. -/
def older : Form := do
  let kind ← beforeComma (Reader.keyword ["linear", "radial"])
  let source ← beforeComma point
  let first ← if kind == "radial" then (· :: []) <$> beforeComma (Single.text <$> Reader.number)
    else pure []
  let target ← beforeComma point
  let second ← if kind == "radial" then (· :: []) <$> beforeComma (Single.text <$> Reader.number)
    else pure []
  let stops ← Reader.commaList stop
  pure (listed (kind :: source :: first ++ target :: second ++ stops))

/-! ### All gradients -/

/-- The functions of gradients, each with the form of its arguments. -/
def functions : Form.Table :=
  [(["linear-gradient", "repeating-linear-gradient"], linear false),
    (["-webkit-linear-gradient", "-webkit-repeating-linear-gradient", "-moz-linear-gradient",
      "-moz-repeating-linear-gradient", "-o-linear-gradient", "-o-repeating-linear-gradient"],
      linear true),
    (["radial-gradient", "repeating-radial-gradient", "-webkit-radial-gradient",
      "-webkit-repeating-radial-gradient", "-moz-radial-gradient",
      "-moz-repeating-radial-gradient", "-o-radial-gradient", "-o-repeating-radial-gradient"],
      radial),
    (["conic-gradient", "repeating-conic-gradient"], conic),
    (["-webkit-gradient"], older)]

/-- A gradient. -/
def form : Form := Reader.function fun name arguments => do
  let (_, form) ← functions.find? fun (names, _) => names.contains name
  let text ← form.text? arguments
  pure (name ++ "(" ++ text ++ ")")

end Gradient

/-! ## Images -/

namespace Image

/-- The value of an address. -/
def addressValue : Reader String := Reader.one fun
  | .token (.url value) => some value
  | .function name arguments =>
    match lowerString name, significant arguments with
    | "url", [.token (.string value)] => some value
    | _, _ => none
  | _ => none

/-- An address. -/
def address : Form := urlText <$> addressValue

/-- The resolution of a screen. -/
def resolution : Form := Reader.one fun
  | .token (.dimension n unit) =>
    (Measure.resolutionUnits.lookup (lowerString unit)).map (Single.beforeUnit n.value ++ ·)
  | _ => none

/-- The type of a file. -/
def fileType : Form := Form.callOf "type" (quotedString <$> Reader.string)

/-- An image of a set, with its resolution and the type of its file. -/
def candidate (address image : Form) : Form := do
  let image ← address <|> image
  let before ← optional resolution
  let kind ← optional fileType
  let after ← if before.isSome then pure none else optional resolution
  pure (spaced [image, (before.or after).getD "1x", kind.getD ""])

/-- The addresses in a set: strings, as which other addresses are written as well, unless the set
is that of a vendor. -/
def setAddress (marked : Bool) : Form :=
  let value : Reader String := addressValue <|> Reader.string
  (if marked then urlText else quotedString) <$> value

/-- An image; sets of images are nested at most `depth` times. -/
def readNested : Nat → Form
  | 0 => failure
  | depth + 1 =>
    Form.keyword ["none"] <|> address <|> Gradient.form <|>
      Form.callOf "image-set" (Form.listOf (candidate (setAddress false) (readNested depth))) <|>
      Form.callOf "-webkit-image-set" (Form.listOf (candidate (setAddress true) (readNested depth)))

/-- An image, or `none`. -/
def read : Form := fun cs => readNested (Component.depthList cs + 1) cs

end Image

end SelectorPreview.Css
