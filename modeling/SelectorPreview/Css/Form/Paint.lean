import SelectorPreview.Css.Form.Background
import SelectorPreview.Css.Form.Border
/-!
# Forms of paint

Colours and opacity, shadows, filters, the shapes that a box is cut to, and how drawings are filled
and stroked.

Main definition: `Form.paints`, the forms of these properties.
-/

namespace SelectorPreview.Css.Form

/-! ## Shadows -/

/-- Lengths at the start of a shadow: two offsets, then up to `most` others that are zero if they
are missing. -/
def shadowLengths (most : Nat) : Reader (List Term) := do
  let x ← Term.length
  let y ← Term.length
  let rest ← more most
  pure (x :: y :: rest)
where
  /-- Lengths, as many as there are up to a limit. -/
  more : Nat → Reader (List Term)
    | 0 => pure []
    | n + 1 => do
      match ← optional Term.length with
      | some l => pure (l :: (← more n))
      | none => pure []

/-- A shadow: its offsets, other lengths as far as one is not zero, and its colour unless that is
the colour of the text. -/
def shadow (inset : Bool) (most : Nat) : Form := do
  let lengths : Reader (List Term) := shadowLengths most
  let color : Reader (List Term) := ([·]) <$> Term.ofColor
  let mark : Reader (List Term) :=
    if inset then ([·]) <$> Term.keyword ["inset"] else failure
  match ← Reader.anyOrder [mark, lengths, color] with
  | [mark, some (x :: y :: others), color] =>
    let shown := (others.reverse.dropWhile (· == .amount .zero)).reverse
    let color := ((color.getD []).filter (· != .color .current))
    pure (spaced ((mark.getD [] ++ x :: y :: shown ++ color).map Term.text))
  | _ => failure

/-! ## Filters -/

/-- The text of an argument that may be missing, unless it is the default. -/
def optionalArgument (r : Reader Term) (isDefault : Term → Bool) : Form := do
  let argument ← optional r
  pure (((argument.filter (! isDefault ·)).map Term.text).getD "")

/-- A factor that is one if it is missing. -/
def share : Form :=
  optionalArgument Term.numberOrPercentage fun t => t == .ofNumber 1 || t == .ofPart 1

/-- A function of a filter. -/
def filterFunction : Form :=
  callOf "blur" (optionalArgument Term.length (· == .amount .zero)) <|>
    callOf "hue-rotate" (optionalArgument (Term.amount <$> Reader.angleOrZero) Term.isZero) <|>
    callOf "drop-shadow" (shadow false 1) <|>
    (["brightness", "contrast", "grayscale", "invert", "opacity", "saturate", "sepia"].map
      fun name => callOf name share).foldr (· <|> ·) failure

/-- A list of filters, or `none`. -/
def filters : Form :=
  keyword ["none"] <|> spaced <$> Reader.many (Image.address <|> filterFunction)

/-! ## Shapes -/

/-- What fills a shape whose outline crosses itself. -/
def fillRules : List String := ["nonzero", "evenodd"]

/-- The center of a round shape, unless it is the middle. -/
def shapeCenter : Form := do
  let center ← optional Position.afterAt
  pure (((center.filter (! ·.isCenter)).map fun center => "at " ++ center.text).getD "")

/-- The radius of a round shape. -/
def shapeRadius : Form :=
  ofTerm Term.lengthPercentage <|> keyword ["closest-side", "farthest-side"]

/-- A radius as far as the closest side, which is the default. -/
def closest : String := "closest-side"

/-- A rectangle with round corners. -/
def insetShape : Form := do
  let sides ← Sides.read Term.lengthPercentage
  let round ← optional (do Reader.word "round"; radii)
  pure (spaced [sides.text, ((round.filter (· != "0")).map ("round " ++ ·)).getD ""])

/-- A circle. -/
def circleShape : Form := do
  let radius := (← optional shapeRadius).getD closest
  pure (spaced [textUnless (radius == closest) radius, ← shapeCenter])

/-- An ellipse. -/
def ellipseShape : Form := do
  let both ← optional (do pure (← shapeRadius, ← shapeRadius))
  let (x, y) := both.getD (closest, closest)
  pure (spaced [textUnless (x == closest && y == closest) (x ++ " " ++ y), ← shapeCenter])

/-- A point by its distances from the left and the top. -/
def shapePoint : Form := do
  let x ← Term.lengthPercentage
  let y ← Term.lengthPercentage
  pure (x.text ++ " " ++ y.text)

/-- A shape with straight sides. -/
def polygonShape : Form := do
  let rule ← optional (do
    let rule ← Reader.keyword fillRules
    Reader.comma
    pure rule)
  let points ← Reader.commaList shapePoint
  pure (listed ((rule.filter (· != "nonzero")).toList ++ points))

/-- A shape. -/
def shape : Form :=
  callOf "inset" insetShape <|> callOf "circle" circleShape <|> callOf "ellipse" ellipseShape <|>
    callOf "polygon" polygonShape

/-- What a box is cut to: a shape and the box that it refers to, or only one of them. -/
def clipPath : Form :=
  Image.address <|> keyword ["none"] <|> do
    match ← Reader.anyOrder [shape, Reader.keyword geometryBoxes] with
    | [some shape, box] => pure (spaced [shape, (box.filter (· != "border-box")).getD ""])
    | [none, some box] => pure box
    | _ => failure

/-! ## Drawings -/

/-- The paint of a drawing: a colour, or an address with another paint that takes its place. -/
def drawingPaint : Form :=
  (do
    let address ← Image.address
    let other ← optional (keyword ["none"] <|> ofTerm Term.ofColor)
    pure (spaced [address, other.getD ""])) <|>
  ofTerm Term.ofColor <|> keyword ["none", "context-fill", "context-stroke"]

/-- A length of dashes, without the unit of pixels. -/
def dash : Form := Calculation.unitless <$> Reader.lengthPercentage

/-- The dashes of a line. -/
def dashes : Form :=
  keyword ["none"] <|> do
    let first ← dash
    let rest ← Reader.many (do let _ ← optional Reader.comma; dash)
    pure (spaced (first :: rest))

/-- A mark on a line, or none. -/
def marker : Form := keyword ["none"] <|> Image.address

/-- A number; a percentage is written as a number. -/
def opacity : Form := Single.text <$> (Reader.number <|> Reader.percentage)

/-! ## The properties -/

/-- The forms of the properties of paint. -/
def paints : Table :=
  [(["color"], ofTerm Term.ofColor),
    (["opacity", "fill-opacity", "stroke-opacity"], opacity),
    (["box-shadow"], listOf (shadow true 2)),
    (["text-shadow"], listOf (shadow false 2)),
    (["filter", "backdrop-filter"], filters),
    (["clip-path"], clipPath),
    (["fill-rule", "clip-rule"], keyword fillRules),
    (["fill", "stroke"], drawingPaint),
    (["stroke-width", "stroke-dashoffset"], ofTerm Term.lengthPercentage),
    (["stroke-linecap"], keyword ["butt", "round", "square"]),
    (["stroke-linejoin"], keyword ["miter", "miter-clip", "round", "bevel", "arcs"]),
    (["stroke-miterlimit"], ofTerm Term.number),
    (["stroke-dasharray"], dashes),
    (["marker-start", "marker-mid", "marker-end", "marker"], marker),
    (["color-interpolation", "color-interpolation-filters"],
      keyword ["auto", "srgb", "linearrgb"]),
    (["color-rendering", "image-rendering"], keyword ["auto", "optimizespeed", "optimizequality"]),
    (["shape-rendering"], keyword ["auto", "optimizespeed", "crispedges", "geometricprecision"]),
    (["text-rendering"],
      keyword ["auto", "optimizespeed", "optimizelegibility", "geometricprecision"])]

end SelectorPreview.Css.Form
