import SelectorPreview.Css.Form.Position
/-!
# Forms of transforms

A transform is a list of functions that move, turn, scale and skew a box. What makes no difference
is not written: a second length of zero, a second factor that is like the first one, and a second
angle of zero.

Main definition: `Form.transforms`, the forms of the properties of transforms.
-/

namespace SelectorPreview.Css.Form

/-! ## Arguments -/

/-- An angle; an angle of zero has no unit. -/
def turn : Form := (fun angle => if angle.isZero then "0" else angle.text) <$> Reader.angleOrZero

/-- A factor, which may be given as a percentage. -/
def factor : Form := Single.text <$> (Reader.number <|> Reader.percentage)

/-- A length or a percentage. -/
def distance : Form := ofTerm Term.lengthPercentage

/-- A length. -/
def depth : Form := ofTerm Term.length

/-- Arguments with commas between them, each of its form. -/
def arguments : List Form → Form
  | [] => pure ""
  | [form] => form
  | form :: rest => do
    let first ← form
    Reader.comma
    pure (first ++ ", " ++ (← arguments rest))

/-- One or two arguments of a form. The second one is not written if it is like the default, which
may depend on the first one. -/
def oneOrTwo (form : Form) (default : String → String) : Form := do
  let first ← form
  match ← optional (do Reader.comma; form) with
  | some second => pure (if second == default first then first else first ++ ", " ++ second)
  | none => pure first

/-- One or two distances, the second one only if it is not zero. -/
def twoDistances : Form := do
  let first ← Term.lengthPercentage
  match ← optional (do Reader.comma; Term.lengthPercentage) with
  | some second => pure (if second.isZero then first.text else listed [first.text, second.text])
  | none => pure first.text

/-! ## Functions -/

/-- The functions of transforms as they are written, each with the form of its arguments. -/
def transformFunctions : List (String × Form) :=
  [("matrix", arguments (List.replicate 6 plainNumber)),
    ("matrix3d", arguments (List.replicate 16 plainNumber)),
    ("translate", twoDistances),
    ("translateX", distance),
    ("translateY", distance),
    ("translateZ", depth),
    ("translate3d", arguments [distance, distance, depth]),
    ("scale", oneOrTwo factor id),
    ("scaleX", factor),
    ("scaleY", factor),
    ("scaleZ", factor),
    ("scale3d", arguments [factor, factor, factor]),
    ("rotate", turn),
    ("rotateX", turn),
    ("rotateY", turn),
    ("rotateZ", turn),
    ("rotate3d", arguments [plainNumber, plainNumber, plainNumber, turn]),
    ("skew", oneOrTwo turn fun _ => "0"),
    ("skewX", turn),
    ("skewY", turn),
    ("perspective", depth)]

/-- A function of a transform. -/
def transformFunction : Form := Reader.function fun name arguments => do
  let (written, form) ← transformFunctions.find? fun (f, _) => Text.lowerString f == name
  let text ← form.text? arguments
  pure (written ++ "(" ++ text ++ ")")

/-- A list of functions with nothing between them, or `none`. -/
def transform : Form :=
  keyword ["none"] <|> String.join <$> Reader.repeated transformFunction

/-! ## Single transforms -/

/-- A move by up to three lengths. -/
def translate : Form :=
  keyword ["none"] <|> do
    let x ← Term.lengthPercentage
    let rest ← optional (do
      let y ← Term.lengthPercentage
      pure (y, ← optional Term.length))
    match rest with
    | none => pure x.text
    | some (y, z) =>
      let z := z.filter (! ·.isZero)
      pure (spaced [x.text, textUnless (y.isZero && z.isNone) y.text, (z.map Term.text).getD ""])

/-- The axis of a turn. -/
def axis : Reader (Float32 × Float32 × Float32) :=
  (do
    match ← Reader.keyword ["x", "y", "z"] with
    | "x" => pure (1, 0, 0)
    | "y" => pure (0, 1, 0)
    | _ => pure (0, 0, 1)) <|>
  (do pure (← Reader.number, ← Reader.number, ← Reader.number))

/-- A turn by an angle around an axis, which is the one towards the reader if none is given. -/
def rotate : Form :=
  keyword ["none"] <|> do
    let before ← optional Reader.angle
    let axis := (← optional axis).getD (0, 0, 1)
    let angle ←
      match before with
      | some angle => pure angle
      | none => Reader.angle
    let plain := axis == (0, 0, 1)
    let axisText :=
      if plain then ""
      else if axis == (1, 0, 0) then "x"
      else if axis == (0, 1, 0) then "y"
      else spaced ([axis.1, axis.2.1, axis.2.2].map Single.text)
    pure (if plain && angle.isZero then "none" else spaced [axisText, angle.text])

/-- Whether a factor is one. -/
def isOne (t : Term) : Bool := t == .ofNumber 1 || t == .ofPart 1

/-- A scaling by up to three factors. -/
def scale : Form :=
  keyword ["none"] <|> do
    let x ← Term.numberOrPercentage
    let rest ← optional (do
      let y ← Term.numberOrPercentage
      pure (y, ← optional Term.numberOrPercentage))
    match rest with
    | none => pure x.text
    | some (y, z) =>
      let z := z.filter (! isOne ·)
      pure (spaced [x.text, textUnless (y == x && z.isNone) y.text, (z.map Term.text).getD ""])

/-! ## The properties -/

/-- The forms of the properties of transforms. -/
def transforms : Table :=
  [(["transform"], transform),
    (["transform-origin", "perspective-origin"], Position.text <$> Position.read),
    (["transform-style"], keyword ["flat", "preserve-3d"]),
    (["transform-box"],
      keyword ["content-box", "border-box", "fill-box", "stroke-box", "view-box"]),
    (["backface-visibility"], keyword ["visible", "hidden"]),
    (["perspective"], keyword ["none"] <|> depth),
    (["translate"], translate),
    (["rotate"], rotate),
    (["scale"], scale)]

end SelectorPreview.Css.Form
