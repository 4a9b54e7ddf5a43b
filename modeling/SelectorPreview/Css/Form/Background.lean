import SelectorPreview.Css.Form.Image
/-!
# Forms of backgrounds and masks

Layers of images behind a box, images that hide parts of it, and images on its border. In a layer
what is as by default is not written; a background that is all by default is `none`.

Main definition: `Form.backgrounds`, the forms of these properties.
-/

namespace SelectorPreview.Css.Form

/-! ## Parts of a layer -/

/-- The size of an image. -/
def imageSize : Form :=
  (do
    let width ← Term.lengthOrAuto
    let height ← optional Term.lengthOrAuto
    pure (spaced [width.text, ((height.filter (· != .word "auto")).map Term.text).getD ""])) <|>
  keyword ["cover", "contain"]

/-- The ways that an image is repeated in one direction. -/
def repetitions : List String := ["repeat", "space", "round", "no-repeat"]

/-- How an image is repeated in both directions. -/
def repetition : Form :=
  keyword ["repeat-x", "repeat-y"] <|> do
    match ← Reader.pair (Reader.keyword repetitions) with
    | ("repeat", "no-repeat") => pure "repeat-x"
    | ("no-repeat", "repeat") => pure "repeat-y"
    | (x, y) => pure (if x == y then x else x ++ " " ++ y)

/-- What a background moves with. -/
def attachments : List String := ["scroll", "fixed", "local"]

/-- The boxes that a background is placed in. -/
def backgroundBoxes : List String := ["border-box", "padding-box", "content-box"]

/-- The shapes that a background is cut off at. -/
def backgroundClips : List String := backgroundBoxes ++ ["border", "text"]

/-- The boxes that a shape refers to. -/
def geometryBoxes : List String :=
  ["border-box", "padding-box", "content-box", "margin-box", "fill-box", "stroke-box", "view-box"]

/-- The ways that masks are put together. -/
def compositions : List String := ["add", "subtract", "intersect", "exclude"]

/-- What of an image masks a box. -/
def maskModes : List String := ["luminance", "alpha", "match-source"]

/-- A position and a size after a slash, if it is given. -/
structure Placed where
  position : Position
  size : Option String

/-- A position, and a size after a slash. -/
def placed : Reader Placed := do
  let position ← Position.read
  pure { position, size := ← optional (do Reader.slash; imageSize) }

/-- A position with the size after it unless that is `auto`. -/
def Placed.text (p : Placed) (size : Option String) : String :=
  p.position.text ++ (size.map (" / " ++ ·)).getD ""

/-- A text that is given, unless it is the default. -/
def unlessDefault (default : String) (text : Option String) : Option String :=
  text.filter (· != default)

/-! ## Layers -/

/-- What a layer may consist of. -/
inductive Part where
  | color (c : Color)
  | placed (p : Placed)
  | word (text : String)

/-- The text of a part. -/
def Part.text? : Option Part → Option String
  | some (.word text) => some text
  | _ => none

/-- The position and the size of an image as they are written; nothing if both are as by default. -/
def placedText (isDefault : Position → Bool) (part : Option Part) : String :=
  match part with
  | some (.placed p) =>
    let size := unlessDefault "auto" p.size
    if isDefault p.position && size.isNone then "" else p.text size
  | _ => ""

/-- The boxes that an image is placed in and cut off at. If only one is given it is both. -/
def boxesText (origin clip : Option String) : String :=
  let clip := (clip.or origin).getD "border-box"
  let origin := origin.getD "padding-box"
  if origin != "padding-box" || (clip != "border-box" && backgroundBoxes.contains clip) then
    spaced [origin, textUnless (clip == origin) clip]
  else textUnless (clip == "border-box") clip

/-- A layer of a background. -/
def background : Form := do
  match ← Reader.anyOrder [Part.color <$> Reader.color, Part.placed <$> placed,
      Part.word <$> Image.read, Part.word <$> repetition,
      Part.word <$> Reader.keyword attachments, Part.word <$> Reader.keyword backgroundBoxes,
      Part.word <$> Reader.keyword backgroundClips] with
  | [color, placed, image, repetition, attachment, origin, clip] =>
    let color :=
      match color with
      | some (.color c) => textUnless (c == Color.transparent) c.text
      | _ => ""
    let texts := [color, (unlessDefault "none" (Part.text? image)).getD "",
      placedText Position.isZero placed, (unlessDefault "repeat" (Part.text? repetition)).getD "",
      (unlessDefault "scroll" (Part.text? attachment)).getD "",
      boxesText (Part.text? origin) (Part.text? clip)]
    let text := spaced texts
    pure (if text.isEmpty then "none" else text)
  | _ => failure

/-- A layer of a mask. -/
def mask : Form := do
  match ← Reader.anyOrder [Part.word <$> Image.read, Part.placed <$> placed,
      Part.word <$> repetition, Part.word <$> Reader.keyword geometryBoxes,
      Part.word <$> Reader.keyword ("no-clip" :: geometryBoxes),
      Part.word <$> Reader.keyword compositions, Part.word <$> Reader.keyword maskModes] with
  | [image, placed, repetition, origin, clip, composition, mode] =>
    let clip := ((Part.text? clip).or (Part.text? origin)).getD "border-box"
    let origin := (Part.text? origin).getD "border-box"
    let boxes :=
      if origin != "border-box" || clip != "border-box" then
        spaced [origin, textUnless (clip == origin) clip]
      else ""
    pure (spaced [(Part.text? image).getD "none", placedText (· == Position.start) placed,
      (unlessDefault "repeat" (Part.text? repetition)).getD "", boxes,
      (unlessDefault "add" (Part.text? composition)).getD "",
      (unlessDefault "match-source" (Part.text? mode)).getD ""])
  | _ => failure

/-! ## Images on borders -/

/-- The lines along which an image is cut. -/
structure Slice where
  sides : Sides := .all (.ofPart 1)
  fill : Bool := false
  deriving BEq

namespace Slice

/-- The lines along which an image is cut, and whether its middle is kept. -/
def read : Reader Slice := do
  let before ← Reader.hasWord "fill"
  let sides ← Sides.read Term.numberOrPercentage
  let fill ← if before then pure true else Reader.hasWord "fill"
  pure { sides, fill }

/-- The lines along which an image is cut as they are written. -/
def text (s : Slice) : String := spaced [s.sides.text, textUnless (!s.fill) "fill"]

end Slice

/-- The width of the image of a border. -/
def imageWidth : Reader Term := Term.number <|> Term.lengthPercentage <|> Term.keyword ["auto"]

/-- The ways that the image of a border fills a side. -/
def borderRepetitions : List String := ["stretch", "repeat", "round", "space"]

/-- An image on a border. -/
structure BorderImage where
  source : String := "none"
  slice : Slice := {}
  width : Sides := .all (.ofNumber 1)
  outset : Sides := .all (.ofNumber 0)
  repetition : String := "stretch"
  /-- What of the image masks the border. -/
  mode : String := "alpha"

namespace BorderImage

/-- The lines along which an image is cut, with its width and outset after slashes. -/
def sliced : Reader BorderImage := do
  let slice ← Slice.read
  let more : Reader (Option Sides × Option Sides) := do
    Reader.slash
    let width ← optional (Sides.read imageWidth)
    let outset ← optional (do Reader.slash; Sides.read Term.lengthOrNumber)
    if width.isNone && outset.isNone then failure
    pure (width, outset)
  let (width, outset) := (← optional more).getD (none, none)
  let plain : BorderImage := { slice }
  pure { plain with width := width.getD plain.width, outset := outset.getD plain.outset }

/-- The parts of an image on a border in any order; a mode only if `modes` are allowed. -/
def read (modes : List String) : Reader BorderImage := do
  let ofText (r : Form) (f : String → BorderImage) : Reader BorderImage := f <$> r
  match ← Reader.anyOrder [sliced, ofText Image.read fun source => { source },
      ofText (pairOf (Term.keyword borderRepetitions)) fun repetition => { repetition },
      ofText (Reader.keyword modes) fun mode => { mode }] with
  | [none, none, none, none] => failure
  | [slice, source, repetition, mode] =>
    pure { slice.getD {} with
      source := (source.getD {}).source
      repetition := (repetition.getD {}).repetition
      mode := (mode.getD {}).mode }
  | _ => failure

/-- An image on a border as it is written. Parts after a part that is written have a space or slash
before them, also at the start. -/
def text (b : BorderImage) : String :=
  let wide := b.width != .all (.ofNumber 1)
  let far := b.outset != .all (.ofNumber 0)
  let cut :=
    if b.slice != {} || wide || far then
      " " ++ b.slice.text ++ (if wide || far then " / " else "") ++
        (if wide then b.width.text else "") ++ (if far then " / " ++ b.outset.text else "")
    else ""
  textUnless (b.source == "none") b.source ++ cut ++
    (if b.repetition == "stretch" then "" else " " ++ b.repetition) ++
    (if b.mode == "alpha" then "" else " " ++ b.mode)

end BorderImage

/-! ## The properties -/

/-- The forms of the properties of backgrounds, masks and images on borders. -/
def backgrounds : Table :=
  [(["background-color"], ofTerm Term.ofColor),
    (["background-image", "mask-image"], listOf Image.read),
    (["background-position", "mask-position"], listOf (Position.text <$> Position.read)),
    (["background-position-x", "mask-position-x"],
      listOf (Place.text <$> Place.read Place.acrossSides)),
    (["background-position-y", "mask-position-y"],
      listOf (Place.text <$> Place.read Place.downSides)),
    (["background-size", "mask-size"], listOf imageSize),
    (["background-repeat", "mask-repeat"], listOf repetition),
    (["background-attachment"], listOf (keyword attachments)),
    (["background-origin"], listOf (keyword backgroundBoxes)),
    (["background-clip"], listOf (keyword backgroundClips)),
    (["background"], listOf background),
    (["mask-mode"], listOf (keyword maskModes)),
    (["mask-clip"], listOf (keyword ("no-clip" :: geometryBoxes))),
    (["mask-origin"], listOf (keyword geometryBoxes)),
    (["mask-composite"], listOf (keyword compositions)),
    (["-webkit-mask-composite"],
      listOf (keyword ["clear", "copy", "source-over", "source-in", "source-out", "source-atop",
        "destination-over", "destination-in", "destination-out", "destination-atop", "xor"])),
    (["mask-source-type"], listOf (keyword ["auto", "luminance", "alpha"])),
    (["mask-type"], keyword ["luminance", "alpha"]),
    (["mask"], listOf mask),
    (["border-image-source", "mask-border-source", "mask-box-image-source"], Image.read),
    (["border-image-slice", "mask-border-slice", "mask-box-image-slice"],
      Slice.text <$> Slice.read),
    (["border-image-width", "mask-border-width", "mask-box-image-width"], sidesOf imageWidth),
    (["border-image-outset", "mask-border-outset", "mask-box-image-outset"],
      sidesOf Term.lengthOrNumber),
    (["border-image-repeat", "mask-border-repeat", "mask-box-image-repeat"],
      pairOf (Term.keyword borderRepetitions)),
    (["border-image", "mask-box-image"], BorderImage.text <$> BorderImage.read []),
    (["mask-border-mode"], keyword ["luminance", "alpha"]),
    (["mask-border"], BorderImage.text <$> BorderImage.read ["luminance", "alpha"])]

end SelectorPreview.Css.Form
