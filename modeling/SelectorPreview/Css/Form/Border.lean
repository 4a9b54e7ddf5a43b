import SelectorPreview.Css.Term
/-!
# Forms of borders

A border is a width, a style and a colour in any order. Parts that are as by default are not
written; of a border that is all by default the style is.

Main definition: `Form.borders`, the forms of the properties of borders and outlines. The images of
borders stand with the other images.
-/

namespace SelectorPreview.Css.Form

/-- The styles of a line. -/
def lineStyles : List String :=
  ["none", "hidden", "inset", "groove", "outset", "ridge", "dotted", "dashed", "solid", "double"]

/-- The width of a line. -/
def lineWidth : Reader Term := Term.length <|> Term.keyword ["thin", "medium", "thick"]

/-- A width, a style and a colour. -/
def border (styles : List String) : Form := do
  match ← Reader.anyOrder [lineWidth, Term.keyword styles, Term.ofColor] with
  | [none, none, none] => failure
  | [width, style, color] =>
    let defaults := [(width, Term.word "medium"), (style, .word "none"), (color, .color .current)]
    let shown := defaults.filterMap fun (part, default) => part.filter (· != default)
    pure (if shown.isEmpty then "none" else spaced (shown.map Term.text))
  | _ => failure

/-- The horizontal and the vertical radius of a corner. -/
def radius : Form := pairOf Term.lengthPercentage

/-- The horizontal radii of all corners, and after a slash the vertical ones if they differ. -/
def radii : Form := do
  let across ← Sides.read Term.lengthPercentage
  let down ← optional (do Reader.slash; Sides.read Term.lengthPercentage)
  pure (across.text ++
    match down with
    | some s => if s == across then "" else " / " ++ s.text
    | none => "")

/-- The forms of the properties of borders and outlines. -/
def borders : Table :=
  [(["border-top-color", "border-bottom-color", "border-left-color", "border-right-color",
      "border-block-start-color", "border-block-end-color", "border-inline-start-color",
      "border-inline-end-color", "outline-color"], ofTerm Term.ofColor),
    (["border-color"], sidesOf Term.ofColor),
    (["border-block-color", "border-inline-color"], pairOf Term.ofColor),
    (["border-top-style", "border-bottom-style", "border-left-style", "border-right-style",
      "border-block-start-style", "border-block-end-style", "border-inline-start-style",
      "border-inline-end-style"], keyword lineStyles),
    (["outline-style"], keyword ("auto" :: lineStyles)),
    (["border-style"], sidesOf (Term.keyword lineStyles)),
    (["border-block-style", "border-inline-style"], pairOf (Term.keyword lineStyles)),
    (["border-top-width", "border-bottom-width", "border-left-width", "border-right-width",
      "border-block-start-width", "border-block-end-width", "border-inline-start-width",
      "border-inline-end-width", "outline-width"], ofTerm lineWidth),
    (["border-width"], sidesOf lineWidth),
    (["border-block-width", "border-inline-width"], pairOf lineWidth),
    (["border", "border-top", "border-bottom", "border-left", "border-right", "border-block",
      "border-block-start", "border-block-end", "border-inline", "border-inline-start",
      "border-inline-end"], border lineStyles),
    (["outline"], border ("auto" :: lineStyles)),
    (["border-top-left-radius", "border-top-right-radius", "border-bottom-left-radius",
      "border-bottom-right-radius", "border-start-start-radius", "border-start-end-radius",
      "border-end-start-radius", "border-end-end-radius"], radius),
    (["border-radius"], radii),
    (["border-spacing"], pairOf Term.length)]

end SelectorPreview.Css.Form
