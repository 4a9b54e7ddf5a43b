import SelectorPreview.Css.Term
/-!
# Forms of boxes

The size of a box, the room around it, its place and the way it is laid out.

Main definition: `Form.boxes`, the forms of the properties of boxes.
-/

namespace SelectorPreview.Css.Form

/-! ## Sizes -/

/-- The keywords that size a box by its contents or by what is around it. -/
def sizeWords : List String :=
  ["min-content", "-webkit-min-content", "-moz-min-content", "max-content",
    "-webkit-max-content", "-moz-max-content", "fit-content", "-webkit-fit-content",
    "-moz-fit-content", "stretch", "-webkit-fill-available", "-moz-available", "contain"]

/-- The size of a box, which may be one more keyword. -/
def size (word : String) : Form :=
  keyword (word :: sizeWords) <|> callOf "fit-content" (ofTerm Term.lengthPercentage) <|>
    ofTerm Term.lengthPercentage

/-- The ratio of two numbers; a second number of one is not written. -/
def ratio : Form := do
  let first ← Reader.number
  let second ← optional (do Reader.slash; Reader.number)
  pure (Single.text first ++
    match second with
    | some n => if n == 1 then "" else " / " ++ Single.text n
    | none => "")

/-- `auto`, a ratio, or both in any order. -/
def aspectRatio : Form := do
  let before ← Reader.hasWord "auto"
  let ratio ← optional ratio
  let auto ← if before then pure true else Reader.hasWord "auto"
  if !auto && ratio.isNone then failure
  pure (spaced [textUnless (!auto) "auto", ratio.getD ""])

/-! ## Display -/

/-- How a box takes part in the layout around it, and how its contents are laid out. -/
structure Display where
  outside : String
  inside : String
  isListItem : Bool := false

namespace Display

/-- The ways that contents are laid out. -/
def insideWords : List String :=
  ["flow", "flow-root", "table", "flex", "-webkit-flex", "-ms-flexbox", "-webkit-box",
    "-moz-box", "grid", "ruby"]

/-- How a box takes part in the layout around it if that is not said. -/
def defaultOutside (inside : String) : String := if inside == "ruby" then "inline" else "block"

/-- The words for boxes in a line. -/
def inlineWords : List (String × String) :=
  [("inline-block", "flow-root"), ("inline-table", "table"), ("inline-flex", "flex"),
    ("-webkit-inline-flex", "-webkit-flex"), ("-ms-inline-flexbox", "-ms-flexbox"),
    ("-webkit-inline-box", "-webkit-box"), ("-moz-inline-box", "-moz-box"),
    ("inline-grid", "grid")]

/-- The words for boxes that are part of another layout. -/
def partWords : List String :=
  ["none", "contents", "table-row-group", "table-header-group", "table-footer-group", "table-row",
    "table-cell", "table-column-group", "table-column", "table-caption", "ruby-base", "ruby-text",
    "ruby-base-container", "ruby-text-container"]

/-- Up to three words in any order. -/
def read : Reader Display := do
  let words ← Reader.anyOrder
    [Reader.keyword ["list-item"], Reader.keyword ["block", "inline", "run-in"],
      Reader.keyword insideWords]
  match words with
  | [none, none, none] => failure
  | [item, outside, inside] =>
    let inside := inside.getD "flow"
    if item.isSome && inside != "flow" && inside != "flow-root" then failure
    pure ⟨outside.getD (defaultOutside inside), inside, item.isSome⟩
  | _ => failure

/-- The fewest words for a way of display. -/
def text (d : Display) : String :=
  let inline := inlineWords.find? fun (_, inside) => inside == d.inside
  match inline, d.outside == "inline" && !d.isListItem with
  | some (word, _), true => word
  | _, _ =>
    let plain := d.inside == "flow"
    let unsaid := d.outside == defaultOutside d.inside && (!plain || d.isListItem)
    spaced [textUnless unsaid d.outside,
      textUnless plain d.inside, textUnless (!d.isListItem) "list-item"]

/-- A way of display. -/
def form : Form :=
  text <$> read <|> Form.keyword (inlineWords.map (·.1)) <|> Form.keyword partWords

end Display

/-! ## The properties -/

/-- What overflows a box. -/
def overflowWords : List String := ["visible", "hidden", "clip", "scroll", "auto"]

/-- The distance between rows or columns. -/
def gap : Reader Term := Term.keyword ["normal"] <|> Term.lengthPercentage

/-- The forms of the properties of boxes. -/
def boxes : Table :=
  [(["width", "height", "min-width", "min-height", "block-size", "inline-size", "min-block-size",
      "min-inline-size"], size "auto"),
    (["max-width", "max-height", "max-block-size", "max-inline-size"], size "none"),
    (["aspect-ratio"], aspectRatio),
    (["display"], Display.form),
    (["visibility"], keyword ["visible", "hidden", "collapse"]),
    (["position"],
      keyword ["static", "relative", "absolute", "fixed", "sticky", "-webkit-sticky"]),
    (["z-index"], ofTerm (Term.keyword ["auto"] <|> Term.integer)),
    (["box-sizing"], keyword ["content-box", "border-box"]),
    (["overflow-x", "overflow-y"], keyword overflowWords),
    (["overflow"], pairOf (Term.keyword overflowWords)),
    (["text-overflow"], keyword ["clip", "ellipsis"]),
    (["top", "bottom", "left", "right", "inset-block-start", "inset-block-end",
      "inset-inline-start", "inset-inline-end", "margin-top", "margin-bottom", "margin-left",
      "margin-right", "margin-block-start", "margin-block-end", "margin-inline-start",
      "margin-inline-end", "padding-top", "padding-bottom", "padding-left", "padding-right",
      "padding-block-start", "padding-block-end", "padding-inline-start", "padding-inline-end",
      "scroll-padding-top", "scroll-padding-bottom", "scroll-padding-left",
      "scroll-padding-right", "scroll-padding-block-start", "scroll-padding-block-end",
      "scroll-padding-inline-start", "scroll-padding-inline-end"], ofTerm Term.lengthOrAuto),
    (["scroll-margin-top", "scroll-margin-bottom", "scroll-margin-left", "scroll-margin-right",
      "scroll-margin-block-start", "scroll-margin-block-end", "scroll-margin-inline-start",
      "scroll-margin-inline-end"], ofTerm Term.length),
    (["margin-block", "margin-inline", "padding-block", "padding-inline", "inset-block",
      "inset-inline", "scroll-padding-block", "scroll-padding-inline"],
      pairOf Term.lengthOrAuto),
    (["scroll-margin-block", "scroll-margin-inline"], pairOf Term.length),
    (["margin", "padding", "inset", "scroll-padding"], sidesOf Term.lengthOrAuto),
    (["scroll-margin"], sidesOf Term.length),
    (["row-gap", "column-gap"], ofTerm gap),
    (["gap"], pairOf gap)]

end SelectorPreview.Css.Form
