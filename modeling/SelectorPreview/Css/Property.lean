import SelectorPreview.Text.Ascii
/-!
# Properties

The properties that have a name in the language, with the vendors under whose mark each may be
written. The name of a property is written in small letters and without the mark of its vendor; any
other name stays as it is.
-/

namespace SelectorPreview.Css.Property

open Text

/-- The vendors whose mark a name may begin with. -/
inductive Vendor where
  | webkit
  | moz
  | ms
  | o
  deriving DecidableEq

/-- The mark of a vendor. -/
def Vendor.mark : Vendor → String
  | webkit => "-webkit-"
  | moz => "-moz-"
  | ms => "-ms-"
  | o => "-o-"

/-- The properties that are only written without a mark. -/
def plainNames : List String :=
  ["background-color", "background-image", "background-position-x", "background-position-y",
    "background-position", "background-size", "background-repeat", "background-attachment",
    "background-origin", "background", "opacity", "color", "display", "visibility", "width",
    "height", "min-width", "min-height", "max-width", "max-height", "block-size", "inline-size",
    "min-block-size", "min-inline-size", "max-block-size", "max-inline-size", "aspect-ratio",
    "overflow", "overflow-x", "overflow-y", "position", "top", "bottom", "left", "right",
    "inset-block-start", "inset-block-end", "inset-inline-start", "inset-inline-end",
    "inset-block", "inset-inline", "inset", "border-spacing", "border-top-color",
    "border-bottom-color", "border-left-color", "border-right-color", "border-block-start-color",
    "border-block-end-color", "border-inline-start-color", "border-inline-end-color",
    "border-top-style", "border-bottom-style", "border-left-style", "border-right-style",
    "border-block-start-style", "border-block-end-style", "border-inline-start-style",
    "border-inline-end-style", "border-top-width", "border-bottom-width", "border-left-width",
    "border-right-width", "border-block-start-width", "border-block-end-width",
    "border-inline-start-width", "border-inline-end-width", "border-start-start-radius",
    "border-start-end-radius", "border-end-start-radius", "border-end-end-radius",
    "border-image-source", "border-image-outset", "border-image-repeat", "border-image-width",
    "border-image-slice", "border-color", "border-style", "border-width", "border-block-color",
    "border-block-style", "border-block-width", "border-inline-color", "border-inline-style",
    "border-inline-width", "border", "border-top", "border-bottom", "border-left",
    "border-right", "border-block", "border-block-start", "border-block-end", "border-inline",
    "border-inline-start", "border-inline-end", "outline", "outline-color", "outline-style",
    "outline-width", "place-content", "justify-self", "place-self", "justify-items",
    "place-items", "row-gap", "column-gap", "gap", "grid-template-columns", "grid-template-rows",
    "grid-auto-columns", "grid-auto-rows", "grid-auto-flow", "grid-template-areas",
    "grid-template", "grid", "grid-row-start", "grid-row-end", "grid-column-start",
    "grid-column-end", "grid-row", "grid-column", "grid-area", "margin-top", "margin-bottom",
    "margin-left", "margin-right", "margin-block-start", "margin-block-end",
    "margin-inline-start", "margin-inline-end", "margin-block", "margin-inline", "margin",
    "padding-top", "padding-bottom", "padding-left", "padding-right", "padding-block-start",
    "padding-block-end", "padding-inline-start", "padding-inline-end", "padding-block",
    "padding-inline", "padding", "scroll-margin-top", "scroll-margin-bottom",
    "scroll-margin-left", "scroll-margin-right", "scroll-margin-block-start",
    "scroll-margin-block-end", "scroll-margin-inline-start", "scroll-margin-inline-end",
    "scroll-margin-block", "scroll-margin-inline", "scroll-margin", "scroll-padding-top",
    "scroll-padding-bottom", "scroll-padding-left", "scroll-padding-right",
    "scroll-padding-block-start", "scroll-padding-block-end", "scroll-padding-inline-start",
    "scroll-padding-inline-end", "scroll-padding-block", "scroll-padding-inline",
    "scroll-padding", "font-weight", "font-size", "font-stretch", "font-family", "font-style",
    "font-variant-caps", "line-height", "font", "vertical-align", "font-palette",
    "animation-composition", "animation-timeline", "animation-range-start",
    "animation-range-end", "animation-range", "transform-box", "translate", "rotate", "scale",
    "text-transform", "white-space", "word-break", "line-break", "overflow-wrap", "word-wrap",
    "text-align", "text-justify", "word-spacing", "letter-spacing", "text-indent",
    "text-decoration-thickness", "text-emphasis-color", "text-shadow", "direction",
    "unicode-bidi", "resize", "cursor", "caret-color", "caret-shape", "caret", "accent-color",
    "list-style-type", "list-style-image", "list-style-position", "list-style", "marker-side",
    "fill", "fill-rule", "fill-opacity", "stroke", "stroke-opacity", "stroke-width",
    "stroke-linecap", "stroke-linejoin", "stroke-miterlimit", "stroke-dasharray",
    "stroke-dashoffset", "marker-start", "marker-mid", "marker-end", "marker",
    "color-interpolation", "color-interpolation-filters", "color-rendering", "shape-rendering",
    "text-rendering", "image-rendering", "clip-rule", "mask-mode", "mask-position-x",
    "mask-position-y", "mask-composite", "mask-type", "mask-border-source", "mask-border-mode",
    "mask-border-slice", "mask-border-width", "mask-border-outset", "mask-border-repeat",
    "mask-border", "z-index", "container-type", "container-name", "container",
    "view-transition-name", "view-transition-class", "view-transition-group", "color-scheme",
    "composes", "-webkit-mask-composite", "all"]

/-- The properties that may be written with or without a mark. -/
def vendorNames : List (List Vendor × List String) :=
  [([.webkit], ["flex-grow", "flex-shrink", "flex-basis", "order", "align-content",
      "justify-content", "align-self", "align-items", "text-decoration-skip-ink",
      "text-emphasis-style", "text-emphasis", "text-emphasis-position", "box-decoration-break",
      "clip-path", "mask-image", "mask-repeat", "mask-position", "mask-clip", "mask-origin",
      "mask-size", "mask", "filter", "backdrop-filter"]),
    ([.moz], ["text-align-last"]),
    ([.o], ["text-overflow"]),
    ([.webkit, .moz], ["background-clip", "box-shadow", "box-sizing", "border-top-left-radius",
      "border-top-right-radius", "border-bottom-left-radius", "border-bottom-right-radius",
      "border-radius", "transform-style", "backface-visibility", "perspective",
      "perspective-origin", "text-decoration-line", "text-decoration-style",
      "text-decoration-color", "text-decoration"]),
    ([.webkit, .ms], ["flex-direction", "flex-wrap", "flex-flow", "flex"]),
    ([.moz, .o], ["tab-size"]),
    ([.webkit, .moz, .o], ["border-image", "animation-name", "animation-duration",
      "animation-timing-function", "animation-iteration-count", "animation-direction",
      "animation-play-state", "animation-delay", "animation-fill-mode", "animation"]),
    ([.webkit, .moz, .ms], ["transition-property", "transition-duration", "transition-delay",
      "transition-timing-function", "transition", "hyphens", "text-size-adjust", "user-select",
      "appearance"]),
    ([.webkit, .moz, .ms, .o], ["transform", "transform-origin"])]

/-- The properties that are only written with a mark. -/
def markedNames : List (List Vendor × List String) :=
  [([.webkit, .moz], ["box-orient", "box-direction", "box-ordinal-group", "box-align",
      "box-flex", "box-pack", "box-lines"]),
    ([.webkit], ["box-flex-group", "mask-source-type", "mask-box-image",
      "mask-box-image-source", "mask-box-image-slice", "mask-box-image-width",
      "mask-box-image-outset", "mask-box-image-repeat"]),
    ([.ms], ["flex-pack", "flex-order", "flex-align", "flex-item-align", "flex-line-pack",
      "flex-positive", "flex-negative", "flex-preferred-size"])]

/-- Whether a table has a name for a vendor. -/
def hasFor (table : List (List Vendor × List String)) (vendor : Vendor) (name : String) : Bool :=
  table.any fun (vendors, names) => vendors.contains vendor && names.contains name

/-- Whether a name without mark is the name of a property. -/
def isBare (name : String) : Bool :=
  plainNames.contains name || vendorNames.any fun (_, names) => names.contains name

/-- The property that a name with the mark of a vendor stands for. -/
def ofMarked? (name : String) : Option String :=
  [Vendor.webkit, .moz, .o, .ms].findSome? fun vendor =>
    if vendor.mark.toList.isPrefixOf name.toList then
      let bare := String.ofList (name.toList.drop vendor.mark.length)
      if hasFor vendorNames vendor bare || hasFor markedNames vendor bare then some bare else none
    else none

/-- The property that a name stands for; none for custom properties and unknown names. -/
def ofName? (name : String) : Option String :=
  let name := lowerString name
  if isBare name then some name else ofMarked? name

end SelectorPreview.Css.Property
