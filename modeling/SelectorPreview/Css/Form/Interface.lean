import SelectorPreview.Css.Form.Image
import SelectorPreview.Css.Form.Motion
/-!
# Forms of lists and controls

The marks of lists, the pointer, the caret and the look of controls, and the names that an author
gives to containers and to parts of a change of view.

Main definition: `Form.interfaces`, the forms of these properties.
-/

namespace SelectorPreview.Css.Form

open Text

/-! ## Lists -/

/-- The styles of counters that have a name. -/
def counterStyles : List String :=
  ["decimal", "decimal-leading-zero", "arabic-indic", "armenian", "upper-armenian",
    "lower-armenian", "bengali", "cambodian", "khmer", "cjk-decimal", "devanagari", "georgian",
    "gujarati", "gurmukhi", "hebrew", "kannada", "lao", "malayalam", "mongolian", "myanmar",
    "oriya", "persian", "lower-roman", "upper-roman", "tamil", "telugu", "thai", "tibetan",
    "lower-alpha", "lower-latin", "upper-alpha", "upper-latin", "lower-greek", "hiragana",
    "hiragana-iroha", "katakana", "katakana-iroha", "disc", "circle", "square",
    "disclosure-open", "disclosure-closed", "cjk-earthly-branch", "cjk-heavenly-stem",
    "japanese-informal", "japanese-formal", "korean-hangul-formal", "korean-hanja-informal",
    "korean-hanja-formal", "simp-chinese-informal", "simp-chinese-formal",
    "trad-chinese-informal", "trad-chinese-formal", "ethiopic-numeric"]

/-- A style of counters made of symbols. -/
def symbols : Form := callOf "symbols" do
  let system ← optional (Reader.keyword ["cyclic", "numeric", "alphabetic", "symbolic", "fixed"])
  let symbols ← Reader.many (quotedString <$> Reader.string <|> Image.read)
  pure (spaced ((system.filter (· != "symbolic")).getD "" :: symbols))

/-- The marks of a list. -/
def listStyleType : Form :=
  keyword ("none" :: counterStyles) <|> symbols <|> Reader.freeName <|>
    quotedString <$> Reader.string

/-- The marks of a list, an image for them and their position. What `none` stands for is only known
at the end: it is for the one of marks and image that is not given, or for both. -/
def listStyle : Form := do
  let position := Reader.keyword ["inside", "outside"]
  let empty := keyword ["none"]
  match ← Reader.anyOrder [position, empty, empty, Image.read, listStyleType] with
  | [position, first, second, image, type] =>
    if image == some "none" || type == some "none" then failure
    let type ← match first.isSome, second.isSome, image, type with
      | false, _, _, type => pure (type.getD "disc")
      | true, false, none, some type => pure type
      | true, false, some _, none => pure "none"
      | true, _, none, none => pure "none"
      | _, _, _, _ => failure
    let text := spaced [(position.filter (· != "outside")).getD "", image.getD "",
      textUnless (type == "disc") type]
    pure (if text.isEmpty then "outside" else text)
  | _ => failure

/-! ## Pointer and caret -/

/-- The pointers that have a name. -/
def pointers : List String :=
  ["auto", "default", "none", "context-menu", "help", "pointer", "progress", "wait", "cell",
    "crosshair", "text", "vertical-text", "alias", "copy", "move", "no-drop", "not-allowed",
    "grab", "grabbing", "e-resize", "n-resize", "ne-resize", "nw-resize", "s-resize", "se-resize",
    "sw-resize", "w-resize", "ew-resize", "ns-resize", "nesw-resize", "nwse-resize", "col-resize",
    "row-resize", "all-scroll", "zoom-in", "zoom-out"]

/-- An image of the pointer and the point of it that counts, with the comma after it. -/
def pointerImage : Form := do
  let address ← Image.address
  let point ← optional (do pure [← plainNumber, ← plainNumber])
  Reader.comma
  pure (spaced (address :: point.getD []))

/-- Images of the pointer, and a pointer with a name. -/
def cursor : Form := do
  let images ← Reader.many pointerImage
  pure (listed (images ++ [← Reader.keyword pointers]))

/-- A colour, or the one that the browser chooses. -/
def colorOrAuto : Form := keyword ["auto"] <|> ofTerm Term.ofColor

/-- The shapes of the caret. -/
def caretShapes : List String := ["auto", "bar", "block", "underscore"]

/-- The colour and the shape of the caret; what is as by default is not written. -/
def caret : Form := do
  match ← Reader.anyOrder [colorOrAuto, Reader.keyword caretShapes] with
  | [color, shape] =>
    let text := spaced [(color.filter (· != "auto")).getD "", (shape.filter (· != "auto")).getD ""]
    pure (if text.isEmpty then "auto" else text)
  | _ => failure

/-! ## Controls -/

/-- The looks of controls that have a name. -/
def looks : List String :=
  ["none", "auto", "textfield", "menulist-button", "button", "checkbox", "listbox", "menulist",
    "meter", "progress-bar", "push-button", "radio", "searchfield", "slider-horizontal",
    "square-button", "textarea"]

/-- The words for schemes of colours among some words; `only` may not stand between others. -/
def schemeWords? : List String → Option (List String)
  | [] => some []
  | "normal" :: _ => none
  | "only" :: rest => if rest.isEmpty then some ["only"] else none
  | word :: rest => (schemeWords? rest).map (word :: ·)

/-- The schemes of colours; words without meaning are passed over. -/
def colorScheme : Form := do
  let words := (← Reader.repeated Reader.identifier).map lowerString
  match words with
  | ["normal"] => pure "normal"
  | first :: rest =>
    if first == "normal" || (first == "only" && rest.contains "only") then failure
    let all := first :: (← Reader.ofOption (schemeWords? rest))
    let schemes := spaced (["light", "dark"].filter all.contains)
    let only := if all.contains "only" then " only" else ""
    pure (if schemes.isEmpty && only.isEmpty then "normal" else schemes ++ only)
  | [] => failure

/-! ## Names -/

/-- The name of a container. -/
def containerName : Form := do
  let name ← Reader.identifier
  if Value.isFreeName name && !(["none", "and", "not", "or"].contains (lowerString name)) then
    pure (Css.identifier name)
  else failure

/-- The names of a container, or `none`. -/
def containerNames : Form := keyword ["none"] <|> spaced <$> Reader.repeated containerName

/-- The kinds of containers. -/
def containerTypes : List String := ["normal", "inline-size", "size"]

/-- The names and the kind of a container. -/
def container : Form := do
  let names ← containerNames
  let type ← optional (do Reader.slash; Reader.keyword containerTypes)
  pure (names ++ ((type.filter (· != "normal")).map (" / " ++ ·)).getD "")

/-- Names given by an author, or `none`. -/
def freeNames : Form :=
  (do
    Reader.word "none"
    Reader.finished
    pure "none") <|>
  spaced <$> Reader.many Reader.freeName

/-! ## The properties -/

/-- The forms of the properties of lists, controls and names. -/
def interfaces : Table :=
  [(["list-style-type"], listStyleType),
    (["list-style-image"], Image.read),
    (["list-style-position"], keyword ["inside", "outside"]),
    (["list-style"], listStyle),
    (["marker-side"], keyword ["match-self", "match-parent"]),
    (["resize"], keyword ["none", "both", "horizontal", "vertical", "block", "inline"]),
    (["cursor"], cursor),
    (["caret-color", "accent-color"], colorOrAuto),
    (["caret-shape"], keyword caretShapes),
    (["caret"], caret),
    (["user-select"], keyword ["auto", "text", "none", "contain", "all"]),
    (["appearance"], keyword looks <|> Reader.identifier),
    (["color-scheme"], colorScheme),
    (["box-decoration-break"], keyword ["slice", "clone"]),
    (["container-type"], keyword containerTypes),
    (["container-name"], containerNames),
    (["container"], container),
    (["view-transition-name"], keyword ["none", "auto"] <|> Reader.freeName),
    (["view-transition-class"], freeNames),
    (["view-transition-group"], keyword ["normal", "contain", "nearest"] <|> Reader.freeName)]

end SelectorPreview.Css.Form
