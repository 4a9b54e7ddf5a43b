import SelectorPreview.Css.Term
/-!
# Forms of text

How text is broken into lines, set, decorated and marked.

Main definition: `Form.texts`, the forms of the properties of text.
-/

namespace SelectorPreview.Css.Form

open Text

/-! ## Words in a fixed order -/

/-- The words that have been read, in their order. -/
def flagsText (words read : List String) : String := spaced (words.filter read.contains)

/-! ## Setting -/

/-- The cases of letters. -/
def cases : List String := ["none", "uppercase", "lowercase", "capitalize"]

/-- The widths and sizes of letters. -/
def widenings : List String := ["full-width", "full-size-kana"]

/-- How letters are changed: a case, and other changes in any order. Nothing follows `none`. -/
def textTransform : Form := do
  let before ← Reader.many (Reader.keyword widenings)
  let case ← optional (Reader.keyword cases)
  if case == some "none" then pure "none"
  else
    let after ← if case.isSome then Reader.many (Reader.keyword widenings) else pure []
    let others := flagsText widenings (before ++ after)
    let case := (case.filter (· != "none")).getD ""
    pure (if case.isEmpty && others.isEmpty then "none" else spaced [case, others])

/-- How far the first line begins inside. -/
def textIndent : Form := do
  match ← Reader.anyOrder [Term.lengthPercentage, Term.keyword ["hanging"],
      Term.keyword ["each-line"]] with
  | [some indent, hanging, eachLine] =>
    pure (spaced (indent.text :: [hanging, eachLine].map fun word => (word.map Term.text).getD ""))
  | _ => failure

/-- The room between words or letters. -/
def spacing : Form := keyword ["normal"] <|> ofTerm Term.length

/-! ## Decoration -/

/-- The lines of a decoration in the order that they are written in. -/
def decorationLines : List String := ["underline", "overline", "line-through", "blink"]

/-- The lines that mark a mistake; none of them stands with other lines. -/
def mistakeLines : List String := ["spelling-error", "grammar-error"]

/-- One more line of a decoration. Nothing and the marks of mistakes may only come first. -/
def nextLines (lines : List String) : Reader (List String) :=
  (lines ++ [·]) <$> Reader.keyword decorationLines <|>
    if lines.isEmpty then
      (do Reader.word "none"; pure lines) <|> (fun line => [line]) <$> Reader.keyword mistakeLines
    else failure

/-- All lines of a decoration after some others. -/
def moreLines (lines : List String) (cs : List Component) :
    Option (List String × List Component) :=
  match nextLines lines cs with
  | some (lines', rest) =>
    if rest.length < cs.length then moreLines lines' rest else some (lines', rest)
  | none => some (lines, cs)
termination_by cs.length

/-- The lines of a decoration as they are written. -/
def decorationLine : Form := do
  let first ← nextLines []
  let lines ← moreLines first
  pure (if lines.isEmpty then "none"
    else ((mistakeLines.find? lines.contains).getD (flagsText decorationLines lines)))

/-- The styles of the lines of a decoration. -/
def decorationStyles : List String := ["solid", "double", "dotted", "dashed", "wavy"]

/-- How thick the lines of a decoration are. -/
def thickness : Reader Term := Term.keyword ["auto", "from-font"] <|> Term.lengthPercentage

/-- A part of a value, unless it is the default. -/
def partUnless (default : Term) (t : Option Term) : String :=
  ((t.filter (· != default)).map Term.text).getD ""

/-- A decoration; without lines there is nothing else. -/
def decoration : Form := do
  match ← Reader.anyOrder [Term.word <$> decorationLine, thickness, Term.keyword decorationStyles,
      Term.ofColor] with
  | [line, thickness, style, color] =>
    let line := (line.map Term.text).getD "none"
    pure (if line == "none" then line
      else spaced [line, partUnless (.word "auto") thickness, partUnless (.word "solid") style,
        partUnless (.color .current) color])
  | _ => failure

/-! ## Emphasis -/

/-- The shapes of marks. -/
def markShapes : List String := ["dot", "circle", "double-circle", "triangle", "sesame"]

/-- The marks over a text. -/
def emphasisStyle : Form :=
  keyword ["none"] <|> quotedString <$> Reader.string <|> do
    match ← Reader.anyOrder [Reader.keyword markShapes, Reader.keyword ["filled", "open"]] with
    | [none, none] => failure
    | [shape, fill] =>
      let fill := fill.getD "filled"
      pure (spaced [textUnless (fill == "filled" && shape.isSome) fill, shape.getD ""])
    | _ => failure

/-- The marks over a text and their colour. -/
def emphasis : Form := do
  match ← Reader.anyOrder [Term.word <$> emphasisStyle, Term.ofColor] with
  | [style, color] =>
    let style := (style.map Term.text).getD "none"
    pure (if style == "none" then style else spaced [style, partUnless (.color .current) color])
  | _ => failure

/-- The side that marks stand on. -/
def emphasisPosition : Form := do
  match ← Reader.anyOrder [keyword ["over", "under"], keyword ["left", "right"]] with
  | [some vertical, horizontal] =>
    pure (spaced [vertical, (horizontal.filter (· != "right")).getD ""])
  | _ => failure

/-! ## The properties -/

/-- The forms of the properties of text. -/
def texts : Table :=
  [(["text-transform"], textTransform),
    (["white-space"],
      keyword ["normal", "pre", "nowrap", "pre-wrap", "break-spaces", "pre-line"]),
    (["tab-size"], ofTerm Term.lengthOrNumber),
    (["word-break"], keyword ["normal", "keep-all", "break-all", "break-word"]),
    (["line-break"], keyword ["auto", "loose", "normal", "strict", "anywhere"]),
    (["hyphens"], keyword ["none", "manual", "auto"]),
    (["overflow-wrap", "word-wrap"], keyword ["normal", "anywhere", "break-word"]),
    (["text-align"],
      keyword ["start", "end", "left", "right", "center", "justify", "match-parent",
        "justify-all"]),
    (["text-align-last"],
      keyword ["auto", "start", "end", "left", "right", "center", "justify", "match-parent"]),
    (["text-justify"], keyword ["auto", "none", "inter-word", "inter-character"]),
    (["word-spacing", "letter-spacing"], spacing),
    (["text-indent"], textIndent),
    (["text-decoration-line"], decorationLine),
    (["text-decoration-style"], keyword decorationStyles),
    (["text-decoration-color", "text-emphasis-color"], ofTerm Term.ofColor),
    (["text-decoration-thickness"], ofTerm thickness),
    (["text-decoration"], decoration),
    (["text-decoration-skip-ink"], keyword ["auto", "none", "all"]),
    (["text-emphasis-style"], emphasisStyle),
    (["text-emphasis"], emphasis),
    (["text-emphasis-position"], emphasisPosition),
    (["text-size-adjust"], keyword ["auto", "none"] <|> ofTerm Term.percentage),
    (["direction"], keyword ["ltr", "rtl"]),
    (["unicode-bidi"],
      keyword ["normal", "embed", "isolate", "bidi-override", "isolate-override",
        "plaintext"])]

end SelectorPreview.Css.Form
