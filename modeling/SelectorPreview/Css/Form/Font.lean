import SelectorPreview.Css.Form.Motion
import SelectorPreview.Text.Infix
/-!
# Forms of fonts

The families, size, weight, width and style of a font, one by one and all at once. The name of a
family is written without quotes where that is shorter.

Main definition: `Form.fonts`, the forms of the properties of fonts.
-/

namespace SelectorPreview.Css.Form

open Text

/-! ## Families -/

/-- The names of families that stand for a kind of fonts, and the words that no family can have as
its name. -/
def familyWords : List String :=
  ["serif", "sans-serif", "cursive", "fantasy", "monospace", "system-ui", "emoji", "math",
    "fangsong", "ui-serif", "ui-sans-serif", "ui-monospace", "ui-rounded", "default"] ++
    Value.wideKeywords

/-- The name of a family as it is written. -/
def familyText (name : String) : String :=
  let bare := " ".intercalate ((name.splitOn " ").map Css.identifier)
  if !name.isEmpty && !familyWords.contains (lowerString name) && !containsText name "  " &&
      bare.utf8ByteSize < name.utf8ByteSize + 2 then bare
  else quotedString name

/-- A family of fonts. A name without quotes may be several words. -/
def family : Form :=
  keyword familyWords <|> familyText <$> Reader.string <|>
    (fun words => familyText (" ".intercalate words)) <$> Reader.repeated Reader.identifier

/-! ## Parts of a font -/

/-- The weight of a font. -/
def fontWeight : Form :=
  plainNumber <|> keyword ["normal", "bold", "bolder", "lighter"]

/-- The size of a font. -/
def fontSize : Form :=
  ofTerm Term.lengthPercentage <|>
    keyword ["xx-small", "x-small", "small", "medium", "large", "x-large", "xx-large",
      "xxx-large", "smaller", "larger"]

/-- The words for the width of a font. -/
def fontWidths : List String :=
  ["normal", "ultra-condensed", "extra-condensed", "condensed", "semi-condensed",
    "semi-expanded", "expanded", "extra-expanded", "ultra-expanded"]

/-- The slope of an oblique font that is not given. -/
def defaultSlope : Calculation := .measure (.angle 14 .degrees)

/-- The style of a font. -/
def fontStyle : Form := do
  match ← Reader.keyword ["normal", "italic", "oblique"] with
  | "oblique" => do
    let slope ← optional Reader.angle
    pure (spaced ["oblique", ((slope.filter (· != defaultSlope)).map Calculation.text).getD ""])
  | word => pure word

/-- The height of a line. -/
def lineHeight : Form :=
  keyword ["normal"] <|> plainNumber <|> ofTerm Term.lengthPercentage

/-! ## All at once -/

/-- A style, weight, width or capitals of a font before its size, each at most once, and how often
the word for the default of any of them stands there. -/
def beforeSize (slots : List (Option String)) (normals : Nat) (cs : List Component) :
    Option ((List (Option String) × Nat) × List Component) :=
  let step : Reader (List (Option String) × Nat) :=
    (do Reader.word "normal"; pure (slots, normals + 1)) <|>
    (·, normals) <$> Reader.fill
      [fontStyle, fontWeight, keyword ["small-caps"], keyword fontWidths] slots
  match step cs with
  | some ((slots', normals'), rest) =>
    if rest.length < cs.length then beforeSize slots' normals' rest
    else some ((slots, normals), cs)
  | none => some ((slots, normals), cs)
termination_by cs.length

/-- A font with all its parts. -/
def font : Form := do
  match ← beforeSize [none, none, none, none] 0 with
  | ([style, weight, capitals, width], normals) =>
    if 4 < normals + ([style, weight, capitals, width].filterMap id).length then failure
    let size ← fontSize
    let height := (← optional (do Reader.slash; lineHeight)).filter (· != "normal")
    let families ← Reader.commaList family
    let height := (height.map (" / " ++ ·)).getD ""
    pure (spaced [style.getD "", capitals.getD "", weight.getD "", width.getD "", size ++ height,
      listed families])
  | _ => failure

/-! ## The properties -/

/-- The forms of the properties of fonts. -/
def fonts : Table :=
  [(["font-family"], listOf family),
    (["font-weight"], fontWeight),
    (["font-size"], fontSize),
    (["font-stretch"], keyword fontWidths <|> ofTerm Term.percentage),
    (["font-style"], fontStyle),
    (["font-variant-caps"],
      keyword ["normal", "small-caps", "all-small-caps", "petite-caps", "all-petite-caps",
        "unicase", "titling-caps"]),
    (["line-height"], lineHeight),
    (["font"], font),
    (["font-palette"], dashedName),
    (["vertical-align"],
      keyword ["baseline", "sub", "super", "top", "text-top", "middle", "bottom",
        "text-bottom"] <|> ofTerm Term.lengthPercentage)]

end SelectorPreview.Css.Form
