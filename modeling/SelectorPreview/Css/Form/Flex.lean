import SelectorPreview.Css.Term
/-!
# Forms of flexible boxes

How flexible boxes are put in rows, how far they grow and shrink, and how boxes are aligned. The
properties of two older layouts of flexible boxes have forms as well.

Main definition: `Form.flexible`, the forms of these properties.
-/

namespace SelectorPreview.Css.Form

/-! ## Rows and sizes -/

/-- The directions of a row of boxes. -/
def directions : List String := ["row", "row-reverse", "column", "column-reverse"]

/-- Whether rows are broken. -/
def wraps : List String := ["nowrap", "wrap", "wrap-reverse"]

/-- A direction and a way of breaking in any order. -/
def flow : Form := do
  match ← Reader.anyOrder [Reader.keyword directions, Reader.keyword wraps] with
  | [direction, wrap] =>
    let direction := direction.getD "row"
    let wrap := wrap.getD "nowrap"
    pure (spaced [textUnless (direction == "row" && wrap != "nowrap") direction,
      textUnless (wrap == "nowrap") wrap])
  | _ => failure

/-- How far a box grows and shrinks, and the size that it starts from. -/
structure Flex where
  grow : Float32 := 1
  shrink : Float32 := 1
  basis : Term := Term.ofPart 0

namespace Flex

/-- `none`, or one or two numbers and a size in any order. -/
def read : Reader Flex := do
  if ← Reader.hasWord "none" then pure ⟨0, 0, .word "auto"⟩
  else
    let numbers : Reader Flex := do
      let grow ← Reader.number
      let shrink ← optional Reader.number
      pure { grow, shrink := shrink.getD 1 }
    let basis : Reader Flex := (fun basis => { basis }) <$> Term.lengthOrAuto
    match ← Reader.anyOrder [numbers, basis] with
    | [numbers, basis] =>
      pure { numbers.getD {} with basis := (basis.map Flex.basis).getD (Term.ofPart 0) }
    | _ => failure

/-- The fewest parts. A size of zero needs both numbers, so that it is not taken for one of them,
and a size of no percent is not written. -/
def text (f : Flex) : String :=
  if f.grow == 0 && f.shrink == 0 && f.basis == .word "auto" then "none"
  else
    let zero := f.basis.isZeroLength
    let bare := f.grow == 1 && f.shrink == 1
    let noPart := f.basis.isZeroPart
    spaced [textUnless (bare && !zero && !noPart) (Single.text f.grow),
      textUnless (f.shrink == 1 && !zero) (Single.text f.shrink),
      textUnless noPart f.basis.text]

end Flex

/-! ## Alignment -/

/-- An alignment: of first or last lines of text, or of a place that may be made safe. -/
def baseline : Reader Term :=
  (fun _ => .word "baseline") <$> Reader.word "baseline" <|>
  (do
    let word ← Reader.keyword ["first", "last"]
    Reader.word "baseline"
    pure (.word (if word == "last" then "last baseline" else "baseline")))

/-- A place, and what happens to what does not fit there. -/
def place (words : List String) : Reader Term := do
  let overflow ← optional (Reader.keyword ["safe", "unsafe"])
  let word ← Reader.keyword words
  pure (.word (spaced [overflow.getD "", word]))

/-- The places of contents. -/
def contentWords : List String := ["center", "start", "end", "flex-start", "flex-end"]

/-- The places of a single box. -/
def selfWords : List String :=
  ["center", "start", "end", "self-start", "self-end", "flex-start", "flex-end"]

/-- The ways of spreading contents. -/
def distributions : Reader Term :=
  Term.keyword ["space-between", "space-around", "space-evenly", "stretch"]

/-- How contents are aligned across their rows. -/
def alignContent : Reader Term :=
  Term.keyword ["normal"] <|> baseline <|> distributions <|> place contentWords

/-- How contents are aligned along their rows. -/
def justifyContent : Reader Term :=
  Term.keyword ["normal"] <|> distributions <|> place (contentWords ++ ["left", "right"])

/-- How a box or boxes are aligned across their rows. -/
def alignBoxes (words : List String) : Reader Term :=
  Term.keyword (words ++ ["normal", "stretch"]) <|> baseline <|> place selfWords

/-- A place for all boxes inside, kept for the elements of old. -/
def legacy : Reader Term := do
  let word ←
    (do Reader.word "legacy"; Reader.keyword ["left", "right", "center"]) <|>
    (do
      let word ← Reader.keyword ["left", "right", "center"]
      Reader.word "legacy"
      pure word)
  pure (.word ("legacy " ++ word))

/-- How a box is aligned along its row. -/
def justifySelf : Reader Term :=
  Term.keyword ["auto", "normal", "stretch"] <|> baseline <|>
    place (selfWords ++ ["left", "right"])

/-- How boxes are aligned along their rows. -/
def justifyItems : Reader Term :=
  Term.keyword ["normal", "stretch"] <|> baseline <|> legacy <|>
    place (selfWords ++ ["left", "right"])

/-- Passes over one component, and over the word for what does not fit before it. -/
def passOver : Reader Unit := fun cs =>
  match cs with
  | .token (.ident word) :: rest =>
    some ((), if ["safe", "unsafe"].contains (Text.lowerString word) then rest.drop 1 else rest)
  | _ => some ((), cs.drop 1)

/-- An alignment across the rows and one along them. The second one is like the first if it is
missing; in its place a word without meaning is passed over. -/
def bothWays (across along : Reader Term) (copy : Term → Term) (same : Term → Term → Bool) :
    Form := do
  let first ← across
  let second ← along <|> (do passOver; pure (copy first))
  pure (if same first second then first.text else first.text ++ " " ++ second.text)

/-- Whether a word stands for lines of text. -/
def isBaseline (t : Term) : Bool := t == .word "baseline" || t == .word "last baseline"

/-- The alignment of contents both ways. -/
def placeContent : Form :=
  bothWays alignContent justifyContent (fun t => if isBaseline t then .word "start" else t)
    fun first second => first == second && !isBaseline first

/-- Whether the alignment of boxes along their rows goes without saying. -/
def isUnsaid (across along : Term) : Bool :=
  if along == .word "stretch" then across == .word "normal" else across == along

/-- The alignment of a box both ways. -/
def placeSelf : Form :=
  bothWays (alignBoxes ["auto"]) justifySelf id fun across along =>
    along == .word "auto" || isUnsaid across along

/-- The alignment of boxes both ways. -/
def placeItems : Form := bothWays (alignBoxes []) justifyItems id isUnsaid

/-! ## The properties -/

/-- The forms of the properties of flexible boxes and of alignment. -/
def flexible : Table :=
  [(["flex-direction"], keyword directions),
    (["flex-wrap"], keyword wraps),
    (["flex-flow"], flow),
    (["flex-grow", "flex-shrink", "flex-positive", "flex-negative", "box-flex"],
      ofTerm Term.number),
    (["flex-basis", "flex-preferred-size"], ofTerm Term.lengthOrAuto),
    (["flex"], Flex.text <$> Flex.read),
    (["order", "flex-order", "box-ordinal-group", "box-flex-group"], ofTerm Term.integer),
    (["align-content"], ofTerm alignContent),
    (["justify-content"], ofTerm justifyContent),
    (["place-content"], placeContent),
    (["align-self"], ofTerm (alignBoxes ["auto"])),
    (["justify-self"], ofTerm justifySelf),
    (["place-self"], placeSelf),
    (["align-items"], ofTerm (alignBoxes [])),
    (["justify-items"], ofTerm justifyItems),
    (["place-items"], placeItems),
    (["box-orient"], keyword ["horizontal", "vertical", "inline-axis", "block-axis"]),
    (["box-direction"], keyword ["normal", "reverse"]),
    (["box-align", "flex-align"], keyword ["start", "end", "center", "baseline", "stretch"]),
    (["box-pack"], keyword ["start", "end", "center", "justify"]),
    (["box-lines"], keyword ["single", "multiple"]),
    (["flex-pack"], keyword ["start", "end", "center", "justify", "distribute"]),
    (["flex-item-align"], keyword ["auto", "start", "end", "center", "baseline", "stretch"]),
    (["flex-line-pack"],
      keyword ["start", "end", "center", "justify", "distribute", "stretch"])]

end SelectorPreview.Css.Form
