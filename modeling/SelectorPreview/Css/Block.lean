import SelectorPreview.Css.AtRule
import SelectorPreview.Css.Declaration
import SelectorPreview.Css.Query
/-!
# Blocks without style rules

A block that holds no style rules is cut into items. A declaration is a name, a colon and a value up
to a semicolon; an at-rule ends with a semicolon or with its block; what is neither ends with a
semicolon as well.

* `Item.list` : the items of a block;
* `Block.isFaulty`, `Block.isFaultyPage`, `Block.isFaultyFeatures` : whether an item of a block is
  passed over.
-/

namespace SelectorPreview.Css

open Component

/-- What follows the colon after a name. -/
def afterColon? (cs : List Component) : Option (List Component) :=
  match cs.dropWhile isBlank with
  | .token .colon :: value => some value
  | _ => none

/-- An item of a block. -/
inductive Item where
  | atRule (r : AtRule)
  | declaration (name : String) (value : List Component)
  /-- Something that cannot stand in a block. -/
  | faulty

namespace Item

/-- Whether a component stands between items. -/
def isGap : Component → Bool
  | .token .semicolon => true
  | .token (.closing .curly) => true
  | c => c.isBlank

/-- The item that begins with a component, and how many of the following components it takes up. -/
def ofComponents (c : Component) (rest : List Component) : Item × Nat :=
  let line := rest.takeWhile (! isSemicolon ·)
  match c with
  | .token (.atKeyword name) =>
    let r := AtRule.ofComponents name rest
    (atRule r, r.extent)
  | .token (.ident name) =>
    (((afterColon? line).map (declaration name)).getD faulty, line.length + 1)
  | _ => (faulty, line.length + 1)

/-- The items of a block. -/
def list (cs : List Component) : List Item :=
  match cs with
  | [] => []
  | c :: rest =>
    if isGap c then list rest
    else (ofComponents c rest).1 :: list (rest.drop (ofComponents c rest).2)
termination_by cs.length

/-- Whether an item is a declaration. -/
def isDeclaration : Item → Bool
  | declaration name value => (Declaration.ofComponents? name value).isSome
  | _ => false

end Item

namespace Block

/-! ## Faulty items -/

/-- Whether a block of declarations holds anything else. -/
def isFaulty (block : List Component) : Bool := (Item.list block).any (! ·.isDeclaration)

/-- The boxes in the margin of a page. -/
def marginBoxes : List String :=
  ["top-left-corner", "top-left", "top-center", "top-right", "top-right-corner", "left-top",
    "left-middle", "left-bottom", "right-top", "right-middle", "right-bottom",
    "bottom-left-corner", "bottom-left", "bottom-center", "bottom-right", "bottom-right-corner"]

/-- Whether an at-rule with one of some names and without a head has a block that is free of faults.
-/
def isNamed (names : List String) (isFaulty : List Component → Bool) (r : AtRule) : Bool :=
  names.contains r.name && (significant r.head).isEmpty && r.block.any (! isFaulty ·)

/-- Whether a block of a page holds anything but declarations and boxes in its margin. -/
def isFaultyPage (block : List Component) : Bool :=
  (Item.list block).any fun item =>
    match item with
    | .atRule r => !isNamed marginBoxes isFaulty r
    | item => !item.isDeclaration

/-- The kinds of named features of a font. -/
def featureKinds : List String :=
  ["stylistic", "historical-forms", "styleset", "character-variant", "swash", "ornaments",
    "annotation"]

/-- Whether an item gives a feature of a font its numbers. -/
def isFeature : Item → Bool
  | .declaration _ value => !(significant value).isEmpty && (significant value).all Query.isInteger
  | _ => false

/-- Whether a block of named features of a font holds anything else. -/
def isFaultyFeatures (block : List Component) : Bool :=
  (Item.list block).any fun item =>
    match item with
    | .atRule r =>
      !isNamed featureKinds (fun block => (Item.list block).any (! isFeature ·)) r
    | _ => true

end Block

end SelectorPreview.Css
