import SelectorPreview.Css.AtRule
import SelectorPreview.Css.Declaration
import SelectorPreview.Css.Media
import SelectorPreview.Css.Selector.Reading
import SelectorPreview.Css.Supports
/-!
# Kinds of at-rules

What an at-rule is follows from its name; what stands in its head has to fit. An at-rule with a name
that is not known is passed over with a warning, if its head is sound.

Main definition: `AtRule.kind`, the kind of an at-rule, or failure.
-/

namespace SelectorPreview.Css.AtRule

open Text

/-- What an at-rule is. -/
inductive Kind where
  | importing
  | naming
  | charset
  /-- Layers, by how many names are given. -/
  | layer (names : Nat)
  | media
  /-- Any other at-rule that holds rules as they may stand around it. -/
  | group
  /-- The rule for the selectors that refer to the rule around. -/
  | nest
  | property
  | page
  | fontFeatures
  /-- An at-rule with a block of declarations. -/
  | declarations
  /-- An at-rule whose block has a form of its own, in which faults are passed over. -/
  | lenient
  | unknown

/-- Whether an at-rule may stand in a style rule. -/
def Kind.fitsStyle : Kind → Bool
  | layer _ => true
  | media => true
  | group => true
  | nest => true
  | unknown => true
  | _ => false

/-! ## Heads -/

/-- Whether a component is an address or a string. -/
def isAddress : Component → Bool
  | .token (.url _) => true
  | .token (.string _) => true
  | .function name arguments =>
    lowerString name == "url" &&
      match significant arguments with
      | [.token (.string _)] => true
      | _ => false
  | _ => false

/-- Whether components are the name of a layer: words with points and nothing else between them. -/
def isLayerName : List Component → Bool
  | [.token (.ident _)] => true
  | .token (.ident _) :: .token (.delim '.') :: rest => isLayerName rest
  | _ => false

/-- Whether components are the name of a layer, with blanks around it. -/
def isWholeLayerName (cs : List Component) : Bool :=
  isLayerName (trimBlank (cs.filter (! ·.isComment)))

/-- How many names of layers there are. A list that ends where a name is due counts as empty. -/
def layerNames? (pieces : List (List Component)) (count : Nat) : Option Nat :=
  match pieces with
  | [] => some count
  | piece :: rest =>
    if isWholeLayerName piece then layerNames? rest (count + 1)
    else if (significant piece).isEmpty && rest.isEmpty then some 0
    else none

/-- What is left of the head of an import after its layer; none if that is malformed. -/
def afterLayer? : List Component → Option (List Component)
  | .token (.ident name) :: rest =>
    if lowerString name == "layer" then some rest else some (.token (.ident name) :: rest)
  | .function name arguments :: rest =>
    if lowerString name == "layer" then
      if isWholeLayerName arguments then some rest else none
    else some (.function name arguments :: rest)
  | cs => some cs

/-- Whether components are a condition on what is supported, or a declaration that has to be. -/
def isSupported (cs : List Component) : Bool :=
  Supports.isCondition (significant cs) ||
    match significant cs with
    | .token (.ident _) :: .token .colon :: rest => areSound rest
    | _ => false

/-- What is left of the head of an import after its condition on what is supported; none if that is
malformed. -/
def afterSupports? : List Component → Option (List Component)
  | .function name arguments :: rest =>
    if lowerString name == "supports" then
      if isSupported arguments then some rest else none
    else some (.function name arguments :: rest)
  | cs => some cs

/-- Whether components that are not blank are the head of an import. -/
def isImport : List Component → Bool
  | [] => false
  | c :: rest => isAddress c && ((afterLayer? rest).bind afterSupports?).any Media.isList

/-- Whether components that are not blank name a namespace. -/
def isNamespace : List Component → Bool
  | [c] => isAddress c
  | [.token (.ident _), c] => isAddress c
  | _ => false

/-- Whether components are one string. -/
def isString : List Component → Bool
  | [.token (.string _)] => true
  | _ => false

/-- Whether components are one name that passes a test. -/
def isName (test : String → Bool) : List Component → Bool
  | [.token (.ident name)] => test name
  | _ => false

/-- The words that stand for values of every property, and so are no names. -/
def wideWords : List String := "default" :: Value.wideKeywords

/-- Whether a word may be chosen as a name. -/
def isFree (name : String) : Bool := !wideWords.contains (lowerString name)

/-- Whether components are a string, or a name for keyframes. -/
def isKeyframesName (cs : List Component) : Bool :=
  isString cs || isName (fun name => isFree name && lowerString name != "none") cs

/-- The names that a family of fonts has: a string or words. -/
def isFamily (cs : List Component) : Bool :=
  isString cs || (!cs.isEmpty && cs.all Query.isAnyWord)

/-- The classes of pages. -/
def pageClasses : List String := ["first", "last", "left", "right", "blank"]

/-- Whether components are classes of pages, and how many. -/
def pageClassCount? (cs : List Component) : Option Nat :=
  match cs with
  | [] => some 0
  | c :: rest =>
    match c, rest.dropWhile (·.isBlank) with
    | .token .colon, .token (.ident name) :: _ =>
      if pageClasses.contains (lowerString name) then
        (pageClassCount? ((rest.dropWhile (·.isBlank)).drop 1)).map (· + 1)
      else none
    | _, _ => none
termination_by cs.length
decreasing_by
  have := (List.dropWhile_sublist (l := rest) (·.isBlank)).length_le
  simp only [List.length_drop, List.length_cons]
  omega

/-- Whether components select pages, by their name or by their classes. -/
def isPageSelector (cs : List Component) : Bool :=
  match trimBlank (cs.filter (! ·.isComment)) with
  | .token (.ident _) :: rest => (pageClassCount? rest).isSome
  | cs => (pageClassCount? cs).any (0 < ·)

/-- Whether components are the head of a page rule. -/
def isPage (cs : List Component) : Bool :=
  (significant cs).isEmpty || (cs.splitOnP (·.isComma)).all isPageSelector

/-- Whether components ask for documents with any address. -/
def isAnyDocument : List Component → Bool
  | [.function name arguments] =>
    lowerString name == "url-prefix" &&
      match significant arguments with
      | [] => true
      | [.token (.string value)] => value.isEmpty
      | _ => false
  | _ => false

/-- The words that no container is called by. -/
def containerWords : List String := ["none", "and", "or", "not"]

/-- Whether components that are not blank are the head of a container rule. -/
def isContainer (cs : List Component) : Bool :=
  let grammar : Query.Grammar :=
    ⟨true, true, Query.isBracketed true (Component.depthList cs + 1)⟩
  match cs with
  | .token (.ident name) :: rest =>
    if isFree name && !containerWords.contains (lowerString name) then
      Query.isCondition grammar rest
    else Query.isCondition grammar cs
  | _ => Query.isCondition grammar cs

/-- Reads selectors that limit a scope. -/
def readLimit (cs : List Component) : Attempt Unit := do
  let _ ← Selector.readList true true cs

/-- Reads where a scope ends, if that is given. -/
def readScopeEnd : List Component → Attempt Unit
  | [] => pure ()
  | [.token (.ident word), .block .round limit] => do
    Attempt.ensure (lowerString word == "to")
    readLimit limit
  | _ => failure

/-- Reads the head of a scope, in which nothing is blank. -/
def readScope : List Component → Attempt Unit
  | .block .round limit :: rest => do
    readLimit limit
    readScopeEnd rest
  | cs => readScopeEnd cs

/-- Reads selectors all of which refer to the rule around. -/
def readNest (cs : List Component) : Attempt Unit := do
  Attempt.warn
  let selectors ← Selector.readList false false cs
  Attempt.ensure (selectors.all fun s => Complex.anyRefersOut [s])

/-- Passes over the head of an at-rule that is not known. -/
def readUnknown (cs : List Component) : Attempt Unit := do
  Attempt.warn
  Attempt.ensure (Value.ofComponents? cs).isSome

/-! ## Kinds -/

/-- A kind, if a condition on the head holds. -/
def Kind.when (kind : Kind) (condition : Bool) : Attempt Kind := do
  Attempt.ensure condition
  pure kind

/-- The kind of an at-rule that may stand anywhere. -/
def anyKind (inStyle : Bool) (r : AtRule) : Attempt Kind :=
  let cs := significant r.head
  match r.name with
  | "media" => Kind.media.when (Media.isList r.head)
  | "supports" => Kind.group.when (Supports.isCondition cs)
  | "container" => Kind.group.when (isContainer cs)
  | "-moz-document" => Kind.group.when (isAnyDocument cs)
  | "starting-style" => Kind.group.when cs.isEmpty
  | "scope" => do
    readScope cs
    pure .group
  | "layer" => do
    let names ← Attempt.ofOption (layerNames? (r.head.splitOnP (·.isComma)) 0)
    pure (.layer names)
  | "font-face" => Kind.lenient.when cs.isEmpty
  | "view-transition" => Kind.lenient.when cs.isEmpty
  | "font-palette-values" => Kind.lenient.when (isName Property.isCustom cs)
  | "keyframes" => Kind.lenient.when (isKeyframesName cs)
  | "-webkit-keyframes" => Kind.lenient.when (isKeyframesName cs)
  | "-moz-keyframes" => Kind.lenient.when (isKeyframesName cs)
  | "-o-keyframes" => Kind.lenient.when (isKeyframesName cs)
  | "-ms-keyframes" => Kind.lenient.when (isKeyframesName cs)
  | "counter-style" => Kind.declarations.when (isName isFree cs)
  | "viewport" => Kind.declarations.when cs.isEmpty
  | "-ms-viewport" => Kind.declarations.when cs.isEmpty
  | "page" => Kind.page.when (isPage r.head)
  | "font-feature-values" =>
    Kind.fontFeatures.when ((cs.splitOnP (·.isComma)).all isFamily)
  | "nest" =>
    if inStyle then do
      readNest r.head
      pure .nest
    else do
      readUnknown r.head
      pure .unknown
  | _ => do
    readUnknown r.head
    pure .unknown

/-- The kind of an at-rule inside another rule. -/
def innerKind (inStyle : Bool) (r : AtRule) : Attempt Kind := do
  let kind ← r.anyKind inStyle
  Attempt.ensure (!inStyle || kind.fitsStyle)
  pure kind

/-- The kind of an at-rule that stands in no other rule. -/
def outerKind (r : AtRule) : Attempt Kind :=
  let cs := significant r.head
  match r.name with
  | "import" => Kind.importing.when (isImport cs)
  | "namespace" => Kind.naming.when (isNamespace cs)
  | "charset" => Kind.charset.when (isString cs)
  | "property" => Kind.property.when (isName Property.isCustom cs)
  | _ => r.anyKind false

end SelectorPreview.Css.AtRule
