import SelectorPreview.Css.AtRule.Kind
import SelectorPreview.Css.Block
import SelectorPreview.Css.Registration
import SelectorPreview.RuleTree
/-!
# Blocks that hold rules

The block of a style rule holds declarations and rules, and that of a media rule and its like holds
rules. In a style rule a name may begin a declaration or a rule; it is taken for a declaration where
that can be read. An item that cannot be read is passed over with a warning, and in a style rule it
takes all declarations before it with it.

Main definitions: `Body.read`, what a block holds, and `Rules.styleRule` and `Rules.atRule`, which
read a rule at the head of a list of components.
-/

namespace SelectorPreview.Css

/-- What has been read of a block. -/
structure Body where
  declarations : List Declaration := []
  rules : List RuleNode := []
  warned : Bool := false

/-- How a block inside of a rule is read; the first argument tells whether it lies in a style rule.
-/
abbrev InnerBody := Bool → List Component → Body

namespace Rules

/-! ## At-rules -/

/-- Reads the rules and declarations in a block. -/
def contents (inner : InnerBody) (inStyle : Bool) (block : List Component) : Attempt Body := do
  let body := inner inStyle block
  if body.warned then Attempt.warn
  pure body

/-- Reads a block, of which nothing is shown, and warns if it has a fault. -/
def hidden (faulty : Bool) : Attempt RuleNode := do
  if faulty then Attempt.warn
  pure (.other [])

/-- Reads the block of an at-rule. -/
def atBlock (inner : InnerBody) (inStyle : Bool) (kind : AtRule.Kind) (block : List Component) :
    Attempt RuleNode :=
  match kind with
  | .importing => failure
  | .naming => failure
  | .charset => failure
  | .layer names => do
    Attempt.ensure (names ≤ 1)
    let body ← contents inner inStyle block
    pure (.other body.rules)
  | .media => do
    let body ← contents inner inStyle block
    pure (.media body.rules)
  | .group => do
    let body ← contents inner inStyle block
    pure (.other body.rules)
  | .nest => do
    let body ← contents inner true block
    pure (.other body.rules)
  | .property => do
    Attempt.ensure (Registration.isComplete block)
    pure (.other [])
  | .page => hidden (Block.isFaultyPage block)
  | .fontFeatures => hidden (Block.isFaultyFeatures block)
  | .declarations => hidden (Block.isFaulty block)
  | .lenient => hidden false
  | .unknown => do
    Attempt.ensure (Value.ofComponents? block).isSome
    pure (.other [])

/-- Reads an at-rule without a block. -/
def statement (inStyle : Bool) (kind : AtRule.Kind) : Attempt RuleNode := do
  match kind with
  | .importing => pure (.other [])
  | .naming => pure (.other [])
  | .charset => pure (.other [])
  | .unknown => pure (.other [])
  | .layer names => do
    Attempt.ensure (!inStyle && 0 < names)
    pure (.other [])
  | _ => failure

/-- Reads what follows the head of an at-rule. -/
def atRest (inner : InnerBody) (inStyle : Bool) (r : AtRule) (kind : AtRule.Kind) :
    Attempt RuleNode :=
  match r.block with
  | some block => atBlock inner inStyle kind block
  | none => statement inStyle kind

/-- Reads an at-rule inside another rule. -/
def atRule (inner : InnerBody) (inStyle : Bool) (r : AtRule) : Attempt RuleNode := do
  let kind ← r.innerKind inStyle
  atRest inner inStyle r kind

/-! ## Style rules -/

/-- Whether components begin like the declaration of a custom property. -/
def beginsCustom (cs : List Component) : Bool :=
  match cs.dropWhile Component.isBlank with
  | .token (.ident name) :: rest => Property.isCustom name && (afterColon? rest).isSome
  | _ => false

/-- Whether the selectors of a style rule end at a component: at a block, and in a style rule at a
semicolon as well. -/
def endsSelectors (inStyle : Bool) (c : Component) : Bool := c.isCurly || (inStyle && c.isSemicolon)

/-- Reads the style rule that components begin: its selectors and its block. -/
def selectorsAndBlock (inner : InnerBody) (inStyle : Bool) (cs : List Component) :
    Attempt RuleNode := do
  let selectors ← Selector.readList inStyle false (cs.takeWhile (! endsSelectors inStyle ·))
  let last ← Attempt.ofOption (cs.dropWhile (! endsSelectors inStyle ·)).head?
  let block ← Attempt.ofOption (AtRule.contents? last)
  let body ← contents inner true block
  pure (.style (selectors.map Complex.text) body.declarations body.rules)

/-- Reads the style rule that begins with a component, and tells how many of the following
components it takes up. -/
def styleRule (inner : InnerBody) (inStyle : Bool) (c : Component) (rest : List Component) :
    Attempt RuleNode × Nat :=
  let cs := c :: rest
  if beginsCustom cs then
    (failure, (cs.takeWhile fun c => !(if inStyle then c.isSemicolon else c.isCurly)).length)
  else
    (selectorsAndBlock inner inStyle cs, (cs.takeWhile (! endsSelectors inStyle ·)).length)

end Rules

namespace Body

/-! ## Items -/

/-- An item of a block. -/
inductive Entry where
  | declaration (d : Declaration)
  | rule (node : RuleNode)

/-- What an item gave, and how many components after its first one it took up. -/
structure Step where
  entry : Option Entry
  warned : Bool
  extent : Nat

/-- The step of a rule. -/
def Step.ofRule (read : Attempt RuleNode) (extent : Nat) : Step :=
  let (node, warned) := read.result
  ⟨node.map .rule, warned, extent⟩

/-- Reads the style rule that begins with a component. -/
def Step.ofStyleRule (inner : InnerBody) (inStyle : Bool) (c : Component) (rest : List Component) :
    Step :=
  let (read, extent) := Rules.styleRule inner inStyle c rest
  .ofRule read extent

/-- The declaration that a name begins. -/
def declaration? (name : String) (line : List Component) : Option Declaration :=
  (afterColon? line).bind (Declaration.ofComponents? name)

/-- Reads the item that begins with a component. -/
def step (inner : InnerBody) (inStyle : Bool) (c : Component) (rest : List Component) : Step :=
  match c with
  | .token (.atKeyword name) =>
    let r := AtRule.ofComponents name rest
    .ofRule (Rules.atRule inner inStyle r) r.extent
  | .token (.ident name) =>
    let line := rest.takeWhile (! Component.isSemicolon ·)
    match if inStyle then declaration? name line else none with
    | some d => ⟨some (.declaration d), false, line.length + 1⟩
    | none => .ofStyleRule inner inStyle c rest
  | _ => .ofStyleRule inner inStyle c rest

/-- Takes in what an item gave. -/
def add (body : Body) (s : Step) : Body :=
  match s.entry with
  | some (.declaration d) =>
    { body with declarations := body.declarations ++ [d], warned := body.warned || s.warned }
  | some (.rule node) =>
    { body with rules := body.rules ++ [node], warned := body.warned || s.warned }
  | none => { body with declarations := [], warned := true }

/-- Reads on to the end of a block. -/
def readOn (inner : InnerBody) (inStyle : Bool) (body : Body) (cs : List Component) : Body :=
  match cs with
  | [] => body
  | c :: rest =>
    if Item.isGap c then readOn inner inStyle body rest
    else
      let s := step inner inStyle c rest
      readOn inner inStyle (body.add s) (rest.drop s.extent)
termination_by cs.length

/-- Reads a block inside of which blocks are nested at most so deep. -/
def readNested : Nat → InnerBody
  | 0 => fun _ _ => {}
  | depth + 1 => fun inStyle cs => readOn (readNested depth) inStyle {} cs

/-- What a block holds. -/
def read : InnerBody := fun inStyle cs => readNested (Component.depthList cs + 1) inStyle cs

end Body

end SelectorPreview.Css
