import SelectorPreview.Css.Body
import SelectorPreview.SheetReading
/-!
# Style sheets

A style sheet is read rule by rule. Rules that cannot be read are passed over with a warning.
Imports and namespaces have to stand before all other rules, apart from those that only name layers.

Main definition: `read`, the rules of a text, and whether it warned.
-/

namespace SelectorPreview.Css

/-- What may still stand at the place that the reader of a style sheet has reached. -/
inductive Phase where
  | start
  | layers
  | imports
  | namespaces
  | body
  deriving DecidableEq

namespace Phase

/-- The place of a phase in their order. -/
def rank : Phase → Nat
  | start => 0
  | layers => 1
  | imports => 2
  | namespaces => 3
  | body => 4

/-- Whether an at-rule with a name may stand in a phase. -/
def admits (phase : Phase) (name : String) : Bool :=
  match name with
  | "import" => phase.rank ≤ imports.rank
  | "namespace" => phase.rank ≤ namespaces.rank
  | _ => true

/-- The phase after the head of an at-rule. -/
def after (phase : Phase) (kind : AtRule.Kind) (hasBlock : Bool) : Phase :=
  if hasBlock then body
  else
    match kind with
    | .importing => imports
    | .naming => namespaces
    | .layer _ => if phase.rank ≤ layers.rank then layers else body
    | _ => phase

end Phase

/-- What has been read of a style sheet. -/
structure Progress where
  phase : Phase := .start
  /-- Whether a rule has been met. -/
  started : Bool := false
  rules : List RuleNode := []
  warned : Bool := false

namespace Progress

/-- Takes in a rule. -/
def add (p : Progress) (read : Attempt RuleNode) : Progress :=
  match read.result with
  | (some node, warned) =>
    { p with started := true, rules := p.rules ++ [node], warned := p.warned || warned }
  | (none, _) => { p with started := true, warned := true }

/-- Reads the kind of an at-rule, which has to fit the place where it stands. -/
def kind (p : Progress) (r : AtRule) : Attempt AtRule.Kind := do
  Attempt.ensure (p.phase.admits r.name)
  r.outerKind

/-- Takes in an at-rule. A rule for the character set has no effect where no rule stands before it.
-/
def addAtRule (inner : InnerBody) (p : Progress) (r : AtRule) : Progress :=
  if !p.started && r.name == "charset" then { p with started := true }
  else
    match (p.kind r).result with
    | (none, _) => { p with started := true, warned := true }
    | (some kind, warned) =>
      let read := do
        if warned then Attempt.warn
        Rules.atRest inner false r kind
      { p with phase := p.phase.after kind r.block.isSome }.add read

/-- Whether a component stands between rules. -/
def isGap : Component → Bool
  | .token .markupOpen => true
  | .token .markupClose => true
  | c => c.isBlank

/-- Reads on to the end of a style sheet. -/
def readOn (inner : InnerBody) (p : Progress) (cs : List Component) : Progress :=
  match cs with
  | [] => p
  | c :: rest =>
    if isGap c then readOn inner p rest
    else
      match c with
      | .token (.atKeyword name) =>
        let r := AtRule.ofComponents name rest
        readOn inner (p.addAtRule inner r) (rest.drop r.extent)
      | _ =>
        let rule := Rules.styleRule inner false c rest
        let phase := if Rules.beginsCustom (c :: rest) then p.phase else .body
        readOn inner ({ p with phase := phase }.add rule.1) (rest.drop rule.2)
termination_by cs.length

end Progress

/-- Reads a style sheet. Of all that it passes over as invalid it tells with a single warning. -/
def read (css : String) : SheetReading :=
  let p := Progress.readOn Body.read {} (components css)
  { tree := p.rules, warnings := if p.warned then [none] else [] }

/-- The reader of style sheets, which never fails. -/
def reader : SheetReader := fun css => .ok (read css)

end SelectorPreview.Css
