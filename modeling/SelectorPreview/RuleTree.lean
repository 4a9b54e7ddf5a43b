import SelectorPreview.Sheet
/-!
# Trees of rules

A style sheet as its rules are nested. A preview shows the style rules that stand in no other rule,
and those that stand directly in a media rule which itself stands in no other rule.

* `Declaration.importantLast` : the declarations of a block in the order in which a rule holds them;
* `Sheet.ofTree` : the style rules of a tree that are shown.
-/

namespace SelectorPreview

/-- A rule with the rules inside of it. -/
inductive RuleNode where
  /-- A style rule: its selectors, its own declarations in source order, and what is nested in it.
  -/
  | style (selectors : List String) (declarations : List Declaration) (nested : List RuleNode)
  /-- A media rule. -/
  | media (rules : List RuleNode)
  /-- Any other rule. -/
  | other (rules : List RuleNode)

/-- Declarations with the important ones after the others. -/
def Declaration.importantLast (declarations : List Declaration) : List Declaration :=
  declarations.filter (! ·.important) ++ declarations.filter (·.important)

namespace RuleNode

/-- The style rule that a node is, without what is nested in it. -/
def rule? : RuleNode → Option Rule
  | style selectors declarations _ => some ⟨selectors, Declaration.importantLast declarations⟩
  | _ => none

/-- The style rules that are shown of a node that stands in no other rule. -/
def shown : RuleNode → List Rule
  | media rules => rules.filterMap rule?
  | node => node.rule?.toList

end RuleNode

/-- The style sheet that is shown of a tree. -/
def Sheet.ofTree (nodes : List RuleNode) : Sheet := ⟨nodes.flatMap RuleNode.shown⟩

end SelectorPreview
