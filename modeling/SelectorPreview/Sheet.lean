import SelectorPreview.Text.Blank
import SelectorPreview.Text.Ascii
import SelectorPreview.Text.Quoted
/-!
# Style sheets

A style sheet is its list of style rules, each with the texts of its selectors and its declarations.
The value of a property in a rule is that of the last important declaration of it, or else of the
last one. A rule whose `position` takes its elements out of the normal flow is called out of flow.
-/

namespace SelectorPreview

open Text

/-- A property, its value, and whether it is marked as important. -/
structure Declaration where
  property : String
  value : String
  important : Bool := false
  deriving DecidableEq

/-- A style rule. -/
structure Rule where
  selectors : List String := []
  declarations : List Declaration := []
  deriving DecidableEq

/-- A style sheet: its style rules in source order. -/
structure Sheet where
  rules : List Rule := []
  deriving DecidableEq

namespace Declaration

/-- One line that shows the declaration. -/
def line (d : Declaration) : String :=
  "  " ++ d.property ++ ": " ++ d.value ++ (if d.important then " !important" else "") ++ "\n"

end Declaration

namespace Rule

/-- The whole selector list as one text. -/
def label (rule : Rule) : String := ", ".intercalate rule.selectors

/-- The declarations of a property, with or without the mark of importance. -/
def settings (rule : Rule) (property : String) (important : Bool) : List Declaration :=
  rule.declarations.filter fun d => sameName d.property property && d.important == important

/-- The value of a property: the last important one, or else the last of the others. -/
def value? (rule : Rule) (property : String) : Option String :=
  (((rule.settings property true).getLast?).or ((rule.settings property false).getLast?)).map
    (·.value)

/-- The values of `position` that take an element out of the normal flow. -/
def outOfFlowPositions : List String := ["fixed", "absolute", "sticky"]

/-- Whether the rule takes its elements out of the normal flow. -/
def outOfFlow (rule : Rule) : Bool :=
  match rule.value? "position" with
  | none => false
  | some value => outOfFlowPositions.any (sameName (String.ofList (trim value.toList)))

/-- The rule as lines of text: its selectors, then a line for each declaration. -/
def listing (rule : Rule) : String :=
  "Selectors: " ++ quotedList rule.selectors ++ "\n" ++
    String.join (rule.declarations.map Declaration.line)

end Rule

end SelectorPreview
