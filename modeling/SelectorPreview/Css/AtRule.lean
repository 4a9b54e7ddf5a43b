import SelectorPreview.Css.Component
/-!
# At-rules

An at-rule is a name, a head, and a block in curly brackets or a semicolon.
-/

namespace SelectorPreview.Css

open Text

/-- An at-rule. -/
structure AtRule where
  /-- The name after the mark, in lower case. -/
  name : String
  /-- What stands between the name and the block, or the semicolon. -/
  head : List Component
  block : Option (List Component)

namespace AtRule

/-- Whether the head of an at-rule ends at a component. -/
def endsHead (c : Component) : Bool := c.isSemicolon || c.isCurly

/-- The contents of a block in curly brackets. -/
def contents? : Component → Option (List Component)
  | .block .curly contents => some contents
  | _ => none

/-- The at-rule that a name begins with the components that follow it. -/
def ofComponents (name : String) (cs : List Component) : AtRule where
  name := lowerString name
  head := cs.takeWhile (! endsHead ·)
  block := (cs.dropWhile (! endsHead ·)).head?.bind contents?

/-- How many components after its name an at-rule takes up, if there are as many. -/
def extent (r : AtRule) : Nat := r.head.length + 1

end AtRule

end SelectorPreview.Css
