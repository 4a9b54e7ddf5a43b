import SelectorPreview.Css.Query
/-!
# Conditions on what is supported

A term is anything sound in brackets, or a function of anything sound; terms are joined by `and` or
by `or`, or one follows `not`.
-/

namespace SelectorPreview.Css.Supports

open Query

/-- Whether a component can be a term. -/
def isTerm : Component → Bool
  | .block .round contents => areSound contents
  | .function _ arguments => areSound arguments
  | _ => false

/-- Whether components that are not blank are a condition. -/
def isCondition (cs : List Component) : Bool :=
  Query.isCondition ⟨true, true, isTerm⟩ cs

end SelectorPreview.Css.Supports
