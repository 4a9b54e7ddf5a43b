import SelectorPreview.Css.Query
/-!
# Media queries

A list of media queries is empty, or has commas between its queries. A query names a kind of media,
with a condition after `and` if there is one, or it is a condition alone. A query that ends too
early ends the list.
-/

namespace SelectorPreview.Css.Media

open Query

/-- The grammar of conditions of media. -/
def grammar (allowOr : Bool) (cs : List Component) : Grammar :=
  { allowNot := true, allowOr := allowOr,
    isTerm := isBracketed false (Component.depthList cs + 1) }

/-- What follows the kind of media that a query names, if it names one. -/
def afterKind? : List Component → Option (List Component)
  | c :: d :: rest =>
    if (isWord "not" c || isWord "only" c) && isAnyWord d then some rest
    else if isAnyWord c && !isWord "not" c && !isWord "only" c then some (d :: rest)
    else none
  | [c] => if isAnyWord c && !isWord "not" c && !isWord "only" c then some [] else none
  | [] => none

/-- Reads a query. -/
def query (cs : List Component) : Rest :=
  match afterKind? cs with
  | none => condition (grammar true cs) cs
  | some [] => .ok []
  | some (c :: rest) =>
    if isWord "and" c then condition (grammar false cs) rest else .ok (c :: rest)

/-- Whether the queries of a list, of which there is at least one, can be read. -/
def areQueries : List (List Component) → Bool
  | [] => true
  | piece :: rest =>
    match query (significant piece) with
    | .ok [] => areQueries rest
    | .ok _ => false
    | .error .ended => rest.isEmpty
    | .error .unexpected => false

/-- Whether components are a list of media queries. -/
def isList (cs : List Component) : Bool := areQueries (cs.splitOnP (·.isComma))

end SelectorPreview.Css.Media
