import SelectorPreview.Text.Blank
/-!
# Chains of ancestors

A selector is reduced to a chain: the compound selectors along its way down the tree, joined by
single spaces. Combinators are all read as "somewhere inside", and everything from the first
pseudo-class or attribute test on is cut off. Selectors of the document itself and selectors that
name nothing have no chain.

* `flatten` : combinators become spaces and the text ends before the first `:` or `[`;
* `ofSelector?` : the chain of a selector, if it has one;
* `segments` : the compounds of a chain, outermost first.
-/

namespace SelectorPreview.Chain

open Text

/-! ## Flattening -/

/-- The characters read as a plain descendant step. -/
def isCombinator (c : Char) : Bool := c == '>' || c == '*' || c == '~' || c == '+'

/-- The characters at which the rest of a selector is cut off. -/
def isCut (c : Char) : Bool := c == ':' || c == '['

/-- The characters of a flattened selector: combinators are spaces and nothing follows the first
cut. -/
def flattenList (s : List Char) : List Char :=
  (s.map fun c => if isCombinator c then ' ' else c).takeWhile (! isCut ·)

/-- The selector with spaces for combinators, up to its first cut; blanks stay as they are. -/
def flatten (selector : String) : String := String.ofList (flattenList selector.toList)

/-! ## The chain of a selector -/

/-- Whether a text begins with one of the two tags of the document itself. -/
def startsAtRoot (s : List Char) : Bool :=
  "html".toList.isPrefixOf s || "body".toList.isPrefixOf s

/-- The chain of a selector; none for a selector of the document itself and for one that names
nothing before its first cut. -/
def ofSelector? (selector : String) : Option String :=
  let trimmed := trim selector.toList
  if startsAtRoot trimmed then none
  else
    match words (flattenList trimmed) with
    | [] => none
    | first :: rest => some (" ".intercalate ((first :: rest).map String.ofList))

/-- The compounds of a chain, outermost first. -/
def segments (chain : String) : List String := wordStrings chain

/-! ## Chains that have been met -/

/-- The chains that already have a place in the document. -/
structure Seen where
  chains : List String := []

namespace Seen

/-- Whether a chain has been met. -/
def contains (seen : Seen) (chain : String) : Bool := seen.chains.contains chain

/-- The chains met, with one more. -/
def insert (seen : Seen) (chain : String) : Seen :=
  if seen.contains chain then seen else ⟨chain :: seen.chains⟩

/-- After an insertion the chains met are the earlier ones and the new one. -/
theorem contains_insert {seen : Seen} {chain other : String} :
    (seen.insert chain).contains other = true ↔ other = chain ∨ seen.contains other = true := by
  unfold insert
  split
  · rename_i h
    constructor
    · exact Or.inr
    · rintro (rfl | h')
      · exact h
      · exact h'
  · simp [contains]

end Seen

end SelectorPreview.Chain
