import SelectorPreview.Chain
import SelectorPreview.Markup.Escape
import SelectorPreview.Options
import SelectorPreview.Sheet
import SelectorPreview.Text.Decimal
import SelectorPreview.Text.Infix
/-!
# Frames

Elements outside the normal flow could cover the rest of the page, so they are drawn in a frame of
fixed size. A registry holds the selectors of all rules that are out of flow; a selector belongs
into a frame when its own rule is out of flow or when its flattened text holds a registered
selector.
-/

namespace SelectorPreview

open Text Markup

namespace Frame

/-! ## The registry -/

/-- Selectors in the order of their first registration, each once. -/
structure Registry where
  selectors : List String := []
  deriving DecidableEq

namespace Registry

/-- Adds a selector at the end unless it is there already. -/
def register (registry : Registry) (selector : String) : Registry :=
  if registry.selectors.contains selector then registry
  else ⟨registry.selectors ++ [selector]⟩

/-- Adds selectors one after another. -/
def registerAll (registry : Registry) (selectors : List String) : Registry :=
  selectors.foldl register registry

/-- The selectors of the rules that are out of flow. -/
def ofSheet (sheet : Sheet) : Registry :=
  registerAll {} ((sheet.rules.filter (·.outOfFlow)).flatMap (·.selectors))

/-- Whether a text holds a registered selector. -/
def matchesText (registry : Registry) (text : String) : Bool :=
  registry.selectors.any (containsText text)

end Registry

/-- Whether a selector of a rule, given by its flattened text, belongs into a frame. -/
def isNeeded (rule : Rule) (flattened : String) (registry : Registry) : Bool :=
  rule.outOfFlow || registry.matchesText flattened

/-! ## Drawing -/

/-- The style of the frame itself. -/
def borderStyle : String := "border:1px dotted #acad9e;"

/-- The style of the page inside the frame. -/
def pageStyle : String := "background:#f6f4ee"

/-- The beginning of the page inside a frame, which links to the style sheet once more. -/
def pageHead (options : Options) : String :=
  "<html><head><link href=\"" ++ escape options.href ++
    "\" rel=\"stylesheet\" type=\"text/css\"/></head><body style=\"" ++ pageStyle ++ "\">"

/-- A frame whose page is the fragment. -/
def wrap (fragment : String) (options : Options) : String :=
  "<iframe style=\"" ++ borderStyle ++ "\" width=\"" ++ decimal options.frameWidth.toNat ++
    "\" height=\"" ++ decimal options.frameHeight.toNat ++ "\" srcdoc=\"" ++
    escape (pageHead options) ++ escape fragment ++ "\"></iframe><br/>\n"

end Frame

end SelectorPreview
