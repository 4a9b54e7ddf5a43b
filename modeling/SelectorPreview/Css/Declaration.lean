import SelectorPreview.Css.Form
import SelectorPreview.Sheet
/-!
# Declarations

A declaration is a name, a colon and a value, which may end in `!important`. A value in curly
brackets is only taken for a custom property, whose name begins with two dashes.
-/

namespace SelectorPreview.Css

open Text

namespace Property

/-- Whether a name is that of a custom property. -/
def isCustom (name : String) : Bool := "--".toList.isPrefixOf name.toList

end Property

namespace Declaration

/-- Whether a value ends before a component. -/
def endsValue (name : String) (c : Component) : Bool :=
  c.isBang || (c.isCurly && !Property.isCustom name)

/-- Whether what follows a value is nothing, or the mark of importance; none if it is neither. -/
def importance? (cs : List Component) : Option Bool :=
  match significant cs with
  | [] => some false
  | [.token (.delim '!'), .token (.ident word)] =>
    if lowerString word == "important" then some true else none
  | _ => none

/-- The declaration of a name with what follows its colon. -/
def ofComponents? (name : String) (cs : List Component) : Option Declaration := do
  let value := cs.takeWhile (! endsValue name ·)
  let important ← importance? (cs.dropWhile (! endsValue name ·))
  match Property.ofName? name with
  | some property => do
    let text ← Property.text? property value
    pure { property := property, value := text, important := important }
  | none => do
    let text ← Value.textOf? value
    pure { property := name, value := text, important := important }

end Declaration

end SelectorPreview.Css
