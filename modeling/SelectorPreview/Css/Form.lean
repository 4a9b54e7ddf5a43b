import SelectorPreview.Css.Form.Box
import SelectorPreview.Css.Form.Flex
import SelectorPreview.Css.Form.Font
import SelectorPreview.Css.Form.Grid
import SelectorPreview.Css.Form.Interface
import SelectorPreview.Css.Form.Paint
import SelectorPreview.Css.Form.Text
import SelectorPreview.Css.Form.Transform
import SelectorPreview.Css.Property
/-!
# Forms of values

The values of nearly all properties have a form. A value of the right form is written in its
shortest way; any other value of the property is written like a value of unknown form.

Main definition: `Property.text?`, a value of a property as it is written.
-/

namespace SelectorPreview.Css

namespace Form

/-- The forms of all properties. -/
def table : Table :=
  boxes ++ borders ++ backgrounds ++ paints ++ flexible ++ grids ++ fonts ++ texts ++
    transforms ++ motions ++ interfaces

/-- The form of a property's values, if it has one. -/
def ofProperty? (name : String) : Option Form :=
  (table.find? fun (names, _) => names.contains name).map (·.2)

end Form

namespace Property

/-- A value of a property as it is written. The property that stands for all others only takes the
keywords that every property takes. -/
def text? (name : String) (value : List Component) : Option String :=
  if name == "all" then (Form.keyword Value.wideKeywords).text? value
  else ((Form.ofProperty? name).bind (·.text? value)).or (Value.textOf? value)

end Property

end SelectorPreview.Css
