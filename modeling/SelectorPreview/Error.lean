import SelectorPreview.Text.Decimal
/-!
# What can go wrong

The causes for which a preview, or a part of it, cannot be made, and their wording.
-/

namespace SelectorPreview

open Text

/-- Why a preview could not be made or delivered. -/
inductive PreviewError where
  /-- The style sheet could not be read. -/
  | unreadable (path reason : String)
  /-- The style sheet is not valid, at a line and a column. -/
  | invalidSheet (reason : String) (line column : UInt32)
  /-- A compound of a chain cannot become an element. -/
  | invalidSegment (segment reason : String)
  /-- The document could not be written. -/
  | unwritable (reason : String)
  deriving DecidableEq

/-- The wording of an error. -/
def PreviewError.message : PreviewError → String
  | unreadable path reason => "Failed to read stylesheet '" ++ path ++ "': " ++ reason
  | invalidSheet reason line column =>
    "CSS parse error at line " ++ decimal line.toNat ++ ", column " ++ decimal column.toNat ++ ": "
      ++ reason
  | invalidSegment segment reason => "Invalid selector segment '" ++ segment ++ "': " ++ reason
  | unwritable reason => "Failed to write preview: " ++ reason

end SelectorPreview
