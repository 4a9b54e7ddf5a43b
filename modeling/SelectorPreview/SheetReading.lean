import SelectorPreview.RuleTree
/-!
# What reading a style sheet gives

The text of a style sheet is read by a parser, which passes over what is invalid and may still fail.
Here is what it has to tell.
-/

namespace SelectorPreview

/-- Why a style sheet cannot be read at all. -/
structure SheetFault where
  reason : String
  /-- The line, counted from zero, and the column where it is. -/
  position : Option (UInt32 × UInt32) := none
  deriving DecidableEq

/-- A part of a style sheet that has been read but cannot be written as text, with the reason. -/
inductive Unprintable where
  | selector (reason : String)
  | value (property reason : String)
  deriving DecidableEq

/-- A style sheet that has been read. -/
structure SheetReading where
  /-- The rules, without the selectors and values that cannot be written as text. -/
  tree : List RuleNode
  /-- The warnings about what is passed over as invalid, each with its wording if there is one. -/
  warnings : List (Option String) := []
  /-- What the shown rules have lost, in order. -/
  unprintable : List Unprintable := []

/-- The style sheet that is shown. -/
def SheetReading.sheet (reading : SheetReading) : Sheet := Sheet.ofTree reading.tree

/-- A reader of style sheets. -/
abbrev SheetReader := String → Except SheetFault SheetReading

end SelectorPreview
