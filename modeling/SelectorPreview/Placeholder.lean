import SelectorPreview.Markup.Escape
import SelectorPreview.Segment
import SelectorPreview.Text.Ascii
import SelectorPreview.Log
/-!
# Placeholders

Each segment of a chain becomes a placeholder element: its first segment is the outermost one, and
the innermost holds the label. An element is opened, the rest of the chain is drawn inside it, and
then it is closed, so that the closing tags come in reverse order.
-/

namespace SelectorPreview

open Text Markup

/-- The ways to draw a segment. -/
inductive Placeholder.Kind where
  /-- A `div` with the classes and identifiers of a segment that has no tag. -/
  | container
  /-- A link with a visible mark before its end. -/
  | anchor
  /-- The stand-in image, which is never closed. -/
  | image
  /-- A cell inside a table of its own. -/
  | tableCell
  /-- An element with the tag of the segment. -/
  | element
  deriving DecidableEq

/-- How a segment is drawn, and what it is made of. -/
structure Placeholder where
  kind : Placeholder.Kind
  parts : Parts
  deriving DecidableEq

namespace Placeholder

/-! ## Fixed texts -/

/-- A yellow rectangle of 300 by 150 with its size written in the middle. -/
def imageSource : String :=
  "data:image/svg+xml;charset=UTF-8,%3Csvg xmlns='http://www.w3.org/2000/svg' width='300' " ++
  "height='150' viewBox='0 0 300 150'%3E%3Crect fill='yellow' width='300' height='150'/%3E" ++
  "%3Ctext fill='rgba(0,0,0,0.5)' x='50%25' y='50%25' text-anchor='middle'%3E300×150%3C/text%3E" ++
  "%3C/svg%3E"

/-- The mark at the end of a link: an anchor, drawn as a picture. -/
def anchorMark : String := "\u2693\ufe0f"

/-- The head of a table that holds one cell. -/
def tableOpening : String :=
  "<table><thead><tr><th>&#x1F536;&#x1F537;[th]&#x1F537;&#x1F536;</th></tr></thead><tbody><tr>"

/-- The text at the top of the cell. -/
def cellLabel : String := "&#x1F539;[td]&#x1F539;<br/>"

/-- The end of the cell and of its table. -/
def tableClosing : String := "</td></tr></tbody></table>"

/-! ## From segments to placeholders -/

/-- Whether a segment has a tag and then nothing, or a class or identifier. -/
def hasTag (segment tag : List Char) : Bool :=
  if tag.isPrefixOf segment then
    match segment.drop tag.length with
    | [] => true
    | c :: _ => (Segment.Mark.ofChar? c).isSome
  else false

/-- How a segment with these parts is drawn. -/
def kindOf (segment : List Char) (parts : Parts) : Kind :=
  if (segment.head?.bind Segment.Mark.ofChar?).isSome then .container
  else if hasTag segment "a".toList then .anchor
  else if hasTag segment "img".toList then .image
  else if sameName parts.tag "td" then .tableCell
  else .element

/-- The placeholder of a segment; a segment that cannot be taken apart counts as having no parts. -/
def ofSegment (segment : String) : Placeholder :=
  let parts := (Parts.ofSegment segment).toOption.getD {}
  { kind := kindOf segment.toList parts, parts := parts }

/-- The warning for a segment that cannot be taken apart. -/
def warnings (segment : String) : List Log.Record :=
  match Parts.ofSegment segment with
  | .ok _ => []
  | .error e => [⟨.warn, .placeholder, e.message⟩]

/-! ## Drawing -/

/-- The tag that opens an element. -/
def openingTag (name attributes : String) : String :=
  if attributes.isEmpty then "<" ++ name ++ ">" else "<" ++ name ++ " " ++ attributes ++ ">"

/-- Two groups of attributes after one another. -/
def joinAttributes (first second : String) : String :=
  if first.isEmpty then second else first ++ " " ++ second

/-- The name of an element; without a tag it is a `div`. -/
def elementName (parts : Parts) : String := if parts.tag.isEmpty then "div" else parts.tag

/-- What is written before the content of a placeholder. -/
def opening (p : Placeholder) : String :=
  match p.kind with
  | .container => openingTag "div" p.parts.attributes
  | .anchor => openingTag "a" (joinAttributes p.parts.attributes "href=\"#\"")
  | .image =>
    openingTag "img"
      (joinAttributes p.parts.attributes ("src=\"" ++ imageSource ++ "\" alt=\"[image]\""))
  | .tableCell => tableOpening ++ openingTag "td" p.parts.attributes ++ cellLabel
  | .element => openingTag (elementName p.parts) p.parts.attributes

/-- What is written after the content of a placeholder. -/
def closing (p : Placeholder) (segment : String) : String :=
  match p.kind with
  | .container => "</div>"
  | .anchor => anchorMark ++ " " ++ escape segment ++ "</a>"
  | .image => ""
  | .tableCell => tableClosing
  | .element => "</" ++ elementName p.parts ++ ">"

/-- The segments of a chain as nested placeholders around a label. -/
def drawChain : List String → String → String
  | [], label => escape label
  | segment :: rest, label =>
    let p := ofSegment segment
    p.opening ++ drawChain rest label ++ p.closing segment

end Placeholder

end SelectorPreview
