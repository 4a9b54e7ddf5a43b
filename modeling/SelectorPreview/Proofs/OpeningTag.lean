import Mathlib
import SelectorPreview.Proofs.PlaceholderKind
import SelectorPreview.Proofs.TagSafety
import SelectorPreview.Proofs.TagStack
/-!
# The opening tag of a placeholder

What is drawn before the content of a placeholder is one opening tag, for a cell inside of the head of
its table. The tag is the name of the element, and behind it the attributes of the segment and those
of the kind. The name is that of the kind, or else the tag of the segment.

* `toList_opening` : where the opening tag stands, and what its text is;
* `kind_follows_tag` : the kind of a placeholder and its opening tag go with the tag of the segment.
-/

namespace SelectorPreview.Placeholder

open Segment Markup Text

/-! ## The text of a tag -/

/-- The text of a tag: a name, and attributes behind a space if there are any. -/
def tagText (name attributes : String) : List Char :=
  name.toList ++ if attributes.isEmpty then [] else ' ' :: attributes.toList

/-- An opening tag is its text between brackets. -/
theorem toList_openingTag (name attributes : String) :
    (openingTag name attributes).toList = '<' :: (tagText name attributes ++ ['>']) := by
  unfold openingTag tagText
  split <;> simp

/-- No tag ends in the text of a tag if none ends in its name and in its attributes. -/
theorem gt_not_mem_tagText {name attributes : String} (hname : '>' ∉ name.toList)
    (hattributes : '>' ∉ attributes.toList) : '>' ∉ tagText name attributes := by
  unfold tagText
  split
  · simpa using hname
  · simp [hname, hattributes]

/-- What stands in front of the opening tag: the head of the table, for a cell. -/
def Kind.lead : Kind → String
  | .tableCell => tableOpening
  | _ => ""

/-- What stands behind the opening tag: the text at the top of a cell. -/
def Kind.trail : Kind → String
  | .tableCell => cellLabel
  | _ => ""

/-- The attributes that a kind of placeholder has of its own. -/
def Kind.ownAttributes : Kind → String
  | .anchor => "href=\"#\""
  | .image => "src=\"" ++ imageSource ++ "\" alt=\"[image]\""
  | _ => ""

/-- The attributes of a placeholder: those of the segment, and then those of the kind. -/
def tagAttributes (p : Placeholder) : String :=
  match p.kind with
  | .anchor | .image => joinAttributes p.parts.attributes p.kind.ownAttributes
  | _ => p.parts.attributes

/-- The name of the element that a kind of placeholder is drawn as, for the tag of a segment. -/
def Kind.nameFor (kind : Kind) (tag : String) : String :=
  match kind with
  | .container => "div"
  | .anchor => "a"
  | .image => "img"
  | .tableCell => "td"
  | .element => tag

/-- The names of elements that do not depend on a tag. -/
def ownNames : List String := ["div", "a", "img", "td"]

/-- An element has a name of its own or that of the tag. -/
theorem nameFor_eq_or_mem (kind : Kind) (tag : String) :
    kind.nameFor tag = tag ∨ kind.nameFor tag ∈ ownNames := by
  cases kind <;> simp [Kind.nameFor, ownNames]

/-- **The opening of a placeholder, with its opening tag.** -/
theorem toList_opening (p : Placeholder) :
    p.opening.toList =
      p.kind.lead.toList ++
        '<' :: (tagText (p.kind.nameFor (elementName p.parts)) p.tagAttributes ++
          '>' :: p.kind.trail.toList) := by
  obtain ⟨kind, parts⟩ := p
  cases kind <;>
    simp [opening, Kind.lead, Kind.trail, Kind.ownAttributes, tagAttributes, Kind.nameFor,
      toList_openingTag]

/-- No tag ends inside of the opening tag of a placeholder. -/
theorem gt_not_mem_opening {p : Placeholder} (h : p.parts.Clean) :
    '>' ∉ tagText (p.kind.nameFor (elementName p.parts)) p.tagAttributes := by
  have hattributes := Parts.reads_attributes h
  apply gt_not_mem_tagText
  · have hown : ∀ name ∈ ownNames, '>' ∉ name.toList := by decide
    rcases nameFor_eq_or_mem p.kind (elementName p.parts) with hname | hname
    · rw [hname]
      exact (reads_elementName h).gt_not_mem (by decide)
    · exact hown _ hname
  · have hall : Reads .tag p.tagAttributes.toList .tag 0 := by
      unfold tagAttributes
      cases p.kind with
      | anchor => exact reads_joinAttributes hattributes (by decide)
      | image => exact reads_joinAttributes hattributes reads_imageAttributes
      | _ => exact hattributes
    exact hall.gt_not_mem (by decide)

/-! ## The element of a segment -/

/-- An element is opened behind `lead`: the tag there begins with its name, and what else is in the tag
comes behind a space. -/
def OpensElement (html lead name : String) : Prop :=
  ∃ more trail, html.toList = lead.toList ++ '<' :: (name.toList ++ more ++ '>' :: trail) ∧
    '>' ∉ name.toList ++ more ∧ ∀ c ∈ more.head?, c = ' '

/-- What is drawn before the content of a placeholder opens its element. -/
theorem opensElement_opening {p : Placeholder} (h : p.parts.Clean) :
    OpensElement p.opening p.kind.lead (p.kind.nameFor (elementName p.parts)) := by
  refine ⟨_, _, toList_opening p, gt_not_mem_opening h, ?_⟩
  split <;> simp

/-- **The kind of a placeholder and its element go with the tag of the segment.** A segment keeps its
parts when it is drawn. It is a container if it has no tag, a link, an image or a cell if it has the
tag of one, and an element of its own otherwise. The element that is opened is a `div`, `a`, `img` or
`td`, this one inside of the head of its table, or it is named by the tag of the segment. -/
theorem kind_follows_tag {segment : String} {parts : Parts} (hne : segment ≠ "")
    (h : Parts.ofSegment segment = .ok parts) :
    (ofSegment segment).parts = parts ∧
    ((ofSegment segment).kind = .container ↔ parts.tag = "") ∧
    ((ofSegment segment).kind = .anchor ↔ parts.tag = "a") ∧
    ((ofSegment segment).kind = .image ↔ parts.tag = "img") ∧
    ((ofSegment segment).kind = .tableCell ↔ sameName parts.tag "td" = true) ∧
    ((ofSegment segment).kind = .element ↔
      parts.tag ≠ "" ∧ parts.tag ≠ "a" ∧ parts.tag ≠ "img" ∧ sameName parts.tag "td" = false) ∧
    OpensElement (ofSegment segment).opening (ofSegment segment).kind.lead
      ((ofSegment segment).kind.nameFor parts.tag) := by
  have hparts := parts_ofSegment h
  have hkind := kindOf_ofSegment hne h
  refine ⟨hparts, ?_, ?_, ?_, ?_, ?_, ?_⟩
  · rw [hkind, ofTag_eq_container_iff]
  · rw [hkind, ofTag_eq_anchor_iff]
  · rw [hkind, ofTag_eq_image_iff]
  · rw [hkind, ofTag_eq_tableCell_iff]
  · rw [hkind, ofTag_eq_element_iff]
  · -- Only a container has no tag, and its name does not depend on one.
    have hname : (ofSegment segment).kind.nameFor (elementName parts) =
        (ofSegment segment).kind.nameFor parts.tag := by
      cases hcase : (ofSegment segment).kind with
      | element =>
        have htag := (ofTag_eq_element_iff.1 (hkind.symm.trans hcase)).1
        simp [Kind.nameFor, elementName, htag]
      | _ => rfl
    rw [← hname, ← hparts]
    exact opensElement_opening (clean_ofSegment segment)

/-- A tag that only begins like that of a link is an element of its own, and one in capitals is a
cell. -/
theorem kind_of_abbreviation_and_cell :
    "abbr.term" ≠ "" ∧ "TD#sum" ≠ "" ∧
      Parts.ofSegment "abbr.term" = .ok { tag := "abbr", classes := ["term"] } ∧
      Parts.ofSegment "TD#sum" = .ok { tag := "TD", ids := ["sum"] } ∧
      OpensElement (ofSegment "abbr.term").opening "" "abbr" ∧
      OpensElement (ofSegment "TD#sum").opening tableOpening "td" := by
  have hterm : Parts.ofSegment "abbr.term" = .ok { tag := "abbr", classes := ["term"] } := by
    decide +kernel
  have hsum : Parts.ofSegment "TD#sum" = .ok { tag := "TD", ids := ["sum"] } := by
    decide +kernel
  obtain ⟨-, -, -, -, -, helement, hopensTerm⟩ := kind_follows_tag (by decide) hterm
  obtain ⟨-, -, -, -, hcell, -, hopensSum⟩ := kind_follows_tag (by decide) hsum
  rw [helement.2 ⟨by decide, by decide, by decide, by decide⟩] at hopensTerm
  rw [hcell.2 (by decide)] at hopensSum
  exact ⟨by decide, by decide, hterm, hsum, hopensTerm, hopensSum⟩

end SelectorPreview.Placeholder
