import Mathlib
import SelectorPreview.Proofs.DrawingPass
import SelectorPreview.Proofs.OpeningTag
/-!
# Placeholders are nested

The first segment of a chain is drawn around all others, so what is opened last is closed first. Told
by the tags, each placeholder opens the same elements that it closes, whatever stands in it; told by
the text, the chain is the openings of its segments, the label, and the closings the other way round.

A tag is a text of the style sheet. It could look like an end tag if a slash stood in front of it, but
a slash is only written behind a backslash there.

* `isTagName_elementName` : the tag of a written segment is a name that can be read back;
* `leads_opening`, `leads_closing` : the elements that a placeholder opens and closes;
* `drawChain_append` : the first segments are drawn around the others;
* `drawChain_lastIn_firstOut` : a chain is nested.
-/

namespace SelectorPreview

open Markup Text

namespace Segment

/-- A segment as it is written in a chain: it has no blanks, and a slash only stands behind a
backslash. -/
structure IsWritten (segment : List Char) : Prop where
  blankFree : ∀ c ∈ segment, isBlank c = false
  slashInFront : segment.head? ≠ some '/'
  slashBehind : segment.IsChain fun before c => c = '/' → before = '\\'

instance (segment : List Char) : Decidable (IsWritten segment) :=
  decidable_of_iff
    ((segment.all fun c => ! isBlank c) = true ∧ segment.head? ≠ some '/' ∧
      segment.IsChain fun before c => c = '/' → before = '\\')
    ⟨fun h => ⟨by simpa using h.1, h.2.1, h.2.2⟩,
      fun h => ⟨by simpa using h.blankFree, h.slashInFront, h.slashBehind⟩⟩

/-- What a written segment begins with is a name, if it is not the tag of an image. -/
theorem IsWritten.isTagName {segment name : List Char} (h : IsWritten segment)
    (hbegin : name <+: segment) (himage : name ≠ "img".toList) : IsTagName name where
  spaceFree := by
    intro hspace
    exact absurd (h.blankFree ' ' (hbegin.subset hspace)) (by decide)
  slash := by
    intro hhead
    obtain ⟨rest, rfl⟩ := hbegin
    exact h.slashInFront (by simp [hhead])
  image := himage
  lineBreak := by
    rintro rfl
    have hslash := List.IsChain.prefix h.slashBehind hbegin
    exact absurd hslash (by decide)

end Segment

namespace Placeholder

/-! ## The names of elements -/

/-- The name of an element that is drawn with the tag of its segment can be read back. -/
theorem isTagName_elementName {segment : String} (h : Segment.IsWritten segment.toList)
    (hkind : (ofSegment segment).kind = .element) :
    IsTagName (elementName (ofSegment segment).parts).toList := by
  have hparts : (ofSegment segment).parts = (Parts.ofSegment segment).toOption.getD {} := rfl
  rw [hparts]
  cases hsegment : Parts.ofSegment segment with
  | error e => exact (by decide : IsTagName (elementName {}).toList)
  | ok parts =>
    have htag := Parts.tag_ofSegment hsegment
    show IsTagName (elementName parts).toList
    unfold elementName
    split
    · decide
    · rw [htag]
      exact h.isTagName (List.takeWhile_prefix _) (unmarked_ne_image_of_kindOf hkind)

/-! ## The elements of a placeholder -/

/-- The elements that a placeholder opens, innermost first. -/
def elements (p : Placeholder) : List (List Char) :=
  match p.kind with
  | .container => ["div".toList]
  | .anchor => ["a".toList]
  | .image => []
  | .tableCell => ["td".toList, "tr".toList, "tbody".toList, "table".toList]
  | .element => [(elementName p.parts).toList]

/-- An opening tag does what its name does, whatever attributes follow. -/
theorem leads_openingTag {before after : List (List Char)} {name attributes : String}
    (hname : Reads .tag name.toList .tag 0) (hattributes : Reads .tag attributes.toList .tag 0)
    (hafter : ∀ more : List Char, (∀ c ∈ more.head?, c = ' ') →
      afterTag? before (name.toList ++ more) = some after) :
    Leads before (openingTag name attributes).toList after := by
  have hend : '>' ∉ tagText name attributes :=
    gt_not_mem_tagText (hname.gt_not_mem (by decide)) (hattributes.gt_not_mem (by decide))
  rw [toList_openingTag]
  apply leads_tag hend
  apply hafter
  split <;> simp

/-- The opening tag of an element opens it. -/
theorem leads_elementTag (opened : List (List Char)) {name attributes : String}
    (h : IsTagName name.toList) (hname : Reads .tag name.toList .tag 0)
    (hattributes : Reads .tag attributes.toList .tag 0) :
    Leads opened (openingTag name attributes).toList (name.toList :: opened) :=
  leads_openingTag hname hattributes fun _ hmore => afterTag?_opening opened h hmore

/-- An end tag closes the element that it names. -/
theorem leads_closingTag (opened : List (List Char)) {name : String}
    (hname : Reads .tag name.toList .tag 0) :
    Leads (name.toList :: opened) ("</" ++ name ++ ">").toList opened := by
  have hend : '>' ∉ '/' :: name.toList := by
    simpa using hname.gt_not_mem (by decide)
  have htag := leads_tag hend (afterTag?_closing opened name.toList)
  simpa using htag

/-- The head of the table around a cell leaves the row of the cell open. -/
theorem leads_tableOpening :
    Leads [] tableOpening.toList ["tr".toList, "tbody".toList, "table".toList] := by
  unfold tableOpening
  rw [String.toList_ofList]
  decide +kernel

section

variable {p : Placeholder} (hclean : p.parts.Clean) (opened : List (List Char))

include hclean

/-- What stands before the content of a placeholder opens its elements. -/
theorem leads_opening (hname : p.kind = .element → IsTagName (elementName p.parts).toList) :
    Leads opened p.opening.toList (p.elements ++ opened) := by
  have hattributes := Parts.reads_attributes hclean
  unfold opening elements
  cases hkind : p.kind with
  | container => exact leads_elementTag opened (by decide) (by decide) hattributes
  | anchor =>
    exact leads_elementTag opened (by decide) (by decide)
      (reads_joinAttributes hattributes (by decide))
  | image =>
    -- An image is never closed, so its tag is not opened either.
    exact leads_openingTag (by decide) (reads_joinAttributes hattributes reads_imageAttributes)
      fun _ hmore => afterTag?_image opened hmore
  | tableCell =>
    have hcell : Leads (["tr".toList, "tbody".toList, "table".toList] ++ opened)
        (openingTag "td" p.parts.attributes).toList
        (["td".toList, "tr".toList, "tbody".toList, "table".toList] ++ opened) :=
      leads_elementTag _ (by decide) (by decide) hattributes
    have hlabel : Leads [] cellLabel.toList [] := by decide
    simp only [String.toList_append]
    exact ((leads_tableOpening.inside opened).append hcell).append (hlabel.inside _)
  | element => exact leads_elementTag opened (hname hkind) (reads_elementName hclean) hattributes

/-- What stands after the content of a placeholder closes its elements. -/
theorem leads_closing (segment : String) :
    Leads (p.elements ++ opened) (p.closing segment).toList opened := by
  unfold closing elements
  cases p.kind with
  | container => exact (by decide : Leads ["div".toList] "</div>".toList []).inside opened
  | anchor =>
    have hmark : Leads ["a".toList] anchorMark.toList ["a".toList] := by decide
    have hspace : Leads ["a".toList] " ".toList ["a".toList] := by decide
    have hcaption : Leads ["a".toList] (escape segment).toList ["a".toList] :=
      leads_of_text _ (reads_escape .text segment).lt_not_mem
    have hend : Leads ["a".toList] "</a>".toList [] := by decide
    simp only [String.toList_append]
    exact (((hmark.append hspace).append hcaption).append hend).inside opened
  | image => exact (by decide : Leads [] "".toList []).inside opened
  | tableCell =>
    exact (by decide +kernel : Leads ["td".toList, "tr".toList, "tbody".toList, "table".toList]
      tableClosing.toList []).inside opened
  | element => exact leads_closingTag opened (reads_elementName hclean)

end

/-! ## Chains -/

/-- **A chain closes what it opens,** whatever elements are open around it. -/
theorem leads_drawChain (opened : List (List Char)) {segments : List String} (label : String)
    (h : ∀ segment ∈ segments, Segment.IsWritten segment.toList) :
    Leads opened (drawChain segments label).toList opened := by
  induction segments generalizing opened with
  | nil => exact leads_of_text opened (reads_escape .text label).lt_not_mem
  | cons segment rest ih =>
    have hclean := clean_ofSegment segment
    have hopening := leads_opening hclean opened fun hkind =>
      isTagName_elementName (h segment (by simp)) hkind
    have hrest := ih ((ofSegment segment).elements ++ opened) fun other hother =>
      h other (by simp [hother])
    have hclosing := leads_closing hclean opened segment
    simpa only [drawChain, String.toList_append] using (hopening.append hrest).append hclosing

/-- What is drawn of a segment before its content. -/
def openingOf (segment : String) : String := (ofSegment segment).opening

/-- What is drawn of a segment after its content. -/
def closingOf (segment : String) : String := (ofSegment segment).closing segment

/-- **The first segments of a chain are drawn around the others:** their openings in order, and their
closings the other way round. -/
theorem drawChain_append (outer inner : List String) (label : String) :
    drawChain (outer ++ inner) label =
      String.join (outer.map openingOf) ++ drawChain inner label ++
        String.join (outer.reverse.map closingOf) := by
  induction outer with
  | nil => simp
  | cons segment rest ih =>
    have hclosings : String.join ((segment :: rest).reverse.map closingOf) =
        String.join (rest.reverse.map closingOf) ++ closingOf segment := by
      simp [String.join_append, String.join_cons]
    rw [List.cons_append, drawChain, ih, hclosings, List.map_cons, String.join_cons]
    simp only [String.append_assoc]
    rfl

/-- **Placeholders are nested.** A chain is added behind what has been written before. Its tags, read
with a stack, match one another, and no element is left open. The first segments are drawn around the
others, with an opening and a closing that depend on nothing but the segment; and the escaped label
stands between the last opening and the first closing. -/
theorem drawChain_lastIn_firstOut (segments : List String) (label : String) (done : Written)
    (h : ∀ segment ∈ segments, Segment.IsWritten segment.toList) :
    ((Pass.drawChain segments label).run done).2.text = done.text ++ drawChain segments label ∧
      readTags {} (drawChain segments label).toList = some {} ∧
      (∀ outer inner, segments = outer ++ inner →
        drawChain segments label =
          String.join (outer.map openingOf) ++ drawChain inner label ++
            String.join (outer.reverse.map closingOf)) ∧
      drawChain segments label =
        String.join (segments.map openingOf) ++ escape label ++
          String.join (segments.reverse.map closingOf) := by
  refine ⟨?_, leads_drawChain [] label h, ?_, ?_⟩
  · rw [Pass.writes_drawChain segments label done]
  · rintro outer inner rfl
    exact drawChain_append outer inner label
  · have hall := drawChain_append segments [] label
    rwa [List.append_nil] at hall

/-- A chain with a cell, an image and a tag that holds a slash. -/
def cellChain : List String := ["td.num", "x\\/y", "img.logo", "a.more"]

/-- The chain is nested: the table is opened around everything else and closed last. -/
theorem nested_cellChain :
    (∀ segment ∈ cellChain, Segment.IsWritten segment.toList) ∧
      ((Pass.drawChain cellChain "</td>").run { text := "<p>" }).2.text =
        "<p>" ++ drawChain cellChain "</td>" ∧
      readTags {} (drawChain cellChain "</td>").toList = some {} ∧
      drawChain cellChain "</td>" =
        String.join (["td.num", "x\\/y"].map openingOf) ++ drawChain ["img.logo", "a.more"] "</td>" ++
          String.join (["td.num", "x\\/y"].reverse.map closingOf) := by
  have hwritten : ∀ segment ∈ cellChain, Segment.IsWritten segment.toList := by
    decide +kernel
  obtain ⟨hadded, hnested, hsplit, -⟩ :=
    drawChain_lastIn_firstOut cellChain "</td>" { text := "<p>" } hwritten
  have happend : cellChain = ["td.num", "x\\/y"] ++ ["img.logo", "a.more"] := rfl
  exact ⟨hwritten, hadded, hnested, hsplit _ _ happend⟩

/-- A segment with a slash in front would be drawn as an end tag. -/
example : readTags {} (drawChain ["/p"] "").toList = none := by decide +kernel

end Placeholder

end SelectorPreview
