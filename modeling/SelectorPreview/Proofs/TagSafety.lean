import Mathlib
import SelectorPreview.Proofs.Framing
import SelectorPreview.Proofs.SegmentParts
import SelectorPreview.Proofs.TagScan
/-!
# No input text reaches a tag

Selectors and the address of the style sheet are arbitrary texts, and they stand in many places of
the document: as labels and captions, as names of elements, as values of attributes, and once more
in all these places inside a frame. Each part of the document is read by the scanner with a number
of tags that does not depend on these texts, so the whole document is.

* `reads_drawChain`, `reads_wrap` : the tags of placeholders and of frames;
* `render_tags` : the tags of the document.
-/

namespace SelectorPreview

open Markup

/-! ## Names and attributes -/

/-- A clean text is read without a tag, wherever it stands. -/
theorem Markup.reads_of_isClean (place : Place) {s : List Char} (h : Segment.IsClean s) :
    Reads place s place 0 := by
  apply reads_of_not_isMarkup
  intro c hc
  have hclean := h c hc
  simp only [Segment.isForbidden, Bool.or_eq_false_iff, beq_eq_false_iff_ne] at hclean
  obtain ⟨⟨⟨hquote, hlt⟩, hgt⟩, hamp⟩ := hclean
  refine ⟨?_, hamp⟩
  simp only [isMarkup, Bool.or_eq_false_iff, beq_eq_false_iff_ne]
  exact ⟨⟨hlt, hgt⟩, hquote⟩

namespace Parts

/-- An attribute of clean names is read inside a tag. -/
theorem reads_namesAttribute {name : String} {values : List String}
    (hname : Reads .tag name.toList .tag 0) (hvalues : ∀ s ∈ values, Segment.IsClean s.toList) :
    ∀ s ∈ namesAttribute name values, Reads .tag s.toList .tag 0 := by
  intro s hs
  unfold namesAttribute at hs
  split at hs
  · cases hs
  · obtain rfl := List.mem_singleton.1 hs
    have hopen : Reads .tag "=\"".toList .quoted 0 := by decide
    have hvalue : Reads .quoted (" ".intercalate values).toList .quoted 0 :=
      Reads.intercalate fun s hs => reads_of_isClean .quoted (hvalues s hs)
    have hend : Reads .quoted "\"".toList .tag 0 := by decide
    simp only [String.toList_append]
    exact ((hname.append hopen).append hvalue).append hend

/-- The attributes of clean parts are read inside a tag. -/
theorem reads_attributes {parts : Parts} (h : parts.Clean) :
    Reads .tag parts.attributes.toList .tag 0 := by
  apply Reads.intercalate
  intro s hs
  rcases List.mem_append.1 hs with hclass | hid
  · exact reads_namesAttribute (by decide) h.classes s hclass
  · exact reads_namesAttribute (by decide) h.ids s hid

end Parts

/-! ## Placeholders -/

namespace Placeholder

/-- The tags before the content of a placeholder. -/
def Kind.openingTags : Kind → Nat
  | .tableCell => 11
  | _ => 1

/-- The tags after the content of a placeholder. -/
def Kind.closingTags : Kind → Nat
  | .image => 0
  | .tableCell => 4
  | _ => 1

/-- The tags of a placeholder. -/
def Kind.tags (kind : Kind) : Nat := kind.openingTags + kind.closingTags

/-- The tags of a chain are those of its placeholders. -/
def chainTags (segments : List String) : Nat :=
  (segments.map fun segment => (ofSegment segment).kind.tags).sum

/-- The parts of a placeholder are clean, also those of a segment that cannot be taken apart. -/
theorem clean_ofSegment (segment : String) : (ofSegment segment).parts.Clean := by
  have hparts : (ofSegment segment).parts = (Parts.ofSegment segment).toOption.getD {} := rfl
  rw [hparts]
  cases hsegment : Parts.ofSegment segment with
  | error e => exact Parts.clean_default
  | ok parts => exact Parts.clean_ofSegment hsegment

/-- An opening tag is one tag. -/
theorem reads_openingTag {name attributes : String} (hname : Reads .tag name.toList .tag 0)
    (hattributes : Reads .tag attributes.toList .tag 0) :
    Reads .text (openingTag name attributes).toList .text 1 := by
  have hbegin : Reads .text "<".toList .tag 1 := by decide
  have hspace : Reads .tag " ".toList .tag 0 := by decide
  have hend : Reads .tag ">".toList .text 0 := by decide
  unfold openingTag
  split
  · simp only [String.toList_append]
    exact (hbegin.append hname).append hend
  · simp only [String.toList_append]
    exact (((hbegin.append hname).append hspace).append hattributes).append hend

/-- Two groups of attributes are read inside a tag. -/
theorem reads_joinAttributes {first second : String} (hfirst : Reads .tag first.toList .tag 0)
    (hsecond : Reads .tag second.toList .tag 0) :
    Reads .tag (joinAttributes first second).toList .tag 0 := by
  have hspace : Reads .tag " ".toList .tag 0 := by decide
  unfold joinAttributes
  split
  · exact hsecond
  · simp only [String.toList_append]
    exact (hfirst.append hspace).append hsecond

/-- The name of an element is read inside a tag. -/
theorem reads_elementName {parts : Parts} (h : parts.Clean) :
    Reads .tag (elementName parts).toList .tag 0 := by
  unfold elementName
  split
  · decide
  · exact reads_of_isClean .tag h.tag

/-- The address of the stand-in image is read as part of a quoted value. -/
theorem reads_imageSource : Reads .quoted imageSource.toList .quoted 0 := by
  unfold imageSource
  simp only [String.toList_append]
  -- The characters of the four literals are laid open first, which makes evaluation much cheaper.
  rw [String.toList_ofList, String.toList_ofList, String.toList_ofList, String.toList_ofList]
  decide +kernel

/-- The attributes of the stand-in image are read inside a tag. -/
theorem reads_imageAttributes :
    Reads .tag ("src=\"" ++ imageSource ++ "\" alt=\"[image]\"").toList .tag 0 := by
  have hsource : Reads .tag "src=\"".toList .quoted 0 := by decide
  have halt : Reads .quoted "\" alt=\"[image]\"".toList .tag 0 := by decide
  simp only [String.toList_append]
  exact (hsource.append reads_imageSource).append halt

/-- The head of the table around a cell has nine tags. -/
theorem reads_tableOpening : Reads .text tableOpening.toList .text 9 := by
  unfold tableOpening
  rw [String.toList_ofList]
  decide +kernel

/-- The tags before the content of a placeholder. -/
theorem reads_opening {p : Placeholder} (h : p.parts.Clean) :
    Reads .text p.opening.toList .text p.kind.openingTags := by
  have hattributes := Parts.reads_attributes h
  unfold opening
  cases p.kind with
  | container => exact reads_openingTag (by decide) hattributes
  | anchor => exact reads_openingTag (by decide) (reads_joinAttributes hattributes (by decide))
  | image =>
    exact reads_openingTag (by decide) (reads_joinAttributes hattributes reads_imageAttributes)
  | tableCell =>
    have hcell : Reads .text (openingTag "td" p.parts.attributes).toList .text 1 :=
      reads_openingTag (by decide) hattributes
    have hlabel : Reads .text cellLabel.toList .text 1 := by decide
    simp only [String.toList_append]
    exact (reads_tableOpening.append hcell).append hlabel
  | element => exact reads_openingTag (reads_elementName h) hattributes

/-- The tags after the content of a placeholder. -/
theorem reads_closing {p : Placeholder} (segment : String) (h : p.parts.Clean) :
    Reads .text (p.closing segment).toList .text p.kind.closingTags := by
  unfold closing
  cases p.kind with
  | container => exact (by decide : Reads .text "</div>".toList .text 1)
  | anchor =>
    have hmark : Reads .text anchorMark.toList .text 0 := by decide
    have hspace : Reads .text " ".toList .text 0 := by decide
    have hend : Reads .text "</a>".toList .text 1 := by decide
    simp only [String.toList_append]
    exact ((hmark.append hspace).append (reads_escape .text segment)).append hend
  | image => exact (by decide : Reads .text "".toList .text 0)
  | tableCell => exact (by decide +kernel : Reads .text tableClosing.toList .text 4)
  | element =>
    have hbegin : Reads .text "</".toList .tag 1 := by decide
    have hend : Reads .tag ">".toList .text 0 := by decide
    simp only [String.toList_append]
    exact (hbegin.append (reads_elementName h)).append hend

/-- A chain is read with the tags of its placeholders; its label has none. -/
theorem reads_drawChain (segments : List String) (label : String) :
    Reads .text (drawChain segments label).toList .text (chainTags segments) := by
  induction segments with
  | nil => exact reads_escape .text label
  | cons segment rest ih =>
    have hclean := clean_ofSegment segment
    have hreads := ((reads_opening hclean).append ih).append (reads_closing segment hclean)
    have hsum : (ofSegment segment).kind.openingTags + chainTags rest +
        (ofSegment segment).kind.closingTags = chainTags (segment :: rest) := by
      rw [chainTags, chainTags, List.map_cons, List.sum_cons, Kind.tags]
      omega
    rw [hsum] at hreads
    simpa only [drawChain, String.toList_append] using hreads

end Placeholder

/-! ## Frames and the document -/

/-- A frame is three tags, whatever its page: its own two and a line break. -/
theorem Frame.reads_wrap (fragment : String) (options : Options) :
    Reads .text (Frame.wrap fragment options).toList .text 3 := by
  have hbegin : Reads .text "<iframe style=\"".toList .quoted 1 := by decide
  have hstyle : Reads .quoted Frame.borderStyle.toList .quoted 0 := by decide
  have hwidth : Reads .quoted "\" width=\"".toList .quoted 0 := by decide
  have hheight : Reads .quoted "\" height=\"".toList .quoted 0 := by decide
  have hpage : Reads .quoted "\" srcdoc=\"".toList .quoted 0 := by decide
  have hend : Reads .quoted "\"></iframe><br/>\n".toList .text 2 := by decide
  unfold Frame.wrap
  simp only [String.toList_append]
  exact ((((((((hbegin.append hstyle).append hwidth).append (reads_decimal .quoted _)).append
    hheight).append (reads_decimal .quoted _)).append hpage).append
    (reads_escape .quoted _)).append (reads_escape .quoted fragment)).append hend

namespace Document

/-- The beginning of the document has nine tags, whatever the address of the style sheet. -/
theorem reads_opening (href : String) : Reads .text (opening href).toList .text 9 := by
  have hhead : Reads .text
      "<!DOCTYPE html>\n<html lang=\"en\">\n<head>\n    <meta charset=\"UTF-8\">\n".toList
      .text 4 := by
    decide +kernel
  have htitle : Reads .text "    <title>CSS preview: ".toList .text 1 := by decide +kernel
  have hlink : Reads .text "</title>\n    <link href=\"".toList .quoted 2 := by decide +kernel
  have hbody : Reads .quoted
      "\" rel=\"stylesheet\" type=\"text/css\" />\n</head>\n<body>\n\n".toList .text 2 := by
    decide +kernel
  unfold opening
  simp only [String.toList_append]
  exact ((((hhead.append htitle).append (reads_escape .text href)).append hlink).append
    (reads_escape .quoted href)).append hbody

/-- The tags of a block: those of a frame if it is boxed, and else those of its placeholders. -/
def blockTags (sheet : Sheet) (options : Options) (block : Block) : Nat :=
  if Boxed sheet options block then 3
  else Placeholder.chainTags (Chain.segments block.chain)

/-- A block has the tags of its frame or of its placeholders. -/
theorem Block.reads_html (sheet : Sheet) (options : Options) (block : Block) :
    Reads .text (block.html (registry sheet options) options).toList .text
      (blockTags sheet options block) := by
  rw [Block.html_eq, blockTags]
  split
  · exact Frame.reads_wrap block.fragment options
  · exact Placeholder.reads_drawChain _ _

/-- The tags of texts after one another add up. -/
theorem reads_join {l : List Block} {text : Block → String} {tags : Block → Nat}
    (h : ∀ block, Reads .text (text block).toList .text (tags block)) :
    Reads .text (String.join (l.map text)).toList .text (l.map tags).sum := by
  induction l with
  | nil => exact (by decide : Reads .text "".toList .text 0)
  | cons block rest ih =>
    rw [List.map_cons, List.map_cons, String.join_cons, String.toList_append, List.sum_cons]
    exact (h block).append ih

/-- **No input text reaches a tag.** Scanned from its beginning to its end, the document has no
bracket or quote where none may stand. Its tags are nine in the beginning, those of its blocks, and
two in the end: three for a block in a frame, and for any other those of its placeholders, which are
told by their kinds. Every ampersand begins a known reference, and an escaped text, wherever it
stands, leaves the scanner in its place without a tag. -/
theorem render_tags (sheet : Sheet) (options : Options) :
    scan .text (render sheet options).toList =
        some (.text, 9 + ((blocks sheet).map (blockTags sheet options)).sum + 2) ∧
      Referenced (escapeReferences ++ cellReferences) (render sheet options).toList ∧
      ∀ (place : Place) (text : String), scan place (escape text).toList = some (place, 0) := by
  have hblocks : Reads .text
      (String.join ((blocks sheet).map (Block.html (registry sheet options) options))).toList .text
      ((blocks sheet).map (blockTags sheet options)).sum :=
    reads_join (Block.reads_html sheet options)
  have hclosing : Reads .text closing.toList .text 2 := by decide +kernel
  have hreads : Reads .text (render sheet options).toList .text
      (9 + ((blocks sheet).map (blockTags sheet options)).sum + 2) := by
    rw [render, String.toList_append, String.toList_append]
    exact ((reads_opening options.href).append hblocks).append hclosing
  exact ⟨hreads.scan_eq, hreads.referenced, fun place text => (reads_escape place text).scan_eq⟩

end Document

end SelectorPreview
