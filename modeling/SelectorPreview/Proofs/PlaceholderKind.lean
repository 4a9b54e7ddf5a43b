import SelectorPreview.Placeholder
import SelectorPreview.Proofs.SegmentParts
/-!
# The kind of a placeholder

The kind of a placeholder is found by tests on the text of its segment, and its parts by reading the
letters one by one. Both go by the text before the first mark, so for a segment that has parts the
kind goes with the tag. A segment that cannot be taken apart has no tag, and is drawn as a `div`
without attributes; but the tests see its text as before, and a link or an image is found by them.

* `hasTag_iff` : the tests look at the text before the first mark;
* `kindOf_ofSegment` : the kind of a segment that has parts goes with the tag;
* `bare_div_iff` : which segments without parts are drawn as a `div`.
-/

namespace SelectorPreview.Placeholder

open Segment Markup Text

/-! ## The tests -/

/-- A segment has the tag that stands before its first mark. -/
theorem hasTag_unmarked (segment : List Char) : hasTag segment (unmarked segment) = true := by
  obtain ⟨rest, hsplit, hmark⟩ := exists_unmarked_append segment
  have hbegin : (unmarked segment).isPrefixOf segment = true :=
    List.isPrefixOf_iff_prefix.2 ⟨rest, hsplit⟩
  have hdrop : (unmarked segment ++ rest).drop (unmarked segment).length = rest :=
    List.drop_left
  rw [hsplit] at hdrop
  rw [hasTag, if_pos hbegin, hdrop]
  cases rest with
  | nil => rfl
  | cons c rest => exact hmark c rfl

/-- **A segment has a tag exactly if the tag is the text before the first mark.** -/
theorem hasTag_iff {segment tag : List Char}
    (htag : tag.all (fun c => (Mark.ofChar? c).isNone) = true) :
    hasTag segment tag = true ↔ unmarked segment = tag := by
  constructor
  · intro h
    unfold hasTag at h
    split at h
    · rename_i hbegin
      obtain ⟨rest, rfl⟩ := List.isPrefixOf_iff_prefix.1 hbegin
      rw [List.drop_left] at h
      rw [unmarked, List.takeWhile_append_of_pos (List.all_eq_true.1 htag)]
      cases rest with
      | nil => simp
      | cons c rest =>
        have hmark : (Mark.ofChar? c).isNone = false := by
          simpa [Option.isSome_iff_ne_none] using h
        simp [hmark]
    · cases h
  · rintro rfl
    exact hasTag_unmarked segment

/-- A segment begins with a mark exactly if it is not empty and nothing stands before its first mark.
-/
theorem isSome_head_iff {segment : List Char} :
    (segment.head?.bind Mark.ofChar?).isSome = true ↔ segment ≠ [] ∧ unmarked segment = [] := by
  cases segment with
  | nil => simp
  | cons c rest =>
    cases hmark : Mark.ofChar? c <;> simp [unmarked, hmark]

/-- The tests of a kind look at nothing but the text before the first mark, and at the tag. -/
theorem kindOf_eq (segment : List Char) (parts : Parts) :
    kindOf segment parts =
      if segment ≠ [] ∧ unmarked segment = [] then .container
      else if unmarked segment = "a".toList then .anchor
      else if unmarked segment = "img".toList then .image
      else if sameName parts.tag "td" then .tableCell
      else .element := by
  have hanchor : hasTag segment "a".toList = true ↔ unmarked segment = "a".toList :=
    hasTag_iff (by decide)
  have himage : hasTag segment "img".toList = true ↔ unmarked segment = "img".toList :=
    hasTag_iff (by decide)
  unfold kindOf
  simp only [isSome_head_iff, hanchor, himage]

/-- A segment that is drawn with its own tag does not have the tag of an image. -/
theorem unmarked_ne_image_of_kindOf {segment : List Char} {parts : Parts}
    (h : kindOf segment parts = .element) : unmarked segment ≠ "img".toList := by
  intro himage
  have hlink : unmarked segment ≠ "a".toList := by
    rw [himage]
    decide
  rw [kindOf_eq, if_neg hlink, if_pos himage] at h
  split at h <;> cases h

/-! ## Segments that have parts -/

/-- The kind of placeholder that a tag stands for. -/
def Kind.ofTag (tag : String) : Kind :=
  if tag = "" then .container
  else if tag = "a" then .anchor
  else if tag = "img" then .image
  else if sameName tag "td" then .tableCell
  else .element

section

variable {tag : String}

/-- Only a segment without a tag is drawn as a container. -/
theorem ofTag_eq_container_iff : Kind.ofTag tag = .container ↔ tag = "" := by
  unfold Kind.ofTag
  split_ifs <;> simp_all

/-- Only the tag of a link is drawn as one. -/
theorem ofTag_eq_anchor_iff : Kind.ofTag tag = .anchor ↔ tag = "a" := by
  unfold Kind.ofTag
  split_ifs <;> simp_all

/-- Only the tag of an image is drawn as one. -/
theorem ofTag_eq_image_iff : Kind.ofTag tag = .image ↔ tag = "img" := by
  unfold Kind.ofTag
  split_ifs <;> simp_all

/-- Only the tag of a cell is drawn as one, whatever the case of its letters. -/
theorem ofTag_eq_tableCell_iff : Kind.ofTag tag = .tableCell ↔ sameName tag "td" = true := by
  have hempty : sameName "" "td" = false := by decide
  have hanchor : sameName "a" "td" = false := by decide
  have himage : sameName "img" "td" = false := by decide
  unfold Kind.ofTag
  split_ifs <;> simp_all

/-- Every other tag is drawn as it is. -/
theorem ofTag_eq_element_iff :
    Kind.ofTag tag = .element ↔
      tag ≠ "" ∧ tag ≠ "a" ∧ tag ≠ "img" ∧ sameName tag "td" = false := by
  unfold Kind.ofTag
  split_ifs <;> simp_all

end

/-- A segment that has parts keeps them when it is drawn. -/
theorem parts_ofSegment {segment : String} {parts : Parts}
    (h : Parts.ofSegment segment = .ok parts) : (ofSegment segment).parts = parts := by
  show (Parts.ofSegment segment).toOption.getD {} = parts
  rw [h]
  rfl

/-- **The kind of a segment that has parts goes with the tag.** -/
theorem kindOf_ofSegment {segment : String} {parts : Parts} (hne : segment ≠ "")
    (h : Parts.ofSegment segment = .ok parts) :
    (ofSegment segment).kind = Kind.ofTag parts.tag := by
  have htag := Parts.tag_ofSegment h
  have hsegment : segment.toList ≠ [] := by simpa using hne
  have heq : ∀ tag : String, unmarked segment.toList = tag.toList ↔ parts.tag = tag := by
    intro tag
    rw [← htag, String.toList_inj]
  show kindOf segment.toList (ofSegment segment).parts = _
  rw [parts_ofSegment h, kindOf_eq, Kind.ofTag]
  have hempty : unmarked segment.toList = [] ↔ parts.tag = "" := heq ""
  simp only [hsegment, ne_eq, not_false_eq_true, true_and, hempty, heq]

/-! ## Segments that have none -/

/-- A segment that cannot be taken apart is drawn without a tag and without attributes. -/
theorem ofSegment_of_error {segment : String} {e : PreviewError}
    (h : Parts.ofSegment segment = .error e) :
    ofSegment segment = ⟨kindOf segment.toList {}, {}⟩ := by
  unfold ofSegment
  rw [h]
  rfl

/-- Without a tag no segment is drawn as a cell. -/
theorem kindOf_default (segment : List Char) :
    kindOf segment {} =
      if segment ≠ [] ∧ unmarked segment = [] then .container
      else if unmarked segment = "a".toList then .anchor
      else if unmarked segment = "img".toList then .image
      else .element := by
  have hcell : sameName ({} : Parts).tag "td" = false := by decide
  rw [kindOf_eq, hcell]
  rfl

section

variable {segment : String} {e : PreviewError} (h : Parts.ofSegment segment = .error e)

include h

/-- Behind the tag of a link a segment without parts is a link without attributes of its own. -/
theorem drawn_as_link (htag : unmarked segment.toList = "a".toList) :
    (ofSegment segment).opening = "<a href=\"#\">" ∧
      (ofSegment segment).closing segment = anchorMark ++ " " ++ escape segment ++ "</a>" := by
  have hkind : kindOf segment.toList {} = .anchor := by simp [kindOf_default, htag]
  rw [ofSegment_of_error h, hkind]
  exact ⟨by decide, rfl⟩

/-- Behind the tag of an image a segment without parts is the stand-in image. -/
theorem drawn_as_image (htag : unmarked segment.toList = "img".toList) :
    (ofSegment segment).opening = "<img src=\"" ++ imageSource ++ "\" alt=\"[image]\">" ∧
      (ofSegment segment).closing segment = "" := by
  have hkind : kindOf segment.toList {} = .image := by simp [kindOf_default, htag]
  rw [ofSegment_of_error h, hkind]
  have hnone : ({} : Parts).attributes = "" := by decide
  have hbegin : "<img src=\"" = "<img " ++ "src=\"" := by decide
  have hend : "\" alt=\"[image]\">" = "\" alt=\"[image]\"" ++ ">" := by decide
  have hopening : opening ⟨.image, {}⟩ =
      "<img " ++ ("src=\"" ++ imageSource ++ "\" alt=\"[image]\"") ++ ">" := by
    simp [opening, hnone, joinAttributes, openingTag]
  refine ⟨?_, rfl⟩
  rw [hopening, hbegin, hend]
  simp only [String.append_assoc]

/-- Any other segment without parts is a `div` without attributes. -/
theorem drawn_as_div (hlink : unmarked segment.toList ≠ "a".toList)
    (himage : unmarked segment.toList ≠ "img".toList) :
    (ofSegment segment).opening = "<div>" ∧ (ofSegment segment).closing segment = "</div>" := by
  have hkind : kindOf segment.toList {} = .container ∨ kindOf segment.toList {} = .element := by
    rw [kindOf_default, if_neg hlink, if_neg himage]
    split
    · exact Or.inl rfl
    · exact Or.inr rfl
  rw [ofSegment_of_error h]
  rcases hkind with hkind | hkind
  · rw [hkind]
    exact ⟨by decide, rfl⟩
  · rw [hkind]
    exact ⟨by decide, rfl⟩

end

/-- **Which segments without parts are drawn as a `div` without attributes:** those in which neither
the tag of a link nor that of an image stands before the first mark. With one of these tags in front
the segment is still drawn as a link, or as the stand-in image. -/
theorem bare_div_iff {segment : String} {e : PreviewError}
    (h : Parts.ofSegment segment = .error e) :
    ((ofSegment segment).opening = "<div>" ∧ (ofSegment segment).closing segment = "</div>" ↔
      unmarked segment.toList ≠ "a".toList ∧ unmarked segment.toList ≠ "img".toList) ∧
    (unmarked segment.toList = "a".toList →
      (ofSegment segment).opening = "<a href=\"#\">" ∧
      (ofSegment segment).closing segment = anchorMark ++ " " ++ escape segment ++ "</a>") ∧
    (unmarked segment.toList = "img".toList →
      (ofSegment segment).opening = "<img src=\"" ++ imageSource ++ "\" alt=\"[image]\">" ∧
      (ofSegment segment).closing segment = "") := by
  refine ⟨⟨?_, fun hother => drawn_as_div h hother.1 hother.2⟩, drawn_as_link h, drawn_as_image h⟩
  rintro ⟨hopening, hclosing⟩
  constructor
  · intro hlink
    rw [(drawn_as_link h hlink).1] at hopening
    exact absurd hopening (by decide)
  · intro himage
    rw [(drawn_as_image h himage).2] at hclosing
    exact absurd hclosing (by decide)

/-- A link with a class whose name ends in a dot. This dot is read as a mark without a name. -/
def dottedLink : String := "a.b\\."

/-- The link has no parts. -/
theorem ofSegment_dottedLink :
    Parts.ofSegment dottedLink =
      .error (.invalidSegment dottedLink Fault.emptyName.reason) := by
  decide +kernel

/-- A dot at the end of a cell leaves a `div`, and one at the end of a link leaves a link. -/
theorem drawn_dottedCell_dottedLink :
    Parts.ofSegment "td." = .error (.invalidSegment "td." Fault.emptyName.reason) ∧
      (ofSegment "td.").opening = "<div>" ∧ (ofSegment "td.").closing "td." = "</div>" ∧
      (ofSegment dottedLink).opening = "<a href=\"#\">" := by
  have hcell : Parts.ofSegment "td." = .error (.invalidSegment "td." Fault.emptyName.reason) := by
    decide +kernel
  obtain ⟨hopening, hclosing⟩ := (bare_div_iff hcell).1.2 ⟨by decide, by decide⟩
  exact ⟨hcell, hopening, hclosing, ((bare_div_iff ofSegment_dottedLink).2.1 (by decide)).1⟩

/-- A segment that cannot be taken apart is not always drawn as a `div`. -/
theorem not_always_bare_div :
    ¬ ∀ (segment : String) (e : PreviewError), Parts.ofSegment segment = .error e →
      (ofSegment segment).opening = "<div>" ∧ (ofSegment segment).closing segment = "</div>" := by
  intro h
  have hdrawn : (ofSegment dottedLink).opening = "<a href=\"#\">" := by decide +kernel
  have hdiv := (h dottedLink _ ofSegment_dottedLink).1
  rw [hdrawn] at hdiv
  exact absurd hdiv (by decide)

end SelectorPreview.Placeholder
