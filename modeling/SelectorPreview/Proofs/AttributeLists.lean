import Mathlib
import SelectorPreview.Proofs.OpeningTag
import SelectorPreview.Proofs.TagReading
import SelectorPreview.Text.Blank
/-!
# The attributes of a segment

The classes of a segment become one attribute and its identifiers another one, with a space between
the names. There is no blank in a segment of a chain, and no quote and no ampersand in its names, so
the names are read back from the attributes. They are also read back from the opening tag of the
placeholder, in which the attributes of the kind stand behind them.

* `tagAttributes_eq` : all attributes of a placeholder, as one list;
* `isReadable_nameLists`, `isReadable_ownLists` : they can be read back;
* `attributes_carry_names` : what is read from the attributes and from the opening tag.
-/

namespace SelectorPreview

open Markup Segment Text

/-! ## The attributes of the names -/

namespace Parts

/-- The attribute for a list of names; none for an empty list. -/
def nameList (name : String) (values : List String) : List Attribute :=
  if values.isEmpty then [] else [⟨name, values⟩]

/-- The attributes for the classes and for the identifiers of a segment. -/
def nameLists (parts : Parts) : List Attribute :=
  nameList "class" parts.classes ++ nameList "id" parts.ids

/-- The attribute for a list of names is written with its words between quotes. -/
theorem namesAttribute_eq (name : String) (values : List String) :
    namesAttribute name values = (nameList name values).map Attribute.text := by
  unfold namesAttribute nameList
  split <;> rfl

/-- The attributes of a segment are written one after another. -/
theorem attributes_eq (parts : Parts) : parts.attributes = Attribute.texts parts.nameLists := by
  unfold attributes nameLists Attribute.texts
  rw [namesAttribute_eq, namesAttribute_eq, List.map_append]

/-- The words of the first attribute with a name; none if there is no such attribute. -/
def wordsOf (name : String) (l : List Attribute) : List String :=
  ((l.find? (·.name == name)).map (·.words)).getD []

/-- The classes are the words of their attribute. -/
theorem wordsOf_class (parts : Parts) : wordsOf "class" parts.nameLists = parts.classes := by
  unfold wordsOf nameLists nameList
  split <;> split <;> simp_all

/-- The identifiers are the words of their attribute. -/
theorem wordsOf_id (parts : Parts) : wordsOf "id" parts.nameLists = parts.ids := by
  unfold wordsOf nameLists nameList
  split <;> split <;> simp_all

/-- The characters of a clean text stand for themselves in a value. -/
theorem isLiteral_of_isClean {s : List Char} (h : IsClean s) : ∀ c ∈ s, isLiteral c = true := by
  intro c hc
  have hclean := h c hc
  simp only [isForbidden, Bool.or_eq_false_iff, beq_eq_false_iff_ne] at hclean
  simp [isLiteral, hclean]

/-- An attribute for a list of words can be read back. -/
theorem isReadable_nameList {name : String} {values : List String} (hnamed : name.toList ≠ [])
    (hname : name.toList.all isNameLetter = true)
    (hspace : ∀ word ∈ values, ' ' ∉ word.toList) (hclean : ∀ word ∈ values, IsClean word.toList) :
    ∀ a ∈ nameList name values, a.IsReadable := by
  intro a ha
  unfold nameList at ha
  split at ha
  · cases ha
  · rename_i hempty
    obtain rfl := List.mem_singleton.1 ha
    have hvalued : values ≠ [] := by simpa using hempty
    have hliteral := isLiteral_intercalate fun word hword => isLiteral_of_isClean (hclean word hword)
    exact ⟨hnamed, hname, hvalued, hspace, hliteral⟩

section

variable {segment : String} {parts : Parts} (hblank : ∀ c ∈ segment.toList, isBlank c = false)
  (h : ofSegment segment = .ok parts)

include hblank h

/-- The names of a segment without blanks can be read back. -/
theorem isReadable_nameLists : ∀ a ∈ parts.nameLists, a.IsReadable := by
  have hclean := clean_ofSegment h
  obtain ⟨-, -, rfl⟩ := ofSegment_eq_ok_iff.1 h
  have hspace : ∀ mark, ∀ word ∈ (readingOf segment.toList).namesBehind mark, ' ' ∉ word.toList := by
    intro mark word hword hmem
    exact absurd (hblank ' ' (mem_of_mem_namesBehind hword hmem)) (by decide)
  intro a ha
  rcases List.mem_append.1 ha with hclass | hid
  · exact isReadable_nameList (by decide) (by decide) (hspace _) hclean.classes a hclass
  · exact isReadable_nameList (by decide) (by decide) (hspace _) hclean.ids a hid

/-- The names of a segment without blanks are read from its attributes. -/
theorem attributes?_attributes : attributes? parts.attributes.toList = some parts.nameLists := by
  rw [attributes_eq]
  exact Attribute.attributes?_texts (isReadable_nameLists hblank h)

end

end Parts

/-! ## The attributes of a placeholder -/

namespace Placeholder

/-- The attributes that a kind of placeholder has of its own, as a list. -/
def Kind.ownLists : Kind → List Attribute
  | .anchor => [.ofValue "href" "#"]
  | .image => [.ofValue "src" imageSource, .ofValue "alt" "[image]"]
  | _ => []

/-- No kind has classes or identifiers. -/
theorem name_of_mem_ownLists (kind : Kind) :
    ∀ a ∈ kind.ownLists, a.name ≠ "class" ∧ a.name ≠ "id" := by
  cases kind <;> simp [Kind.ownLists, Attribute.ofValue]

/-- The attributes of a kind are written one after another. -/
theorem ownAttributes_eq (kind : Kind) : kind.ownAttributes = Attribute.texts kind.ownLists := by
  cases kind with
  | anchor => decide
  | image =>
    have hquote : "\" alt=\"[image]\"" = "\"" ++ " " ++ "alt=\"[image]\"" := by decide
    have hname : "src=\"" = "src" ++ "=\"" := by decide
    have halt : (Attribute.ofValue "alt" "[image]").text = "alt=\"[image]\"" := by decide
    unfold Kind.ownAttributes Kind.ownLists Attribute.texts
    rw [hquote, hname, List.map_cons, List.map_singleton, halt, Attribute.text_ofValue]
    simp [String.append_assoc]
  | _ => rfl

/-- The characters of the address of the stand-in image stand for themselves. -/
theorem isLiteral_imageSource : imageSource.toList.all isLiteral = true := by
  unfold imageSource
  simp only [String.toList_append]
  -- The characters of the four literals are laid open first, which makes evaluation much cheaper.
  rw [String.toList_ofList, String.toList_ofList, String.toList_ofList, String.toList_ofList]
  decide +kernel

/-- The attributes of a kind can be read back. -/
theorem isReadable_ownLists (kind : Kind) : ∀ a ∈ kind.ownLists, a.IsReadable := by
  cases kind with
  | anchor =>
    have hlink : (Attribute.ofValue "href" "#").IsReadable :=
      Attribute.isReadable_ofValue (by decide) (by decide) (by decide)
    simpa [Kind.ownLists] using hlink
  | image =>
    have hsource : (Attribute.ofValue "src" imageSource).IsReadable :=
      Attribute.isReadable_ofValue (by decide) (by decide) isLiteral_imageSource
    have hcaption : (Attribute.ofValue "alt" "[image]").IsReadable :=
      Attribute.isReadable_ofValue (by decide) (by decide) (by decide)
    simpa [Kind.ownLists] using ⟨hsource, hcaption⟩
  | _ => exact fun a ha => absurd ha List.not_mem_nil

/-- The attributes of a placeholder as a list: those of the segment, and then those of the kind. -/
def attributeLists (p : Placeholder) : List Attribute := p.parts.nameLists ++ p.kind.ownLists

/-- Two groups of attributes are written one after another. -/
theorem joinAttributes_texts {l m : List Attribute} (hl : ∀ a ∈ l, a.IsReadable) (hm : m ≠ []) :
    joinAttributes (Attribute.texts l) (Attribute.texts m) = Attribute.texts (l ++ m) := by
  unfold joinAttributes
  by_cases hne : l = []
  · simp [hne, Attribute.texts]
  · have hfirst : (Attribute.texts l).isEmpty = false := by
      simpa using Attribute.texts_ne_empty hne hl
    rw [hfirst, Attribute.texts_append hne hm]
    rfl

/-- **All attributes of a placeholder are written one after another.** -/
theorem tagAttributes_eq {p : Placeholder} (h : ∀ a ∈ p.parts.nameLists, a.IsReadable) :
    p.tagAttributes = Attribute.texts p.attributeLists := by
  unfold tagAttributes attributeLists
  rw [Parts.attributes_eq, ownAttributes_eq]
  cases p.kind with
  | anchor => exact joinAttributes_texts h (by simp [Kind.ownLists])
  | image => exact joinAttributes_texts h (by simp [Kind.ownLists])
  | container => simp [Kind.ownLists]
  | tableCell => simp [Kind.ownLists]
  | element => simp [Kind.ownLists]

/-- **The attributes of a tag are read back,** if its name has no gaps. -/
theorem tagAttributes?_tagText {name : String} {l : List Attribute}
    (hname : ∀ c ∈ name.toList, isGap c = false) (hl : ∀ a ∈ l, a.IsReadable) :
    tagAttributes? (tagText name (Attribute.texts l)) = some l := by
  have helement := yields_element hname
  unfold tagText tagAttributes?
  by_cases hne : l = []
  · rw [hne]
    have hnone : (Attribute.texts []).isEmpty = true := by decide
    rw [hnone]
    simpa using helement.attributesFrom? rfl
  · have htexts : (Attribute.texts l).isEmpty = false := by
      simpa using Attribute.texts_ne_empty hne hl
    have hspace : YieldsAttributes .element [' '] .gap [] := by decide
    have hall := (helement.append hspace).append (Attribute.yields_texts hne hl)
    rw [htexts]
    have hread := hall.attributesFrom? rfl
    simpa [Attribute.map_ofPair_pair hl] using hread

/-! ## Segments without blanks -/

/-- A gap is a blank. -/
theorem isGap_of_isBlank_eq_false {c : Char} (h : isBlank c = false) : isGap c = false := by
  by_contra hgap
  simp only [Bool.not_eq_false, isGap, Bool.or_eq_true, beq_iff_eq] at hgap
  rcases hgap with (((rfl | rfl) | rfl) | rfl) | rfl <;> revert h <;> decide

section

variable {segment : String} {parts : Parts} (hblank : ∀ c ∈ segment.toList, isBlank c = false)
  (h : Parts.ofSegment segment = .ok parts)

include hblank h

/-- The name of the element of a segment without blanks has no gaps. -/
theorem gapFree_nameFor (kind : Kind) :
    ∀ c ∈ (kind.nameFor (elementName parts)).toList, isGap c = false := by
  have hown : ∀ name ∈ ownNames, name.toList.all (! isGap ·) = true := by decide
  have hfixed : ∀ name ∈ ownNames, ∀ c ∈ name.toList, isGap c = false := by
    simpa using hown
  rcases nameFor_eq_or_mem kind (elementName parts) with hname | hname
  · rw [hname]
    unfold elementName
    split
    · exact hfixed "div" (by decide)
    · intro c hc
      rw [Parts.tag_ofSegment h] at hc
      exact isGap_of_isBlank_eq_false (hblank c ((List.takeWhile_prefix _).subset hc))
  · exact hfixed _ hname

/-- The attributes of a placeholder are read from its opening tag. -/
theorem tagAttributes?_ofSegment :
    tagAttributes? (tagText ((ofSegment segment).kind.nameFor (elementName parts))
      (ofSegment segment).tagAttributes) =
      some (parts.nameLists ++ (ofSegment segment).kind.ownLists) := by
  have hnames := Parts.isReadable_nameLists hblank h
  have hparts := parts_ofSegment h
  have hall : ∀ a ∈ (ofSegment segment).attributeLists, a.IsReadable := by
    intro a ha
    rcases List.mem_append.1 ha with hname | hown
    · exact hnames a (hparts ▸ hname)
    · exact isReadable_ownLists _ a hown
  rw [tagAttributes_eq (hparts ▸ hnames),
    tagAttributes?_tagText (gapFree_nameFor hblank h _) hall, attributeLists, hparts]

end

/-- **The attributes carry the names faithfully.** From the attributes of a segment without blanks the
classes are read as the words of one attribute, and behind it the identifiers as those of another one;
either is missing if there are no such names. So two segments with the same attributes have the same
names. From the opening tag the same attributes are read, with others behind them. -/
theorem attributes_carry_names {segment : String} {parts : Parts}
    (hblank : ∀ c ∈ segment.toList, isBlank c = false) (h : Parts.ofSegment segment = .ok parts) :
    attributes? parts.attributes.toList = some parts.nameLists ∧
    (∀ (other : String) (otherParts : Parts), (∀ c ∈ other.toList, isBlank c = false) →
      Parts.ofSegment other = .ok otherParts → parts.attributes = otherParts.attributes →
        parts.classes = otherParts.classes ∧ parts.ids = otherParts.ids) ∧
    ∃ tag,
      (ofSegment segment).opening.toList =
        (ofSegment segment).kind.lead.toList ++
          '<' :: (tag ++ '>' :: (ofSegment segment).kind.trail.toList) ∧
      '>' ∉ tag ∧
      tagAttributes? tag = some (parts.nameLists ++ (ofSegment segment).kind.ownLists) ∧
      ∀ a ∈ (ofSegment segment).kind.ownLists, a.name ≠ "class" ∧ a.name ≠ "id" := by
  have hread := Parts.attributes?_attributes hblank h
  refine ⟨hread, ?_, ?_⟩
  · intro other otherParts hotherBlank hother heq
    have hsame : parts.nameLists = otherParts.nameLists := by
      rw [heq, Parts.attributes?_attributes hotherBlank hother] at hread
      exact (Option.some.inj hread).symm
    constructor
    · rw [← Parts.wordsOf_class parts, hsame, Parts.wordsOf_class]
    · rw [← Parts.wordsOf_id parts, hsame, Parts.wordsOf_id]
  · refine ⟨_, toList_opening (ofSegment segment), gt_not_mem_opening (clean_ofSegment segment), ?_,
      name_of_mem_ownLists _⟩
    rw [parts_ofSegment h]
    exact tagAttributes?_ofSegment hblank h

/-- A link with two classes around an identifier. -/
def menuLink : Parts := { tag := "a", classes := ["item", "current"], ids := ["home"] }

/-- A list item with the same names. -/
def menuItem : Parts := { tag := "li", classes := ["item", "current"], ids := ["home"] }

/-- The names of the link are read from its attributes and, in front of its address, from its opening
tag. The list item has the same attributes. -/
theorem names_of_menuLink :
    (∀ c ∈ "a.item#home.current".toList, isBlank c = false) ∧
      Parts.ofSegment "a.item#home.current" = .ok menuLink ∧
      (∀ c ∈ "li#home.item.current".toList, isBlank c = false) ∧
      Parts.ofSegment "li#home.item.current" = .ok menuItem ∧
      menuLink.attributes = menuItem.attributes ∧
      menuLink.classes = menuItem.classes ∧ menuLink.ids = menuItem.ids ∧
      attributes? menuLink.attributes.toList =
        some [⟨"class", ["item", "current"]⟩, ⟨"id", ["home"]⟩] ∧
      ∃ tag trail,
        (ofSegment "a.item#home.current").opening.toList = '<' :: (tag ++ '>' :: trail) ∧
          tagAttributes? tag =
            some [⟨"class", ["item", "current"]⟩, ⟨"id", ["home"]⟩, ⟨"href", ["#"]⟩] := by
  have hlinkBlank : "a.item#home.current".toList.all (! isBlank ·) = true := by decide
  have hitemBlank : "li#home.item.current".toList.all (! isBlank ·) = true := by decide
  simp only [List.all_eq_true, Bool.not_eq_true'] at hlinkBlank hitemBlank
  have hlink : Parts.ofSegment "a.item#home.current" = .ok menuLink := by decide +kernel
  have hitem : Parts.ofSegment "li#home.item.current" = .ok menuItem := by decide +kernel
  have hattributes : menuLink.attributes = menuItem.attributes := by decide
  have hanchor : (ofSegment "a.item#home.current").kind = .anchor := by decide +kernel
  obtain ⟨hread, hsame, tag, hopening, -, htag, -⟩ := attributes_carry_names hlinkBlank hlink
  obtain ⟨hclasses, hids⟩ := hsame _ _ hitemBlank hitem hattributes
  rw [hanchor] at hopening htag
  exact ⟨hlinkBlank, hlink, hitemBlank, hitem, hattributes, hclasses, hids, hread, tag, _, hopening,
    htag⟩

end Placeholder

end SelectorPreview
