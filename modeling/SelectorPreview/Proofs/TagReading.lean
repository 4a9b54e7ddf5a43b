import Mathlib.Data.List.Basic
import SelectorPreview.Markup.Escape
import SelectorPreview.Text.Blank
import SelectorPreview.Text.Infix
/-!
# Reading the attributes of a tag

A reader goes through the text of a tag. The name of the element goes up to the first gap; then come
attributes, each a name, an equals sign and a value in double quotes, with gaps between them. The
reader gives up at anything else, such as a value without quotes or an attribute right behind another
one. It does not know how tags are written.

An attribute whose value is a list of words is written with a space between the words. It is read by
decoding the references in the value and splitting it at its spaces. What is written so is read back,
if there is no space in a word, and no quote and no ampersand in the value.

* `YieldsAttributes.append` : texts behind one another;
* `yields_text`, `yields_texts` : an attribute, and attributes with a space between them;
* `attributes?_texts` : written attributes are read back.
-/

namespace SelectorPreview.Markup

/-! ## The reader -/

/-- The characters that separate the attributes of a tag. -/
def isGap (c : Char) : Bool := c == ' ' || c == '\t' || c == '\n' || c == '\x0c' || c == '\r'

/-- A name and the value behind it. -/
abbrev NameValue := List Char × List Char

/-- Where a reader stands in a tag. The letters read so far come last one first. -/
inductive TagPlace where
  /-- In the name of the element. -/
  | element
  /-- In a gap, where an attribute may begin. -/
  | gap
  /-- In the name of an attribute. -/
  | naming (letters : List Char)
  /-- Behind the equals sign of an attribute. -/
  | equals (name : List Char)
  /-- In a value, behind its first quote. -/
  | value (name letters : List Char)
  /-- Behind the last quote of a value. -/
  | closed
  deriving DecidableEq

/-- Where a reader stands behind one more character, and the attribute that ends there; nothing at a
character that may not stand there. -/
def TagPlace.next? : TagPlace → Char → Option (TagPlace × List NameValue)
  | .element, c => some (if isGap c then .gap else .element, [])
  | .gap, c =>
    if isGap c then some (.gap, [])
    else if c == '=' || c == '"' then none
    else some (.naming [c], [])
  | .naming letters, c =>
    if c == '=' then some (.equals letters.reverse, [])
    else if isGap c || c == '"' then none
    else some (.naming (c :: letters), [])
  | .equals name, c => if c == '"' then some (.value name [], []) else none
  | .value name letters, c =>
    if c == '"' then some (.closed, [(name, letters.reverse)])
    else some (.value name (c :: letters), [])
  | .closed, c => if isGap c then some (.gap, []) else none

/-- Where a reader stands behind a text, and the attributes in it. -/
def readAttributes : TagPlace → List Char → Option (TagPlace × List NameValue)
  | place, [] => some (place, [])
  | place, c :: rest =>
    (place.next? c).bind fun step =>
      (readAttributes step.1 rest).map fun behind => (behind.1, step.2 ++ behind.2)

/-- The places where a tag may end. -/
def TagPlace.isEnd : TagPlace → Bool
  | .element | .gap | .closed => true
  | _ => false

/-- An attribute whose value is a list of words. -/
structure Attribute where
  name : String
  words : List String
  deriving DecidableEq

/-- The words of a value, which single spaces separate. -/
def spaced (value : List Char) : List String := (value.splitOn ' ').map String.ofList

/-- An attribute with the words of its value, in which references stand for characters. -/
def Attribute.ofPair (pair : NameValue) : Attribute where
  name := String.ofList pair.1
  words := spaced (decode pair.2)

/-- The attributes of a text that is read from a place to its end. -/
def attributesFrom? (place : TagPlace) (s : List Char) : Option (List Attribute) :=
  (readAttributes place s).bind fun read =>
    if read.1.isEnd then some (read.2.map Attribute.ofPair) else none

/-- The attributes of a text that holds nothing but attributes. -/
def attributes? (s : List Char) : Option (List Attribute) := attributesFrom? .gap s

/-- The attributes of a tag. -/
def tagAttributes? (tag : List Char) : Option (List Attribute) := attributesFrom? .element tag

/-! ## Texts behind one another -/

/-- A text leads from one place in a tag to another, and has these attributes. -/
def YieldsAttributes (first : TagPlace) (s : List Char) (last : TagPlace)
    (found : List NameValue) : Prop :=
  readAttributes first s = some (last, found)

instance (first : TagPlace) (s : List Char) (last : TagPlace) (found : List NameValue) :
    Decidable (YieldsAttributes first s last found) :=
  inferInstanceAs (Decidable (readAttributes first s = some (last, found)))

/-- Where the first text leads to, the second one starts. -/
theorem YieldsAttributes.append {first next last : TagPlace} {s t : List Char}
    {found others : List NameValue} (hs : YieldsAttributes first s next found)
    (ht : YieldsAttributes next t last others) :
    YieldsAttributes first (s ++ t) last (found ++ others) := by
  unfold YieldsAttributes at hs ht ⊢
  induction s generalizing first found with
  | nil =>
    obtain ⟨rfl, rfl⟩ := Prod.mk.inj (Option.some.inj hs)
    exact ht
  | cons c rest ih =>
    rw [readAttributes] at hs
    rw [List.cons_append, readAttributes]
    obtain ⟨step, hstep, hs⟩ := Option.bind_eq_some_iff.1 hs
    obtain ⟨behind, hrest, heq⟩ := Option.map_eq_some_iff.1 hs
    obtain ⟨rfl, rfl⟩ := Prod.mk.inj heq
    rw [hstep, Option.bind_some, ih hrest, Option.map_some, List.append_assoc]

/-- A text that leads to a place where a tag may end is read with its attributes. -/
theorem YieldsAttributes.attributesFrom? {first last : TagPlace} {s : List Char}
    {found : List NameValue} (h : YieldsAttributes first s last found) (hend : last.isEnd = true) :
    attributesFrom? first s = some (found.map Attribute.ofPair) := by
  unfold YieldsAttributes at h
  rw [Markup.attributesFrom?, h, Option.bind_some, if_pos hend]

/-- A name without gaps is the name of an element. -/
theorem yields_element {name : List Char} (h : ∀ c ∈ name, isGap c = false) :
    YieldsAttributes .element name .element [] := by
  unfold YieldsAttributes
  induction name with
  | nil => rfl
  | cons c rest ih =>
    have hstep : TagPlace.next? .element c = some (.element, []) := by
      simp [TagPlace.next?, h c (by simp)]
    rw [readAttributes, hstep, Option.bind_some, ih fun d hd => h d (by simp [hd])]
    rfl

/-! ## Values -/

/-- The characters that stand for themselves in a value. -/
def isLiteral (c : Char) : Bool := c != '"' && c != '&'

/-- There is no quote among characters that stand for themselves. -/
theorem quote_not_mem_of_isLiteral {value : List Char} (h : ∀ c ∈ value, isLiteral c = true) :
    '"' ∉ value := fun hquote => absurd (h '"' hquote) (by decide)

/-- Nothing is decoded in characters that stand for themselves. -/
theorem decode_of_isLiteral {value : List Char} (h : ∀ c ∈ value, isLiteral c = true) :
    decode value = value := by
  induction value with
  | nil => rfl
  | cons c rest ih =>
    have hamp : c ≠ '&' := by
      rintro rfl
      exact absurd (h '&' (by simp)) (by decide)
    rw [decode_cons_of_ne rest hamp, ih fun d hd => h d (by simp [hd])]

/-- Joined words stand for themselves if each word does. -/
theorem isLiteral_intercalate {words : List String}
    (h : ∀ word ∈ words, ∀ c ∈ word.toList, isLiteral c = true) :
    ∀ c ∈ (" ".intercalate words).toList, isLiteral c = true := by
  intro c hc
  rw [String.toList_intercalate] at hc
  rcases Text.mem_intercalate hc with hspace | ⟨letters, hletters, hc⟩
  · obtain rfl := List.mem_singleton.1 hspace
    decide
  · obtain ⟨word, hword, rfl⟩ := List.mem_map.1 hletters
    exact h word hword c hc

/-- The words of joined words are these words, if no space is in one of them. -/
theorem spaced_intercalate {words : List String} (hne : words ≠ [])
    (h : ∀ word ∈ words, ' ' ∉ word.toList) : spaced (" ".intercalate words).toList = words := by
  have hspace : ∀ word ∈ words.map String.toList, ' ' ∉ word := by
    intro word hword
    obtain ⟨s, hs, rfl⟩ := List.mem_map.1 hword
    exact h s hs
  have hjoined : (" ".intercalate words).toList = [' '].intercalate (words.map String.toList) :=
    String.toList_intercalate
  unfold spaced
  rw [hjoined, List.splitOn_intercalate ' ' hspace (by simpa using hne)]
  simp [Function.comp_def]

/-- The words of a value are joined to the value. -/
theorem intercalate_spaced (value : String) : " ".intercalate (spaced value.toList) = value := by
  have hwords : (spaced value.toList).map String.toList = value.toList.splitOn ' ' := by
    simp [spaced, Function.comp_def]
  apply String.toList_inj.1
  rw [String.toList_intercalate, hwords]
  exact List.intercalate_splitOn ' '

/-- Every value has words. -/
theorem spaced_ne_nil (value : List Char) : spaced value ≠ [] := by
  simp [spaced, List.splitOn, List.splitOnP_ne_nil]

/-- There is no space in a word of a value. -/
theorem space_not_mem_of_mem_spaced {value : List Char} {word : String} (h : word ∈ spaced value) :
    ' ' ∉ word.toList := by
  obtain ⟨piece, hpiece, rfl⟩ := List.mem_map.1 h
  rw [String.toList_ofList]
  intro hspace
  exact absurd (Text.not_of_mem_pieces hpiece hspace) (by decide)

/-! ## Written attributes -/

/-- The characters of the name of an attribute. -/
def isNameLetter (c : Char) : Bool := ! isGap c && c != '=' && c != '"'

section

variable {c : Char} (h : isNameLetter c = true)

include h

/-- A name begins with a letter behind a gap. -/
theorem next?_gap_of_isNameLetter : TagPlace.next? .gap c = some (.naming [c], []) := by
  simp only [isNameLetter, Bool.and_eq_true, Bool.not_eq_true', bne_iff_ne] at h
  simp [TagPlace.next?, h]

/-- A name goes on with a letter. -/
theorem next?_naming_of_isNameLetter (letters : List Char) :
    TagPlace.next? (.naming letters) c = some (.naming (c :: letters), []) := by
  simp only [isNameLetter, Bool.and_eq_true, Bool.not_eq_true', bne_iff_ne] at h
  simp [TagPlace.next?, h]

end

/-- The name of an attribute goes up to its equals sign. -/
theorem yields_name (letters : List Char) {name : List Char}
    (h : ∀ c ∈ name, isNameLetter c = true) :
    YieldsAttributes (.naming letters) (name ++ ['=']) (.equals (letters.reverse ++ name)) [] := by
  unfold YieldsAttributes
  induction name generalizing letters with
  | nil => simp [readAttributes, TagPlace.next?]
  | cons c rest ih =>
    have hstep := next?_naming_of_isNameLetter (h c (by simp)) letters
    rw [List.cons_append, readAttributes, hstep, Option.bind_some,
      ih (c :: letters) fun d hd => h d (by simp [hd])]
    simp

/-- A value goes up to the next quote. -/
theorem yields_value (name letters : List Char) {value : List Char} (h : '"' ∉ value) :
    YieldsAttributes (.value name letters) (value ++ ['"']) .closed
      [(name, letters.reverse ++ value)] := by
  unfold YieldsAttributes
  induction value generalizing letters with
  | nil => simp [readAttributes, TagPlace.next?]
  | cons c rest ih =>
    have hc : c ≠ '"' := fun heq => h (by simp [heq])
    have hstep : TagPlace.next? (.value name letters) c = some (.value name (c :: letters), []) := by
      simp [TagPlace.next?, hc]
    rw [List.cons_append, readAttributes, hstep, Option.bind_some,
      ih (c :: letters) fun hmem => h (List.mem_cons_of_mem c hmem)]
    simp

namespace Attribute

/-- An attribute as it is written. -/
def text (a : Attribute) : String := a.name ++ "=\"" ++ " ".intercalate a.words ++ "\""

/-- The name and the value of an attribute. -/
def pair (a : Attribute) : NameValue := (a.name.toList, (" ".intercalate a.words).toList)

/-- An attribute that can be read back: it has a name and words, there is no space in a word, and the
characters of the value stand for themselves. -/
structure IsReadable (a : Attribute) : Prop where
  named : a.name.toList ≠ []
  name : a.name.toList.all isNameLetter = true
  valued : a.words ≠ []
  spaceFree : ∀ word ∈ a.words, ' ' ∉ word.toList
  literal : ∀ c ∈ (" ".intercalate a.words).toList, isLiteral c = true

/-- An attribute with a value. -/
def ofValue (name value : String) : Attribute := ⟨name, spaced value.toList⟩

/-- An attribute with a value is written with the value between quotes. -/
theorem text_ofValue (name value : String) :
    (ofValue name value).text = name ++ "=\"" ++ value ++ "\"" := by
  unfold text ofValue
  rw [intercalate_spaced]

/-- An attribute with a value can be read back if the characters of the value stand for themselves. -/
theorem isReadable_ofValue {name value : String} (hnamed : name.toList ≠ [])
    (hname : name.toList.all isNameLetter = true) (hvalue : value.toList.all isLiteral = true) :
    (ofValue name value).IsReadable where
  named := hnamed
  name := hname
  valued := spaced_ne_nil _
  spaceFree := fun _ => space_not_mem_of_mem_spaced
  literal := by
    show ∀ c ∈ (" ".intercalate (spaced value.toList)).toList, isLiteral c = true
    rw [intercalate_spaced]
    exact List.all_eq_true.1 hvalue

/-- The words of a readable attribute are those of its value. -/
theorem ofPair_pair {a : Attribute} (h : a.IsReadable) : ofPair a.pair = a := by
  unfold ofPair pair
  rw [decode_of_isLiteral h.literal, spaced_intercalate h.valued h.spaceFree, String.ofList_toList]

/-- **An attribute is read as it was written.** -/
theorem yields_text {a : Attribute} (h : a.IsReadable) :
    YieldsAttributes .gap a.text.toList .closed [a.pair] := by
  obtain ⟨first, rest, hname⟩ := List.exists_cons_of_ne_nil h.named
  have hletters : ∀ c ∈ first :: rest, isNameLetter c = true :=
    hname ▸ List.all_eq_true.1 h.name
  have hfirst : YieldsAttributes .gap [first] (.naming [first]) [] := by
    simp [YieldsAttributes, readAttributes, next?_gap_of_isNameLetter (hletters first (by simp))]
  have hrest : YieldsAttributes (.naming [first]) (rest ++ ['=']) (.equals (first :: rest)) [] :=
    yields_name [first] fun c hc => hletters c (by simp [hc])
  have hquote : YieldsAttributes (.equals (first :: rest)) ['"'] (.value (first :: rest) []) [] := by
    simp [YieldsAttributes, readAttributes, TagPlace.next?]
  have hvalue := yields_value (first :: rest) [] (quote_not_mem_of_isLiteral h.literal)
  simpa [text, pair, hname] using ((hfirst.append hrest).append hquote).append hvalue

/-- Attributes as they are written one after another. -/
def texts (l : List Attribute) : String := " ".intercalate (l.map text)

section

variable {l : List Attribute} (hne : l ≠ [])

include hne

/-- Two groups of attributes are written with a space between them. -/
theorem texts_append {m : List Attribute} (hother : m ≠ []) :
    texts (l ++ m) = texts l ++ " " ++ texts m := by
  unfold texts
  rw [List.map_append, String.intercalate_append_of_ne_nil (by simpa using hne)
    (by simpa using hother)]

/-- **Attributes are read as they were written.** -/
theorem yields_texts (h : ∀ a ∈ l, a.IsReadable) :
    YieldsAttributes .gap (texts l).toList .closed (l.map pair) := by
  induction l with
  | nil => exact absurd rfl hne
  | cons a rest ih =>
    have ha := yields_text (h a (by simp))
    by_cases hrest : rest = []
    · simpa [texts, hrest] using ha
    · have hspace : YieldsAttributes .closed [' '] .gap [] := by decide
      have hothers := ih hrest fun other hother => h other (by simp [hother])
      have hsplit : texts (a :: rest) = a.text ++ " " ++ texts rest :=
        texts_append (l := [a]) (by simp) hrest
      simpa [hsplit] using (ha.append hspace).append hothers

/-- Attributes are not written as an empty text. -/
theorem texts_ne_empty (h : ∀ a ∈ l, a.IsReadable) : texts l ≠ "" := by
  intro hempty
  have hread := yields_texts hne h
  rw [hempty] at hread
  exact absurd (Prod.mk.inj (Option.some.inj hread)).1 (by decide)

end

/-- The attributes that are read are those that were written. -/
theorem map_ofPair_pair {l : List Attribute} (h : ∀ a ∈ l, a.IsReadable) :
    (l.map pair).map ofPair = l :=
  calc (l.map pair).map ofPair
      = l.map (ofPair ∘ pair) := List.map_map
    _ = l.map id := List.map_congr_left fun a ha => ofPair_pair (h a ha)
    _ = l := List.map_id l

/-- **Written attributes are read back.** -/
theorem attributes?_texts {l : List Attribute} (h : ∀ a ∈ l, a.IsReadable) :
    attributes? (texts l).toList = some l := by
  by_cases hne : l = []
  · rw [hne]
    rfl
  · have hread := (yields_texts hne h).attributesFrom? rfl
    rwa [map_ofPair_pair h] at hread

end Attribute

end SelectorPreview.Markup
