import SelectorPreview.Proofs.MarkupText
/-!
# Scanning markup for tags and references

A scanner walks through markup and stands in a text, in a tag or in a quoted value. It stops at a
bracket or quote where none may stand, and counts the tags that begin. `Reads` puts this together
with the character references of a text, since both hold of a text when they hold of its parts.

* `Reads.append`, `Reads.intercalate` : what is read in parts is read as a whole;
* `reads_escape` : an escaped text is read without a tag, wherever it stands.
-/

namespace SelectorPreview.Markup

/-! ## The scanner -/

/-- Where a scanner stands. -/
inductive Place where
  | text
  | tag
  | quoted
  deriving DecidableEq

/-- Where a scanner stands after one more character; nothing at a character that may not stand
there. -/
def Place.next? : Place → Char → Option Place
  | .text, '<' => some .tag
  | .text, '>' => none
  | .text, '"' => none
  | .text, _ => some .text
  | .tag, '"' => some .quoted
  | .tag, '>' => some .text
  | .tag, '<' => none
  | .tag, _ => some .tag
  | .quoted, '"' => some .tag
  | .quoted, '<' => none
  | .quoted, '>' => none
  | .quoted, _ => some .quoted

/-- Where a scanner stands after a text, and how many tags began in it; nothing if it met a
character that may not stand where it stood. -/
def scan : Place → List Char → Option (Place × Nat)
  | place, [] => some (place, 0)
  | place, c :: rest =>
    match place.next? c with
    | none => none
    | some next =>
      (scan next rest).map fun (last, tags) =>
        (last, if place = .text ∧ next = .tag then tags + 1 else tags)

/-- The characters that move a scanner. -/
def isMarkup (c : Char) : Bool := c == '<' || c == '>' || c == '"'

/-- Any other character leaves a scanner where it stands. -/
theorem Place.next?_of_not_isMarkup {c : Char} (place : Place) (h : isMarkup c = false) :
    place.next? c = some place := by
  unfold next?
  split <;> first | rfl | (revert h; decide)

/-- A text without brackets and quotes leaves a scanner where it stands. -/
theorem scan_of_not_isMarkup (place : Place) {s : List Char}
    (h : ∀ c ∈ s, isMarkup c = false) : scan place s = some (place, 0) := by
  induction s with
  | nil => rfl
  | cons c rest ih =>
    have hstay : ¬ (place = .text ∧ place = .tag) := by
      rintro ⟨rfl, htag⟩
      cases htag
    have hrest := ih fun d hd => h d (by simp [hd])
    simp only [scan, place.next?_of_not_isMarkup (h c (by simp)), hrest, Option.map_some, hstay,
      if_false]

/-- Two texts are scanned one after the other, and their tags add up. -/
theorem scan_append {first next last : Place} {s t : List Char} {m n : Nat}
    (hs : scan first s = some (next, m)) (ht : scan next t = some (last, n)) :
    scan first (s ++ t) = some (last, m + n) := by
  induction s generalizing first m with
  | nil =>
    obtain ⟨rfl, rfl⟩ : first = next ∧ 0 = m := by simpa [scan] using hs
    simpa using ht
  | cons c rest ih =>
    rw [scan] at hs
    rw [List.cons_append, scan]
    cases hstep : first.next? c with
    | none => simp [hstep] at hs
    | some place =>
      simp only [hstep] at hs ⊢
      obtain ⟨⟨place', tags⟩, hrest, heq⟩ := Option.map_eq_some_iff.1 hs
      obtain ⟨rfl, rfl⟩ := Prod.mk.inj heq
      rw [ih hrest]
      simp only [Option.map_some, Option.some.injEq, Prod.mk.injEq, true_and]
      split <;> omega

/-- What scanning one more character does. -/
theorem scan_cons_eq_some {place last : Place} {c : Char} {rest : List Char} {tags : Nat}
    (h : scan place (c :: rest) = some (last, tags)) :
    ∃ next n, place.next? c = some next ∧ scan next rest = some (last, n) ∧
      tags = if place = .text ∧ next = .tag then n + 1 else n := by
  rw [scan] at h
  cases hstep : place.next? c with
  | none => simp [hstep] at h
  | some next =>
    simp only [hstep] at h
    obtain ⟨⟨last', n⟩, hrest, heq⟩ := Option.map_eq_some_iff.1 h
    obtain ⟨rfl, rfl⟩ := Prod.mk.inj heq
    exact ⟨next, n, rfl, hrest, rfl⟩

/-- From a text only a tag leads away. -/
theorem Place.next?_text_eq_some {c : Char} {next : Place} (h : Place.text.next? c = some next) :
    (next = .tag ∧ c = '<') ∨ (next = .text ∧ c ≠ '<') := by
  by_cases hmarkup : isMarkup c = true
  · simp only [isMarkup, Bool.or_eq_true, beq_iff_eq] at hmarkup
    rcases hmarkup with (rfl | rfl) | rfl
    · exact Or.inl ⟨(Option.some.inj h).symm, rfl⟩
    · cases h
    · cases h
  · rw [Bool.not_eq_true] at hmarkup
    rw [next?_of_not_isMarkup .text hmarkup] at h
    refine Or.inr ⟨(Option.some.inj h).symm, ?_⟩
    rintro rfl
    exact absurd hmarkup (by decide)

/-- A scanner that meets no tag in a text stays there, since no tag begins. -/
theorem scan_text_without_tags {s : List Char} {last : Place}
    (h : scan .text s = some (last, 0)) : last = .text ∧ '<' ∉ s := by
  induction s with
  | nil =>
    obtain ⟨rfl, -⟩ : Place.text = last ∧ 0 = 0 := by simpa [scan] using h
    exact ⟨rfl, List.not_mem_nil⟩
  | cons c rest ih =>
    obtain ⟨next, n, hstep, hrest, hn⟩ := scan_cons_eq_some h
    rcases Place.next?_text_eq_some hstep with ⟨rfl, -⟩ | ⟨rfl, hc⟩
    · simp at hn
    · obtain rfl : n = 0 := by simpa using hn.symm
      obtain ⟨hlast, hmem⟩ := ih hrest
      refine ⟨hlast, ?_⟩
      rintro (_ | ⟨_, hin⟩)
      · exact hc rfl
      · exact hmem hin

/-- A scanner that ends inside of a tag without having met a new one has not left it. -/
theorem gt_not_mem_of_scan {s : List Char} {first last : Place}
    (h : scan first s = some (last, 0)) (hlast : last ≠ .text) : '>' ∉ s := by
  induction s generalizing first with
  | nil => exact List.not_mem_nil
  | cons c rest ih =>
    obtain ⟨next, n, hstep, hrest, hn⟩ := scan_cons_eq_some h
    have hzero : n = 0 := by
      split at hn <;> omega
    subst hzero
    rintro (_ | ⟨_, hin⟩)
    · -- The bracket leads into a text, and there is no way out of it without a tag.
      have htext : next = .text := by
        cases first with
        | text => cases hstep
        | tag => exact (Option.some.inj hstep).symm
        | quoted => cases hstep
      rw [htext] at hrest
      exact hlast (scan_text_without_tags hrest).1
    · exact ih hrest hin

/-! ## Scanning and references -/

/-- The references in the markup of a table cell: an orange and a blue diamond, and a small one. -/
def cellReferences : List String := ["&#x1F536;", "&#x1F537;", "&#x1F539;"]

/-- A scanner comes through a text from one place to another and meets so many tags, and every
ampersand of the text begins a reference. -/
structure Reads (first : Place) (s : List Char) (last : Place) (tags : Nat) : Prop where
  scan_eq : scan first s = some (last, tags)
  referenced : Referenced (escapeReferences ++ cellReferences) s

instance (first : Place) (s : List Char) (last : Place) (tags : Nat) :
    Decidable (Reads first s last tags) :=
  decidable_of_iff
    (scan first s = some (last, tags) ∧ Referenced (escapeReferences ++ cellReferences) s)
    ⟨fun h => ⟨h.1, h.2⟩, fun h => ⟨h.scan_eq, h.referenced⟩⟩

/-- What is read in two parts is read as a whole. -/
theorem Reads.append {first next last : Place} {s t : List Char} {m n : Nat}
    (hs : Reads first s next m) (ht : Reads next t last n) : Reads first (s ++ t) last (m + n) :=
  ⟨scan_append hs.scan_eq ht.scan_eq, hs.referenced.append ht.referenced⟩

/-- No tag begins in a text that is read without a tag. -/
theorem Reads.lt_not_mem {s : List Char} {last : Place} (h : Reads .text s last 0) : '<' ∉ s :=
  (scan_text_without_tags h.scan_eq).2

/-- No tag ends in a text that is read inside of one. -/
theorem Reads.gt_not_mem {s : List Char} {first last : Place} (h : Reads first s last 0)
    (hlast : last ≠ .text) : '>' ∉ s :=
  gt_not_mem_of_scan h.scan_eq hlast

/-- Texts that leave a scanner in its place do so when they are joined by spaces. -/
theorem Reads.intercalate {place : Place} {l : List String}
    (h : ∀ s ∈ l, Reads place s.toList place 0) :
    Reads place (" ".intercalate l).toList place 0 := by
  rw [String.toList_intercalate]
  have hspace : Reads place " ".toList place 0 := by cases place <;> decide
  induction l with
  | nil => cases place <;> decide
  | cons s rest ih =>
    have hs := h s (by simp)
    cases rest with
    | nil => simpa using hs
    | cons t rest =>
      have hrest := ih fun u hu => h u (by simp [hu])
      rw [List.map_cons, List.map_cons, List.intercalate_cons_cons]
      exact (hs.append hspace).append hrest

/-- A text without brackets, quotes and ampersands is read without a tag, wherever it stands. -/
theorem reads_of_not_isMarkup (place : Place) {s : List Char}
    (h : ∀ c ∈ s, isMarkup c = false ∧ c ≠ '&') : Reads place s place 0 :=
  ⟨scan_of_not_isMarkup place fun c hc => (h c hc).1,
    referenced_of_not_mem fun hmem => (h '&' hmem).2 rfl⟩

/-- What is no delimiter does not move a scanner. -/
theorem not_isMarkup_of_not_mem_delimiters {c : Char} (h : c ∉ delimiters) :
    isMarkup c = false := by
  simp only [delimiters, List.mem_cons, List.not_mem_nil, or_false, not_or] at h
  obtain ⟨hlt, hgt, hquote, -⟩ := h
  simp only [isMarkup, Bool.or_eq_false_iff, beq_eq_false_iff_ne]
  exact ⟨⟨hlt, hgt⟩, hquote⟩

/-- An escaped text is read without a tag, wherever it stands. -/
theorem reads_escape (place : Place) (s : String) : Reads place (escape s).toList place 0 := by
  rw [toList_escape]
  refine ⟨scan_of_not_isMarkup place ?_,
    (referenced_escapeList _).mono (List.subset_append_left _ _)⟩
  intro c hc
  exact not_isMarkup_of_not_mem_delimiters (not_mem_delimiters_of_mem_escapeList hc)

/-- A number is read without a tag, wherever it stands. -/
theorem reads_decimal (place : Place) (n : Nat) :
    Reads place (Text.decimal n).toList place 0 := by
  refine ⟨scan_of_not_isMarkup place ?_, referenced_of_not_mem ?_⟩
  · intro c hc
    exact not_isMarkup_of_not_mem_delimiters (not_mem_delimiters_of_mem_decimal hc)
  · intro hamp
    rw [Text.decimal, String.toList_ofList] at hamp
    have hdigit := Nat.isDigit_of_mem_toDigits (by decide) (by decide) hamp
    revert hdigit
    decide

end SelectorPreview.Markup
