/-!
# Containment of one text in another

`containsText whole part` tests whether `part` stands somewhere in `whole` as a contiguous piece.

Main statements:

* `containsText_iff` : the test agrees with the relation `part <:+: whole`;
* `mem_intercalate` : which characters joined texts contain.
-/

namespace SelectorPreview.Text

/-- Whether `part` begins at some place of the text. -/
def containsList (part : List Char) : List Char → Bool
  | [] => part.isEmpty
  | c :: rest => part.isPrefixOf (c :: rest) || containsList part rest

/-- Whether `part` stands in `whole` as a contiguous piece. -/
def containsText (whole part : String) : Bool := containsList part.toList whole.toList

/-- The test on lists decides containment. -/
theorem containsList_iff {part whole : List Char} :
    containsList part whole = true ↔ part <:+: whole := by
  induction whole with
  | nil => simp [containsList]
  | cons c rest ih =>
    simp only [containsList, Bool.or_eq_true, List.isPrefixOf_iff_prefix, ih, List.infix_cons_iff]

/-- The test on strings decides containment of their characters. -/
theorem containsText_iff {whole part : String} :
    containsText whole part = true ↔ part.toList <:+: whole.toList :=
  containsList_iff

/-- A character of joined texts stands in what joins them or in one of them. -/
theorem mem_intercalate {separator : List Char} {texts : List (List Char)} {c : Char}
    (h : c ∈ separator.intercalate texts) : c ∈ separator ∨ ∃ text ∈ texts, c ∈ text := by
  induction texts with
  | nil => simp at h
  | cons text rest ih =>
    cases rest with
    | nil => exact Or.inr ⟨text, by simp, by simpa using h⟩
    | cons next rest =>
      rw [List.intercalate_cons_cons, List.append_assoc, List.mem_append, List.mem_append] at h
      rcases h with htext | hseparator | hrest
      · exact Or.inr ⟨text, by simp, htext⟩
      · exact Or.inl hseparator
      · rcases ih hrest with hseparator | ⟨other, hother, hc⟩
        · exact Or.inl hseparator
        · exact Or.inr ⟨other, List.mem_cons_of_mem text hother, hc⟩

end SelectorPreview.Text
