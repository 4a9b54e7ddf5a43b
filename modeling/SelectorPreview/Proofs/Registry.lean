import SelectorPreview.Frame
/-!
# What a registry holds

The registry of a sheet is filled by registering selectors one after another. Its members are the
selectors of the rules that are out of flow, wherever these stand, and a text matches it when one of
them stands in the text as a contiguous piece.

* `mem_ofSheet_iff` : the members of the registry of a sheet;
* `matchesText_iff` : when a text matches.
-/

namespace SelectorPreview.Frame.Registry

open Text

/-! ## Members -/

/-- Registering a selector adds it and nothing else. -/
theorem mem_register_iff {registry : Registry} {selector other : String} :
    other ∈ (registry.register selector).selectors ↔
      other ∈ registry.selectors ∨ other = selector := by
  unfold register
  split
  · rename_i h
    have hthere : selector ∈ registry.selectors := by simpa using h
    constructor
    · exact Or.inl
    · rintro (hother | rfl)
      · exact hother
      · exact hthere
  · simp

/-- Registering selectors adds these and nothing else. -/
theorem mem_registerAll_iff {registry : Registry} {selectors : List String} {other : String} :
    other ∈ (registry.registerAll selectors).selectors ↔
      other ∈ registry.selectors ∨ other ∈ selectors := by
  induction selectors generalizing registry with
  | nil => simp [registerAll]
  | cons selector rest ih =>
    show other ∈ ((registry.register selector).registerAll rest).selectors ↔ _
    rw [ih, mem_register_iff, List.mem_cons, or_assoc]

/-- The registry of a sheet holds the selectors of the rules that are out of flow. -/
theorem mem_ofSheet_iff {sheet : Sheet} {selector : String} :
    selector ∈ (ofSheet sheet).selectors ↔
      ∃ rule ∈ sheet.rules, rule.outOfFlow = true ∧ selector ∈ rule.selectors := by
  rw [ofSheet, mem_registerAll_iff]
  simp only [List.not_mem_nil, false_or, List.mem_flatMap, List.mem_filter, and_assoc]

/-! ## Matching -/

/-- A text matches a registry if a member of it stands somewhere in the text. -/
theorem matchesText_iff {registry : Registry} {text : String} :
    registry.matchesText text = true ↔
      ∃ selector ∈ registry.selectors, selector.toList <:+: text.toList := by
  simp only [matchesText, List.any_eq_true, containsText_iff]

end SelectorPreview.Frame.Registry
