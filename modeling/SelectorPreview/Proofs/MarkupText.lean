import Mathlib.Data.List.Infix
import Mathlib.Tactic.FinCases
import SelectorPreview.Markup.Escape
import SelectorPreview.Text.Decimal
/-!
# Texts inside markup

A text that is written into markup must not hold a delimiter, and its ampersands must begin
character references. Both are told here of escaped texts; numbers need no escaping.

* `not_mem_delimiters_of_mem_escapeList` : an escaped text holds no delimiter;
* `referenced_escapeList` : its ampersands begin the references that escaping writes.
-/

namespace SelectorPreview.Markup

/-! ## Delimiters -/

/-- The characters that begin or end a tag or a quoted value. -/
def delimiters : List Char := ['<', '>', '"', '\'']

/-- An escaped text holds no delimiter. -/
theorem not_mem_delimiters_of_mem_escapeList {s : List Char} {c : Char} (h : c ∈ escapeList s) :
    c ∉ delimiters := by
  obtain ⟨d, -, hc⟩ := List.mem_flatMap.1 h
  unfold escapeChar at hc
  split at hc
  case h_6 _ hlt hgt hquote hapostrophe =>
    obtain rfl := List.mem_singleton.1 hc
    simp only [delimiters, List.mem_cons, List.not_mem_nil, or_false, not_or]
    exact ⟨hlt, hgt, hquote, hapostrophe⟩
  all_goals
    intro hdelimiter
    fin_cases hdelimiter <;> revert hc <;> decide

/-- A number holds no delimiter. -/
theorem not_mem_delimiters_of_mem_decimal {n : Nat} {c : Char} (h : c ∈ (Text.decimal n).toList) :
    c ∉ delimiters := by
  rw [Text.decimal, String.toList_ofList] at h
  have hdigit : c.isDigit = true := Nat.isDigit_of_mem_toDigits (by decide) (by decide) h
  intro hdelimiter
  fin_cases hdelimiter <;> revert hdigit <;> decide

/-! ## References -/

/-- The references that an escaped text holds. -/
def escapeReferences : List String := ["&amp;", "&lt;", "&gt;", "&quot;", "&#x27;"]

/-- Every ampersand of a text begins one of these references. -/
def Referenced (references : List String) (s : List Char) : Prop :=
  ∀ rest ∈ s.tails, rest.head? = some '&' → ∃ r ∈ references, r.toList <+: rest

instance (references : List String) (s : List Char) : Decidable (Referenced references s) :=
  inferInstanceAs (Decidable (∀ rest ∈ s.tails, rest.head? = some '&' →
    ∃ r ∈ references, r.toList <+: rest))

variable {references : List String}

/-- A text without ampersands has no references to begin. -/
theorem referenced_of_not_mem {s : List Char} (h : '&' ∉ s) : Referenced references s := by
  intro rest hrest hhead
  have hmem : '&' ∈ rest := List.mem_of_mem_head? hhead
  exact absurd (((List.mem_tails _ _).1 hrest).subset hmem) h

/-- More references may be begun when more are allowed. -/
theorem Referenced.mono {more : List String} {s : List Char} (h : Referenced references s)
    (hmore : references ⊆ more) : Referenced more s := by
  intro rest hrest hhead
  obtain ⟨r, hr, hbegin⟩ := h rest hrest hhead
  exact ⟨r, hmore hr, hbegin⟩

/-- The ampersands of two texts after one another are those of both. -/
theorem Referenced.append {s t : List Char} (hs : Referenced references s)
    (ht : Referenced references t) : Referenced references (s ++ t) := by
  induction s with
  | nil => exact ht
  | cons c s ih =>
    have htail : Referenced references s := by
      intro rest hrest hhead
      exact hs rest (by simp [hrest]) hhead
    intro rest hrest hhead
    rw [List.cons_append, List.tails_cons, List.mem_cons] at hrest
    rcases hrest with rfl | hrest
    · obtain ⟨r, hr, hbegin⟩ := hs (c :: s) (by simp) hhead
      exact ⟨r, hr, hbegin.trans ⟨t, by simp⟩⟩
    · exact ih htail rest hrest hhead

/-- Every ampersand of an escaped text begins a reference. -/
theorem referenced_escapeList (s : List Char) : Referenced escapeReferences (escapeList s) := by
  induction s with
  | nil => decide
  | cons c s ih =>
    have hchar : Referenced escapeReferences (escapeChar c) := by
      unfold escapeChar
      split
      case h_6 hamp _ _ _ _ =>
        exact referenced_of_not_mem fun hmem => hamp (List.mem_singleton.1 hmem).symm
      all_goals decide
    have hsplit : escapeList (c :: s) = escapeChar c ++ escapeList s := by simp [escapeList]
    rw [hsplit]
    exact hchar.append ih

end SelectorPreview.Markup
