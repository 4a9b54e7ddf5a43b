/-!
# Blank characters and words

The blank characters are those with the Unicode property White_Space. `trim` drops them at both
ends of a text and `words` gives the maximal runs of the other characters, left to right.

Main statements:

* `isBlank_of_mem_words` : no character of a word is blank;
* `words_append_blank` : a blank between two texts separates their words.
-/

namespace SelectorPreview.Text

/-! ## Blank characters -/

/-- The 25 characters with the Unicode property White_Space. -/
def isBlank (c : Char) : Bool :=
  let n := c.toNat
  (0x09 ≤ n && n ≤ 0x0D) || n == 0x20 || n == 0x85 || n == 0xA0 || n == 0x1680 ||
    (0x2000 ≤ n && n ≤ 0x200A) || n == 0x2028 || n == 0x2029 || n == 0x202F || n == 0x205F ||
    n == 0x3000

/-- The text without the blanks at its two ends. -/
def trim (s : List Char) : List Char :=
  ((s.dropWhile isBlank).reverse.dropWhile isBlank).reverse

/-! ## Words -/

/-- The maximal runs of characters that are not blank. -/
def words (s : List Char) : List (List Char) :=
  (s.splitOnP isBlank).filter (! ·.isEmpty)

/-- The words of a string, as strings. -/
def wordStrings (s : String) : List String := (words s.toList).map String.ofList

/-- No piece of a split text holds a separator. -/
theorem not_of_mem_pieces {p : Char → Bool} {s piece : List Char} {c : Char}
    (hp : piece ∈ s.splitOnP p) (hc : c ∈ piece) : p c = false := by
  induction s generalizing piece with
  | nil => simp_all [List.splitOnP_nil]
  | cons d rest ih =>
    obtain ⟨first, pieces, hsplit⟩ := List.exists_cons_of_ne_nil (List.splitOnP_ne_nil p rest)
    rw [List.splitOnP_cons_eq_if_modifyHead] at hp
    by_cases h : p d
    · simp only [h, if_true, List.mem_cons] at hp
      rcases hp with rfl | hp
      · simp at hc
      · exact ih hp hc
    · simp only [h, hsplit, Bool.false_eq_true, if_false, List.modifyHead_cons,
        List.mem_cons] at hp
      rcases hp with rfl | hp
      · rcases List.mem_cons.1 hc with rfl | hc
        · simpa using h
        · exact ih (by simp [hsplit]) hc
      · exact ih (by simp [hsplit, hp]) hc

/-- No character of a word is blank. -/
theorem isBlank_of_mem_words {s word : List Char} {c : Char}
    (hw : word ∈ words s) (hc : c ∈ word) : isBlank c = false :=
  not_of_mem_pieces (List.mem_filter.1 hw).1 hc

/-- A blank between two texts separates their words. -/
theorem words_append_blank (s t : List Char) {c : Char} (h : isBlank c = true) :
    words (s ++ c :: t) = words s ++ words t := by
  simp [words, List.splitOnP_append_cons s t h]

end SelectorPreview.Text
