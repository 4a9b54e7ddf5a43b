import Mathlib.Data.List.TakeWhile
import Mathlib.Tactic.ByContra
import SelectorPreview.Chain
/-!
# Flattened selectors and their words

What trimming, flattening and cutting into words keep of a text. A selector without blanks,
combinators and cuts is left as it is by all three, so that it is the only segment of its chain; and
it stands in the flattened text of every selector with that chain, however this one is spelled.

* `exists_trim_eq` : a text is its trimmed form between blanks;
* `infix_iff_exists_word` : a text without blanks stands in another one if it stands in a word of it;
* `words_flattenList_trim` : trimming does not change the words of the flattened text;
* `words_of_ofSelector?` : the segments of a chain are the words it was made of;
* `plain_infix_flatten_iff` : plain selectors are found in the segments of a chain;
* `plain_infix_flatten` : plain selectors stand in all texts with the same chain.
-/

namespace SelectorPreview

namespace Text

/-! ## Trimming -/

/-- Behind its leading blanks a text is its trimmed form with blanks after it. -/
theorem exists_dropWhile_eq (s : List Char) :
    ∃ after, s.dropWhile isBlank = trim s ++ after ∧ ∀ c ∈ after, isBlank c = true := by
  refine ⟨((s.dropWhile isBlank).reverse.takeWhile isBlank).reverse, ?_, ?_⟩
  · rw [trim, ← List.reverse_append, List.takeWhile_append_dropWhile, List.reverse_reverse]
  · intro c hc
    exact List.mem_takeWhile_imp (List.mem_reverse.1 hc)

/-- A text is its trimmed form with blanks before and after it. -/
theorem exists_trim_eq (s : List Char) :
    ∃ before after, s = before ++ trim s ++ after ∧
      (∀ c ∈ before, isBlank c = true) ∧ ∀ c ∈ after, isBlank c = true := by
  obtain ⟨after, hback, hafter⟩ := exists_dropWhile_eq s
  refine ⟨s.takeWhile isBlank, after, ?_, fun c hc => List.mem_takeWhile_imp hc, hafter⟩
  rw [List.append_assoc, ← hback, List.takeWhile_append_dropWhile]

/-- A text without blanks is its own trimmed form. -/
theorem trim_eq_self {s : List Char} (h : ∀ c ∈ s, isBlank c = false) : trim s = s := by
  have hdrop : ∀ t : List Char, (∀ c ∈ t, isBlank c = false) → t.dropWhile isBlank = t := by
    intro t ht
    cases t with
    | nil => rfl
    | cons c rest => simp [ht c (by simp)]
  rw [trim, hdrop s h, hdrop s.reverse (by simpa using h), List.reverse_reverse]

/-! ## Words -/

/-- The empty text has no words. -/
@[simp] theorem words_nil : words [] = [] := by
  simp [words, List.splitOnP_nil]

/-- A text without blanks is one word. -/
theorem words_eq_singleton {s : List Char} (hne : s ≠ []) (h : ∀ c ∈ s, isBlank c = false) :
    words s = [s] := by
  rw [words, List.splitOnP_eq_singleton fun c hc => by simpa using h c hc]
  simp [hne]

/-- A word is not empty. -/
theorem ne_nil_of_mem_words {s word : List Char} (h : word ∈ words s) : word ≠ [] := by
  simpa using (List.mem_filter.1 h).2

/-- A word stands in its text. -/
theorem infix_of_mem_words {s word : List Char} (h : word ∈ words s) : word <:+: s := by
  by_cases hblank : ∃ c ∈ s, isBlank c = true
  · -- The text is cut at one of its blanks; both sides are shorter.
    obtain ⟨c, hc, hcb⟩ := hblank
    obtain ⟨before, after, rfl⟩ := List.append_of_mem hc
    rw [words_append_blank _ _ hcb, List.mem_append] at h
    rcases h with h | h
    · exact (infix_of_mem_words h).trans ⟨[], c :: after, by simp⟩
    · exact (infix_of_mem_words h).trans ⟨before ++ [c], [], by simp⟩
  · have hnone : ∀ c ∈ s, isBlank c = false := by simpa using hblank
    by_cases hs : s = []
    · simp [hs] at h
    · obtain rfl : word = s := by simpa [words_eq_singleton hs hnone] using h
      exact List.infix_rfl
termination_by s.length

/-- A text without blanks that a text with a blank in front begins with is empty. -/
theorem eq_nil_of_prefix_blank {piece t : List Char} {c : Char} (hc : isBlank c = true)
    (hpiece : ∀ d ∈ piece, isBlank d = false) (h : piece <+: c :: t) : piece = [] := by
  cases piece with
  | nil => rfl
  | cons d rest =>
    obtain ⟨rfl, -⟩ := List.cons_prefix_cons.1 h
    exact absurd (hc.symm.trans (hpiece d (by simp))) (by decide)

/-- A text without blanks stands on one side of a blank. -/
theorem infix_append_blank_iff {piece : List Char} (s t : List Char) {c : Char}
    (hc : isBlank c = true) (hpiece : ∀ d ∈ piece, isBlank d = false) :
    piece <:+: s ++ c :: t ↔ piece <:+: s ∨ piece <:+: t := by
  constructor
  · intro h
    rcases List.infix_append_iff.1 h with hs | ht | ⟨left, right, rfl, hleft, hright⟩
    · exact Or.inl hs
    · rcases List.infix_cons_iff.1 ht with hprefix | ht
      · rw [eq_nil_of_prefix_blank hc hpiece hprefix]
        exact Or.inl List.nil_infix
      · exact Or.inr ht
    · -- Across the blank only the part before it can have letters.
      have hnil : right = [] :=
        eq_nil_of_prefix_blank hc (fun d hd => hpiece d (List.mem_append_right _ hd)) hright
      rw [hnil, List.append_nil]
      exact Or.inl hleft.isInfix
  · rintro (h | h)
    · exact h.trans ⟨[], c :: t, by simp⟩
    · exact h.trans ⟨s ++ [c], [], by simp⟩

/-- A text without blanks that stands in another text stands in one of its words. -/
theorem exists_word_of_infix {piece s : List Char} (hne : piece ≠ [])
    (hpiece : ∀ c ∈ piece, isBlank c = false) (h : piece <:+: s) :
    ∃ word ∈ words s, piece <:+: word := by
  by_cases hblank : ∃ c ∈ s, isBlank c = true
  · obtain ⟨c, hc, hcb⟩ := hblank
    obtain ⟨before, after, rfl⟩ := List.append_of_mem hc
    rw [words_append_blank _ _ hcb]
    rcases (infix_append_blank_iff _ _ hcb hpiece).1 h with h | h
    · obtain ⟨word, hword, hin⟩ := exists_word_of_infix hne hpiece h
      exact ⟨word, List.mem_append_left _ hword, hin⟩
    · obtain ⟨word, hword, hin⟩ := exists_word_of_infix hne hpiece h
      exact ⟨word, List.mem_append_right _ hword, hin⟩
  · have hnone : ∀ c ∈ s, isBlank c = false := by simpa using hblank
    have hs : s ≠ [] := by
      rintro rfl
      exact hne (List.eq_nil_of_infix_nil h)
    exact ⟨s, by simp [words_eq_singleton hs hnone], h⟩
termination_by s.length

/-- In a text that has words, a text without blanks is to be looked for in the words only. -/
theorem infix_iff_exists_word {piece s : List Char} (hpiece : ∀ c ∈ piece, isBlank c = false)
    (hwords : words s ≠ []) : piece <:+: s ↔ ∃ word ∈ words s, piece <:+: word := by
  constructor
  · intro h
    by_cases hne : piece = []
    · obtain ⟨word, rest, hcons⟩ := List.exists_cons_of_ne_nil hwords
      rw [hne, hcons]
      exact ⟨word, List.mem_cons_self, List.nil_infix⟩
    · exact exists_word_of_infix hne hpiece h
  · rintro ⟨word, hword, hin⟩
    exact hin.trans (infix_of_mem_words hword)

/-- Blanks in front of a text add no words. -/
theorem words_blanks_append {blanks : List Char} (h : ∀ c ∈ blanks, isBlank c = true)
    (s : List Char) : words (blanks ++ s) = words s := by
  induction blanks with
  | nil => rfl
  | cons c rest ih =>
    have hrest := ih fun d hd => h d (by simp [hd])
    have hcut := words_append_blank [] (rest ++ s) (h c (by simp))
    rwa [words_nil, List.nil_append, List.nil_append, hrest] at hcut

/-- Blanks after a text add no words. -/
theorem words_append_blanks {blanks : List Char} (h : ∀ c ∈ blanks, isBlank c = true)
    (s : List Char) : words (s ++ blanks) = words s := by
  cases blanks with
  | nil => rw [List.append_nil]
  | cons c rest =>
    have hafter : ∀ d ∈ rest, isBlank d = true := fun d hd => h d (by simp [hd])
    have hrest := words_blanks_append hafter []
    rw [List.append_nil, words_nil] at hrest
    rw [words_append_blank _ _ (h c (by simp)), hrest, List.append_nil]

/-- Words that are joined by single spaces are the words of the joined text. -/
theorem words_intercalate {ws : List (List Char)}
    (h : ∀ w ∈ ws, w ≠ [] ∧ ∀ c ∈ w, isBlank c = false) : words ([' '].intercalate ws) = ws := by
  induction ws with
  | nil => simp
  | cons w rest ih =>
    obtain ⟨hne, hblank⟩ := h w (by simp)
    cases rest with
    | nil => simpa using words_eq_singleton hne hblank
    | cons v rest =>
      have hrest : words ([' '].intercalate (v :: rest)) = v :: rest :=
        ih fun u hu => h u (by simp [hu])
      rw [List.intercalate_cons_cons, List.append_assoc, List.singleton_append,
        words_append_blank _ _ (by decide), hrest, words_eq_singleton hne hblank]
      rfl

end Text

namespace Chain

open Text

/-! ## Flattening -/

/-- A character of a flattened selector: a space for a combinator. -/
def flatChar (c : Char) : Char := if isCombinator c then ' ' else c

/-- Combinators are no cuts, so flattening a character neither makes nor removes a cut. -/
theorem isCut_flatChar (c : Char) : isCut (flatChar c) = isCut c := by
  unfold flatChar
  split
  · rename_i h
    have hcut : isCut c = false := by
      simp only [isCombinator, Bool.or_eq_true, beq_iff_eq] at h
      rcases h with ((rfl | rfl) | rfl) | rfl <;> decide
    rw [hcut]
    decide
  · rfl

/-- A text without cuts is flattened character by character, whatever follows it. -/
theorem flattenList_append_of_uncut {s : List Char} (t : List Char)
    (h : ∀ c ∈ s, isCut c = false) : flattenList (s ++ t) = s.map flatChar ++ flattenList t := by
  have hall : ∀ c ∈ s.map flatChar, (! isCut c) = true := by
    intro c hc
    obtain ⟨d, hd, rfl⟩ := List.mem_map.1 hc
    simp [isCut_flatChar, h d hd]
  show ((s ++ t).map flatChar).takeWhile (! isCut ·) = _
  rw [List.map_append, List.takeWhile_append_of_pos hall]
  rfl

/-- A blank is no cut. -/
theorem isCut_of_isBlank {c : Char} (h : isBlank c = true) : isCut c = false := by
  by_contra hcut
  have hc : c = ':' ∨ c = '[' := by
    simpa only [isCut, Bool.not_eq_false, Bool.or_eq_true, beq_iff_eq] using hcut
  rcases hc with rfl | rfl <;> revert h <;> decide

/-- A blank stays a blank when it is flattened. -/
theorem isBlank_flatChar {c : Char} (h : isBlank c = true) : isBlank (flatChar c) = true := by
  unfold flatChar
  split
  · decide
  · exact h

/-- Blanks after a text are flattened to blanks, or fall behind its first cut. -/
theorem flattenList_append_blanks {blanks : List Char} (h : ∀ c ∈ blanks, isBlank c = true)
    (s : List Char) :
    ∃ rest, flattenList (s ++ blanks) = flattenList s ++ rest ∧ ∀ c ∈ rest, isBlank c = true := by
  show ∃ rest, ((s ++ blanks).map flatChar).takeWhile _ = (s.map flatChar).takeWhile _ ++ rest ∧ _
  rw [List.map_append, List.takeWhile_append]
  split
  · rename_i hall
    have hbegins : (s.map flatChar).takeWhile (! isCut ·) <+: s.map flatChar :=
      List.takeWhile_prefix _
    refine ⟨_, by rw [List.IsPrefix.eq_of_length hbegins hall], ?_⟩
    intro c hc
    obtain ⟨d, hd, rfl⟩ := List.mem_map.1 (List.takeWhile_subset _ hc)
    exact isBlank_flatChar (h d hd)
  · exact ⟨[], (List.append_nil _).symm, by simp⟩

/-- A flattened text is its flattened trimmed form between blanks. -/
theorem exists_flattenList_eq (s : List Char) :
    ∃ before after, flattenList s = before ++ (flattenList (trim s) ++ after) ∧
      (∀ c ∈ before, isBlank c = true) ∧ ∀ c ∈ after, isBlank c = true := by
  obtain ⟨before, after, hs, hbefore, hafter⟩ := exists_trim_eq s
  obtain ⟨rest, hrest, hblank⟩ := flattenList_append_blanks hafter (trim s)
  refine ⟨before.map flatChar, rest, ?_, ?_, hblank⟩
  · rw [← hrest, ← flattenList_append_of_uncut _ fun c hc => isCut_of_isBlank (hbefore c hc),
      ← List.append_assoc, ← hs]
  · intro c hc
    obtain ⟨d, hd, rfl⟩ := List.mem_map.1 hc
    exact isBlank_flatChar (hbefore d hd)

/-- Trimming does not change the words of the flattened text. -/
theorem words_flattenList_trim (s : List Char) :
    words (flattenList (trim s)) = words (flattenList s) := by
  obtain ⟨before, after, hflat, hbefore, hafter⟩ := exists_flattenList_eq s
  rw [hflat, words_blanks_append hbefore, words_append_blanks hafter]

/-- A text without combinators and cuts is its own flattened form. -/
theorem flattenList_eq_self {s : List Char}
    (h : ∀ c ∈ s, isCombinator c = false ∧ isCut c = false) : flattenList s = s := by
  have hmap : s.map flatChar = s := by
    calc s.map flatChar = s.map id := by
          apply List.map_congr_left
          intro c hc
          simp [flatChar, (h c hc).1]
      _ = s := List.map_id s
  have hflat := flattenList_append_of_uncut [] fun c hc => (h c hc).2
  rw [List.append_nil, hmap] at hflat
  simpa [flattenList] using hflat

/-! ## Chains -/

/-- A selector has a chain if it does not begin with a tag of the document and is flattened to a text
with words; these are joined by single spaces. -/
theorem ofSelector?_eq_some_iff {selector chain : String} :
    ofSelector? selector = some chain ↔
      startsAtRoot (trim selector.toList) = false ∧
        words (flattenList (trim selector.toList)) ≠ [] ∧
        chain.toList = [' '].intercalate (words (flattenList (trim selector.toList))) := by
  unfold ofSelector?
  dsimp only
  split
  · rename_i hroot
    simp [hroot]
  · rename_i hroot
    split
    · rename_i hwords
      simp [hwords]
    · rename_i first rest hwords
      have hback : (" ".intercalate ((first :: rest).map String.ofList)).toList =
          [' '].intercalate (first :: rest) := by
        rw [String.toList_intercalate, List.map_map]
        simp [Function.comp_def]
      rw [hwords, ← hback, Option.some.injEq, String.toList_inj]
      simp [hroot, eq_comm]

/-- The segments of a chain are the words of the flattened selector that it was made of. -/
theorem words_of_ofSelector? {selector chain : String} (h : ofSelector? selector = some chain) :
    words chain.toList = words (flattenList (trim selector.toList)) ∧
      words (flattenList (trim selector.toList)) ≠ [] := by
  obtain ⟨-, hne, hchain⟩ := ofSelector?_eq_some_iff.1 h
  refine ⟨?_, hne⟩
  rw [hchain]
  apply words_intercalate
  intro w hw
  exact ⟨ne_nil_of_mem_words hw, fun c hc => isBlank_of_mem_words hw hc⟩

/-- A selector that is a single compound: no blank, no combinator and no cut stands in it. -/
def IsPlain (selector : String) : Prop :=
  ∀ c ∈ selector.toList, isBlank c = false ∧ isCombinator c = false ∧ isCut c = false

instance (selector : String) : Decidable (IsPlain selector) :=
  List.decidableBAll _ _

/-- A plain selector is the only segment of its chain. -/
theorem segments_of_isPlain {selector chain : String} (hplain : IsPlain selector)
    (h : ofSelector? selector = some chain) : segments chain = [selector] := by
  have hflat : flattenList (trim selector.toList) = selector.toList := by
    rw [trim_eq_self fun c hc => (hplain c hc).1]
    exact flattenList_eq_self fun c hc => (hplain c hc).2
  obtain ⟨hwords, hne⟩ := words_of_ofSelector? h
  rw [hflat] at hwords hne
  have hone : words selector.toList = [selector.toList] := by
    apply words_eq_singleton
    · intro hnil
      exact hne (by rw [hnil, words_nil])
    · exact fun c hc => (hplain c hc).1
  rw [segments, wordStrings, hwords, hone, List.map_singleton, String.ofList_toList]

/-- A plain selector stands in the flattened text of a selector exactly if it stands in a segment
of its chain. -/
theorem plain_infix_flatten_iff {selector other chain : String} (hplain : IsPlain selector)
    (hother : ofSelector? other = some chain) :
    selector.toList <:+: (flatten other).toList ↔
      ∃ segment ∈ segments chain, selector.toList <:+: segment.toList := by
  obtain ⟨hwords, hne⟩ := words_of_ofSelector? hother
  rw [words_flattenList_trim] at hwords hne
  rw [flatten, String.toList_ofList, infix_iff_exists_word (fun c hc => (hplain c hc).1) hne,
    segments, wordStrings, hwords]
  simp only [List.mem_map, exists_exists_and_eq_and, String.toList_ofList]

/-- A plain selector stands in the flattened text of every selector with the same chain. -/
theorem plain_infix_flatten {selector other chain : String} (hplain : IsPlain selector)
    (h : ofSelector? selector = some chain) (hother : ofSelector? other = some chain) :
    selector.toList <:+: (flatten other).toList := by
  rw [plain_infix_flatten_iff hplain hother, segments_of_isPlain hplain h]
  exact ⟨selector, by simp, List.infix_rfl⟩

end Chain

end SelectorPreview
