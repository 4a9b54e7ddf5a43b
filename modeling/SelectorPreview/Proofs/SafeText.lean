import Mathlib.Data.List.Basic
import SelectorPreview.Proofs.MarkupText
/-!
# Safe texts

A text is safe if it can stand anywhere in markup: it holds no delimiter, and each of its ampersands
begins one of the five references. Every safe text is the escaped form of exactly one text, so that
escaping and decoding go back and forth between all texts and the safe ones.

* `exists_eq_escapeList` : safe texts are made of escaped characters;
* `escapeList_eq_replaceEach` : the references may also be put in one after another;
* `escape_onto_safe` : escaping and decoding are inverse to each other.
-/

namespace SelectorPreview.Markup

/-! ## Safe texts are escaped texts -/

/-- No delimiter stands in a text, and each of its ampersands begins a reference. -/
structure IsSafe (s : List Char) : Prop where
  delimiterFree : ∀ c ∈ s, c ∉ delimiters
  referenced : Referenced escapeReferences s

/-- An escaped text is safe. -/
theorem isSafe_escapeList (s : List Char) : IsSafe (escapeList s) :=
  ⟨fun _ hc => not_mem_delimiters_of_mem_escapeList hc, referenced_escapeList s⟩

/-- The rest of a safe text is safe. -/
theorem IsSafe.of_append {s t : List Char} (h : IsSafe (s ++ t)) : IsSafe t := by
  refine ⟨fun c hc => h.delimiterFree c (List.mem_append_right s hc), ?_⟩
  intro rest hrest hhead
  have hsuffix : rest <:+ s ++ t := ((List.mem_tails _ _).1 hrest).trans (List.suffix_append s t)
  exact h.referenced rest ((List.mem_tails _ _).2 hsuffix) hhead

/-- An escaped character is not empty. -/
theorem escapeChar_ne_nil (c : Char) : escapeChar c ≠ [] := by
  unfold escapeChar
  split <;> exact List.cons_ne_nil _ _

/-- A character that is no delimiter and no ampersand stands for itself. -/
theorem escapeChar_eq_self {c : Char} (hamp : c ≠ '&') (h : c ∉ delimiters) :
    escapeChar c = [c] := by
  simp only [delimiters, List.mem_cons, List.not_mem_nil, or_false, not_or] at h
  obtain ⟨hlt, hgt, hquote, hapostrophe⟩ := h
  unfold escapeChar
  split
  case h_6 => rfl
  all_goals contradiction

/-- The characters that are escaped, each with its reference; the ampersand comes first. -/
def replacements : List (Char × String) :=
  [('&', "&amp;"), ('<', "&lt;"), ('>', "&gt;"), ('"', "&quot;"), ('\'', "&#x27;")]

/-- The references are those of the characters that are escaped. -/
theorem escapeChar_of_mem_replacements :
    ∀ replacement ∈ replacements, escapeChar replacement.1 = replacement.2.toList := by
  decide

/-- Each reference is the escaped form of a character. -/
theorem exists_escapeChar_of_mem {r : String} (h : r ∈ escapeReferences) :
    ∃ c, escapeChar c = r.toList := by
  have hreferences : escapeReferences = replacements.map Prod.snd := rfl
  rw [hreferences, List.mem_map] at h
  obtain ⟨replacement, hmem, rfl⟩ := h
  exact ⟨replacement.1, escapeChar_of_mem_replacements replacement hmem⟩

/-- A safe text that is not empty begins with an escaped character. -/
theorem IsSafe.exists_escapeChar_append {c : Char} {s : List Char} (h : IsSafe (c :: s)) :
    ∃ d rest, c :: s = escapeChar d ++ rest := by
  by_cases hamp : c = '&'
  · obtain ⟨r, hr, rest, hrest⟩ := h.referenced (c :: s) (by simp) (by rw [hamp]; rfl)
    obtain ⟨d, hd⟩ := exists_escapeChar_of_mem hr
    exact ⟨d, rest, by rw [hd, hrest]⟩
  · have hself : escapeChar c = [c] := escapeChar_eq_self hamp (h.delimiterFree c (by simp))
    exact ⟨c, s, by rw [hself]; rfl⟩

/-- **A safe text is the escaped form of a text.** -/
theorem exists_eq_escapeList {s : List Char} (h : IsSafe s) : ∃ t, escapeList t = s := by
  cases s with
  | nil => exact ⟨[], rfl⟩
  | cons c s =>
    obtain ⟨d, rest, hsplit⟩ := h.exists_escapeChar_append
    -- The escaped character is not empty, so what is left is shorter.
    have hshorter : rest.length < (c :: s).length := by
      have hpos := List.length_pos_iff.2 (escapeChar_ne_nil d)
      rw [hsplit, List.length_append]
      omega
    rw [hsplit] at h
    obtain ⟨t, rfl⟩ := exists_eq_escapeList h.of_append
    exact ⟨d :: t, by rw [hsplit, escapeList, List.flatMap_cons]; rfl⟩
termination_by s.length

/-- The safe texts are those that escaping gives back from what they decode to. -/
theorem isSafe_iff_escapeList_decode {s : List Char} :
    IsSafe s ↔ escapeList (decode s) = s := by
  constructor
  · intro h
    obtain ⟨t, rfl⟩ := exists_eq_escapeList h
    rw [decode_escapeList]
  · intro h
    rw [← h]
    exact isSafe_escapeList _

/-! ## One reference after another -/

/-- Puts a reference for every occurrence of a character. -/
def replaceChar (s : List Char) (replacement : Char × String) : List Char :=
  s.flatMap fun c => if c = replacement.1 then replacement.2.toList else [c]

/-- Makes replacements one after another, each in the whole text. -/
def replaceEach (replacements : List (Char × String)) (s : List Char) : List Char :=
  replacements.foldl replaceChar s

/-- Replacements one after another can be made in each character by itself. -/
theorem replaceEach_flatMap (replacements : List (Char × String)) (f : Char → List Char)
    (s : List Char) :
    replaceEach replacements (s.flatMap f) = s.flatMap fun c => replaceEach replacements (f c) := by
  induction replacements generalizing f with
  | nil => rfl
  | cons replacement rest ih =>
    have hstep : replaceChar (s.flatMap f) replacement =
        s.flatMap fun c => replaceChar (f c) replacement := List.flatMap_assoc
    show replaceEach rest (replaceChar (s.flatMap f) replacement) = _
    rw [hstep, ih]
    rfl

/-- Replacements leave a character as it is that none of them is for. -/
theorem replaceEach_singleton_of_not_mem {replacements : List (Char × String)} {c : Char}
    (h : c ∉ replacements.map Prod.fst) : replaceEach replacements [c] = [c] := by
  induction replacements with
  | nil => rfl
  | cons replacement rest ih =>
    rw [List.map_cons, List.mem_cons, not_or] at h
    obtain ⟨hne, hrest⟩ := h
    have hstep : replaceChar [c] replacement = [c] := by
      rw [replaceChar, List.flatMap_singleton, if_neg hne]
    rw [replaceEach, List.foldl_cons, hstep]
    exact ih hrest

/-- Each character that is escaped gets its reference, and this is not changed any more. -/
theorem replaceEach_of_mem_replacements :
    ∀ replacement ∈ replacements,
      replaceEach replacements [replacement.1] = replacement.2.toList := by
  decide

/-- In a single character the replacements make its escaped form. -/
theorem replaceEach_singleton (c : Char) : replaceEach replacements [c] = escapeChar c := by
  by_cases hmem : c ∈ replacements.map Prod.fst
  · obtain ⟨replacement, hreplacement, rfl⟩ := List.mem_map.1 hmem
    rw [replaceEach_of_mem_replacements replacement hreplacement,
      escapeChar_of_mem_replacements replacement hreplacement]
  · have hchars : replacements.map Prod.fst = '&' :: delimiters := rfl
    have hself : escapeChar c = [c] := by
      rw [hchars, List.mem_cons, not_or] at hmem
      exact escapeChar_eq_self hmem.1 hmem.2
    rw [hself, replaceEach_singleton_of_not_mem hmem]

/-- **Escaping is to replace the ampersands first and then the delimiters one after another.** -/
theorem escapeList_eq_replaceEach (s : List Char) :
    escapeList s = replaceEach replacements s := by
  calc escapeList s = s.flatMap fun c => replaceEach replacements [c] := by
        simp only [replaceEach_singleton]
        rfl
    _ = replaceEach replacements (s.flatMap fun c => [c]) := (replaceEach_flatMap _ _ _).symm
    _ = replaceEach replacements s := by rw [List.flatMap_singleton']

/-! ## Escaping and decoding -/

/-- Reads the references of a text back, each once. -/
def unescape (s : String) : String := String.ofList (decode s.toList)

/-- **Escaping goes onto the safe texts, and decoding takes it back.** Every escaped text is safe and
decoded to what was escaped; the safe texts are exactly those that are escaped again from what they
decode to; and escaping is the same as putting in the references one after another. -/
theorem escape_onto_safe (x y : String) :
    IsSafe (escape x).toList ∧ unescape (escape x) = x ∧
      (IsSafe y.toList ↔ escape (unescape y) = y) ∧
      (escape x).toList = replaceEach replacements x.toList := by
  refine ⟨?_, ?_, ?_, ?_⟩
  · rw [toList_escape]
    exact isSafe_escapeList _
  · rw [unescape, toList_escape, decode_escapeList, String.ofList_toList]
  · rw [isSafe_iff_escapeList_decode, ← String.toList_inj, toList_escape, unescape,
      String.toList_ofList]
  · rw [toList_escape, escapeList_eq_replaceEach]

/-- If the ampersands come last, they are replaced inside of the other references too. -/
example : replaceEach [('<', "&lt;"), ('&', "&amp;")] ['<'] = "&amp;lt;".toList := by decide

end SelectorPreview.Markup
