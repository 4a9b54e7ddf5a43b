import SelectorPreview.Proofs.Flattening
import SelectorPreview.Proofs.Assembly
/-!
# Blocks for the root of a document

Selectors that begin with `html` or `body` have no chain. This is looked at before combinators
become blanks, so it does not reach a selector in which a combinator stands before the tag, as in
`* html`: its chain begins with the tag all the same. `root_block_iff` says that there are no other
such chains.

* `prefix_head_words_iff` : how the first word of a text begins;
* `prefix_flattenList_iff` : how a flattened text begins;
* `root_chain_iff` : which selectors have a chain that begins with `html` or `body`.
-/

namespace SelectorPreview

namespace Text

/-! ## How words begin -/

/-- A text that does not begin with a blank is a word and, behind a blank, what follows it. -/
theorem exists_word_append {c : Char} (hc : isBlank c = false) (rest : List Char) :
    ∃ word more, c :: rest = word ++ more ∧ word ≠ [] ∧ (∀ d ∈ word, isBlank d = false) ∧
      ∀ d ∈ more.head?, isBlank d = true := by
  refine ⟨(c :: rest).takeWhile (! isBlank ·), (c :: rest).dropWhile (! isBlank ·),
    List.takeWhile_append_dropWhile.symm, by simp [hc], ?_, ?_⟩
  · intro d hd
    simpa using List.mem_takeWhile_imp hd
  · intro d hd
    have hhead := List.head?_dropWhile_not (! isBlank ·) (c :: rest)
    rw [Option.mem_def.1 hd] at hhead
    simpa using hhead

/-- Such a word is the first one of the text. -/
theorem head?_words_append {word more : List Char} (hne : word ≠ [])
    (hword : ∀ c ∈ word, isBlank c = false) (hmore : ∀ c ∈ more.head?, isBlank c = true) :
    (words (word ++ more)).head? = some word := by
  cases more with
  | nil => rw [List.append_nil, words_eq_singleton hne hword, List.head?_cons]
  | cons c rest =>
    rw [words_append_blank _ _ (hmore c rfl), words_eq_singleton hne hword]
    rfl

/-- A name is looked for in front of a letter that it does not hold. -/
theorem prefix_append_iff_of_not_mem {name : List Char} (s : List Char) {t : List Char}
    (ht : ∀ c ∈ t.head?, c ∉ name) : name <+: s ++ t ↔ name <+: s := by
  constructor
  · intro h
    rcases List.prefix_or_prefix_of_prefix h (List.prefix_append s t) with hs | ⟨rest, rfl⟩
    · exact hs
    · have hrest : rest <+: t := (List.prefix_append_right_inj s).1 h
      cases rest with
      | nil => exact ⟨[], by simp⟩
      | cons c rest =>
        obtain ⟨more, rfl⟩ := hrest
        exact absurd (List.mem_append_right s List.mem_cons_self) (ht c rfl)
  · intro h
    exact h.trans (List.prefix_append s t)

section Beginnings

variable {name : List Char} (hname : ∀ c ∈ name, isBlank c = false)

include hname

/-- A text without blanks is looked for in front of the first blank. -/
theorem prefix_append_iff_of_blank (s : List Char) {t : List Char}
    (ht : ∀ c ∈ t.head?, isBlank c = true) : name <+: s ++ t ↔ name <+: s := by
  apply prefix_append_iff_of_not_mem
  intro c hc hmem
  exact absurd ((ht c hc).symm.trans (hname c hmem)) (by decide)

/-- A text begins with a name behind its leading blanks if its trimmed form does. -/
theorem prefix_trim_iff (s : List Char) : name <+: trim s ↔ name <+: s.dropWhile isBlank := by
  obtain ⟨after, hback, hafter⟩ := exists_dropWhile_eq s
  rw [hback, prefix_append_iff_of_blank hname]
  intro c hc
  exact hafter c (List.mem_of_mem_head? hc)

/-- The first word of a text begins with a name if the text does behind its leading blanks. -/
theorem prefix_head_words_iff (hne : name ≠ []) (s : List Char) :
    (∃ first ∈ (words s).head?, name <+: first) ↔ name <+: s.dropWhile isBlank := by
  have hwords : words s = words (s.dropWhile isBlank) := by
    conv_lhs => rw [← List.takeWhile_append_dropWhile (p := isBlank) (l := s)]
    exact words_blanks_append (fun c hc => List.mem_takeWhile_imp hc) _
  rw [hwords]
  cases hs : s.dropWhile isBlank with
  | nil => simp [hne]
  | cons c rest =>
    have hc : isBlank c = false := by
      have hhead := List.head?_dropWhile_not isBlank s
      rw [hs] at hhead
      simpa using hhead
    obtain ⟨word, more, hsplit, hwordNe, hword, hmore⟩ := exists_word_append hc rest
    rw [hsplit, head?_words_append hwordNe hword hmore, prefix_append_iff_of_blank hname _ hmore]
    simp

end Beginnings

end Text

namespace Chain

open Text

/-! ## How flattened texts begin -/

/-- The characters that are blanks in a flattened text. -/
def isStep (c : Char) : Bool := isBlank c || isCombinator c

/-- A text is flattened letter by letter up to its first cut. -/
theorem flattenList_cons (c : Char) (rest : List Char) :
    flattenList (c :: rest) = if isCut c then [] else flatChar c :: flattenList rest := by
  show ((c :: rest).map flatChar).takeWhile (! isCut ·) = _
  rw [List.map_cons, List.takeWhile_cons, isCut_flatChar]
  cases isCut c <;> rfl

/-- A combinator is no blank. -/
theorem isBlank_of_isCombinator {c : Char} (h : isCombinator c = true) : isBlank c = false := by
  simp only [isCombinator, Bool.or_eq_true, beq_iff_eq] at h
  rcases h with ((rfl | rfl) | rfl) | rfl <;> decide

/-- A letter is flattened to a blank if it is one or a combinator. -/
theorem isBlank_flatChar_eq (c : Char) : isBlank (flatChar c) = isStep c := by
  unfold flatChar isStep
  split
  · rename_i h
    rw [h, Bool.or_true]
    decide
  · rename_i h
    rw [Bool.not_eq_true] at h
    rw [h, Bool.or_false]

/-- A letter that is neither is only flattened from itself. -/
theorem eq_flatChar_iff {c d : Char} (hc : isStep c = false) : c = flatChar d ↔ c = d := by
  by_cases hd : isCombinator d = true
  · have hstep : isStep d = true := by
      rw [isStep, hd, Bool.or_true]
    have hflat : isBlank (flatChar d) = true := (isBlank_flatChar_eq d).trans hstep
    constructor
    · rintro rfl
      rw [isStep, hflat, Bool.true_or] at hc
      cases hc
    · rintro rfl
      exact absurd (hstep.symm.trans hc) (by decide)
  · rw [flatChar, if_neg hd]

/-- Neither a blank nor a combinator is a cut. -/
theorem isCut_of_isStep {c : Char} (h : isStep c = true) : isCut c = false := by
  rw [← isCut_flatChar]
  exact isCut_of_isBlank ((isBlank_flatChar_eq c).trans h)

section Beginnings

variable {name : List Char} (hname : ∀ c ∈ name, isStep c = false ∧ isCut c = false)

include hname

/-- A flattened text begins with a plain name if the text does. -/
theorem prefix_flattenList_iff (s : List Char) : name <+: flattenList s ↔ name <+: s := by
  induction name generalizing s with
  | nil => simp
  | cons c name ih =>
    have hrest : ∀ d ∈ name, isStep d = false ∧ isCut d = false := fun d hd => hname d (by simp [hd])
    obtain ⟨hstep, hcut⟩ := hname c (by simp)
    cases s with
    | nil => rfl
    | cons d s =>
      rw [flattenList_cons, List.cons_prefix_cons]
      by_cases hd : isCut d = true
      · rw [if_pos hd]
        constructor
        · intro h
          exact absurd (List.prefix_nil.1 h) (by simp)
        · rintro ⟨rfl, -⟩
          exact absurd (hd.symm.trans hcut) (by decide)
      · rw [if_neg hd, List.cons_prefix_cons, eq_flatChar_iff hstep, ih hrest]

/-- Behind its leading blanks a flattened text begins with a plain name if the text does behind its
leading blanks and combinators. -/
theorem prefix_dropWhile_flattenList_iff (s : List Char) :
    name <+: (flattenList s).dropWhile isBlank ↔ name <+: s.dropWhile isStep := by
  induction s with
  | nil => rfl
  | cons c s ih =>
    by_cases hc : isStep c = true
    · rw [flattenList_cons, if_neg (by simp [isCut_of_isStep hc]), List.dropWhile_cons,
        isBlank_flatChar_eq, if_pos hc, ih, List.dropWhile_cons, if_pos hc]
    · -- No blank is left in front, so both texts begin here.
      have hstart : (flattenList (c :: s)).dropWhile isBlank = flattenList (c :: s) := by
        rw [flattenList_cons]
        split
        · rfl
        · rw [List.dropWhile_cons, isBlank_flatChar_eq, if_neg hc]
      rw [hstart, prefix_flattenList_iff hname, List.dropWhile_cons, if_neg hc]

end Beginnings

/-! ## Chains that begin with a tag of the document -/

/-- The tags of the document itself. -/
def rootNames : List (List Char) := ["html".toList, "body".toList]

/-- A text begins at the root of the document if it begins with one of its tags. -/
theorem startsAtRoot_iff {s : List Char} :
    startsAtRoot s = true ↔ ∃ name ∈ rootNames, name <+: s := by
  simp [startsAtRoot, rootNames, List.isPrefixOf_iff_prefix]

/-- The tags of the document have letters only. -/
theorem plain_of_mem_rootNames :
    ∀ name ∈ rootNames, name ≠ [] ∧ ∀ c ∈ name, isStep c = false ∧ isCut c = false := by
  intro name hname
  have hletters : name ≠ [] ∧ (name.all fun c => !isStep c && !isCut c) = true := by
    rcases List.mem_pair.1 hname with rfl | rfl
    · decide
    · decide
  refine ⟨hletters.1, fun c hc => ?_⟩
  simpa using List.all_eq_true.1 hletters.2 c hc

/-- A letter that is no blank and no combinator is in particular no blank. -/
theorem isBlank_of_isStep_eq_false {c : Char} (h : isStep c = false) : isBlank c = false :=
  (Bool.or_eq_false_iff.1 h).1

/-- Texts that begin with the same plain names begin alike at the root of the document. -/
theorem startsAtRoot_congr {s t : List Char}
    (h : ∀ name : List Char, (∀ c ∈ name, isStep c = false ∧ isCut c = false) →
      (name <+: s ↔ name <+: t)) : startsAtRoot s = true ↔ startsAtRoot t = true := by
  rw [startsAtRoot_iff, startsAtRoot_iff]
  apply exists_congr
  intro name
  apply and_congr_right
  intro hmem
  exact h name (plain_of_mem_rootNames name hmem).2

/-- Trimming changes nothing about whether a text begins with a tag of the document. -/
theorem startsAtRoot_trim_iff (s : List Char) :
    startsAtRoot (trim s) = true ↔ startsAtRoot (s.dropWhile isBlank) = true := by
  apply startsAtRoot_congr
  intro name hplain
  exact prefix_trim_iff (fun c hc => isBlank_of_isStep_eq_false (hplain c hc).1) s

/-- Behind its leading blanks a flattened selector begins with a tag of the document if the selector
does behind its leading blanks and combinators. -/
theorem startsAtRoot_flattenList_iff (s : List Char) :
    startsAtRoot ((flattenList s).dropWhile isBlank) = true ↔
      startsAtRoot (s.dropWhile isStep) = true := by
  apply startsAtRoot_congr
  intro name hplain
  exact prefix_dropWhile_flattenList_iff hplain s

/-- The first word of a text begins with a tag of the document if the text does behind its leading
blanks. -/
theorem startsAtRoot_head_words_iff (s : List Char) :
    (∃ first ∈ (words s).head?, startsAtRoot first = true) ↔
      startsAtRoot (s.dropWhile isBlank) = true := by
  have hname : ∀ name ∈ rootNames,
      (∃ first ∈ (words s).head?, name <+: first) ↔ name <+: s.dropWhile isBlank := by
    intro name hmem
    obtain ⟨hne, hplain⟩ := plain_of_mem_rootNames name hmem
    exact prefix_head_words_iff (fun c hc => isBlank_of_isStep_eq_false (hplain c hc).1) hne s
  simp only [startsAtRoot_iff]
  constructor
  · rintro ⟨first, hfirst, name, hmem, hin⟩
    exact ⟨name, hmem, (hname name hmem).1 ⟨first, hfirst, hin⟩⟩
  · rintro ⟨name, hmem, hin⟩
    obtain ⟨first, hfirst, hin⟩ := (hname name hmem).2 hin
    exact ⟨first, hfirst, name, hmem, hin⟩

/-- Words that are joined by spaces have no blank in front. -/
theorem dropWhile_intercalate_words (s : List Char) :
    ([' '].intercalate (words s)).dropWhile isBlank = [' '].intercalate (words s) := by
  cases hwords : words s with
  | nil => rfl
  | cons word rest =>
    have hmem : word ∈ words s := by
      rw [hwords]
      exact List.mem_cons_self
    obtain ⟨c, letters, rfl⟩ := List.exists_cons_of_ne_nil (ne_nil_of_mem_words hmem)
    have hc : isBlank c = false := isBlank_of_mem_words hmem List.mem_cons_self
    cases rest with
    | nil => simp [hc]
    | cons next rest => simp [List.intercalate_cons_cons, hc]

/-- Leading letters of one kind are dropped up to a tag of the document, whose letters are of
another. -/
theorem dropWhile_append_root {p : Char → Bool} (hp : p 'h' = false ∧ p 'b' = false)
    {steps rest : List Char} (hsteps : ∀ c ∈ steps, p c = true)
    (hroot : startsAtRoot rest = true) : (steps ++ rest).dropWhile p = rest := by
  rw [List.dropWhile_append_of_pos hsteps]
  obtain ⟨name, hmem, more, rfl⟩ := startsAtRoot_iff.1 hroot
  have hname : name = "html".toList ∨ name = "body".toList := by
    simpa [rootNames] using hmem
  rcases hname with rfl | rfl
  · simp [hp.1]
  · simp [hp.2]

/-- A tag of the document begins with a letter that is no blank and no combinator. -/
theorem isStep_of_startsAtRoot_cons {c : Char} {rest : List Char}
    (h : startsAtRoot (c :: rest) = true) : isStep c = false := by
  obtain ⟨name, hmem, hin⟩ := startsAtRoot_iff.1 h
  obtain ⟨hne, hplain⟩ := plain_of_mem_rootNames name hmem
  obtain ⟨d, letters, rfl⟩ := List.exists_cons_of_ne_nil hne
  obtain ⟨rfl, -⟩ := List.cons_prefix_cons.1 hin
  exact (hplain d List.mem_cons_self).1

/-- Whether one of the tags of the document stands in a selector directly behind blanks and at least
one combinator. -/
def RootBehindCombinators (selector : String) : Prop :=
  ∃ steps rest, selector.toList = steps ++ rest ∧ (∀ c ∈ steps, isStep c = true) ∧
    (∃ c ∈ steps, isCombinator c = true) ∧ startsAtRoot rest = true

section Selector

variable {selector chain : String}

/-- A chain begins with a tag of the document if its first segment does. -/
theorem startsAtRoot_chain_iff (h : ofSelector? selector = some chain) :
    startsAtRoot chain.toList = true ↔
      ∃ first ∈ (segments chain).head?, startsAtRoot first.toList = true := by
  obtain ⟨-, -, hchain⟩ := ofSelector?_eq_some_iff.1 h
  have hfront : chain.toList.dropWhile isBlank = chain.toList := by
    rw [hchain, dropWhile_intercalate_words]
  rw [← hfront, ← startsAtRoot_head_words_iff, segments, wordStrings, List.head?_map]
  simp only [Option.mem_def, Option.map_eq_some_iff, exists_exists_and_eq_and,
    String.toList_ofList]

/-- The first segment of a chain begins with a tag of the document if its selector does behind its
leading blanks and combinators. -/
theorem startsAtRoot_segment_iff (h : ofSelector? selector = some chain) :
    (∃ first ∈ (segments chain).head?, startsAtRoot first.toList = true) ↔
      startsAtRoot (selector.toList.dropWhile isStep) = true := by
  rw [← startsAtRoot_flattenList_iff, ← startsAtRoot_head_words_iff, ← words_flattenList_trim,
    ← (words_of_ofSelector? h).1, segments, wordStrings, List.head?_map]
  simp only [Option.mem_def, Option.map_eq_some_iff, exists_exists_and_eq_and,
    String.toList_ofList]

/-- If a selector that has a chain begins with a tag of the document behind blanks and combinators,
there is a combinator among these. -/
theorem rootBehindCombinators_of_chain (h : ofSelector? selector = some chain)
    (hroot : startsAtRoot (selector.toList.dropWhile isStep) = true) :
    RootBehindCombinators selector := by
  obtain ⟨hguard, -, -⟩ := ofSelector?_eq_some_iff.1 h
  have hsplit := List.takeWhile_append_dropWhile (p := isStep) (l := selector.toList)
  refine ⟨selector.toList.takeWhile isStep, selector.toList.dropWhile isStep, hsplit.symm,
    fun c hc => List.mem_takeWhile_imp hc, ?_, hroot⟩
  by_contra hnone
  -- With blanks only in front, the trimmed selector would begin with the tag.
  have hblank : ∀ c ∈ selector.toList.takeWhile isStep, isBlank c = true := by
    intro c hc
    have hstep : isStep c = true := List.mem_takeWhile_imp hc
    rcases Bool.or_eq_true_iff.1 hstep with hb | hcomb
    · exact hb
    · exact absurd ⟨c, hc, hcomb⟩ hnone
  have htrim : startsAtRoot (trim selector.toList) = true := by
    rw [startsAtRoot_trim_iff, ← hsplit, dropWhile_append_root (by decide) hblank hroot]
    exact hroot
  exact absurd (htrim.symm.trans hguard) (by decide)

/-- A tag of the document behind combinators does not stand at the beginning of the trimmed
selector. -/
theorem not_startsAtRoot_trim (h : RootBehindCombinators selector) :
    startsAtRoot (trim selector.toList) = false := by
  obtain ⟨steps, rest, hselector, hsteps, ⟨c, hc, hcomb⟩, hroot⟩ := h
  by_contra htrim
  rw [Bool.not_eq_false, startsAtRoot_trim_iff, hselector, List.dropWhile_append] at htrim
  have hblank : isBlank c = false := isBlank_of_isCombinator hcomb
  -- The first letter that is no blank stands before the tag, as the combinator does.
  cases hsplit : steps.dropWhile isBlank with
  | nil =>
    have hall := List.dropWhile_eq_nil_iff.1 hsplit c hc
    exact absurd (hall.symm.trans hblank) (by decide)
  | cons d more =>
    rw [hsplit] at htrim
    have hd : d ∈ steps := by
      apply List.dropWhile_subset isBlank
      rw [hsplit]
      exact List.mem_cons_self
    have hstart := isStep_of_startsAtRoot_cons htrim
    exact absurd ((hsteps d hd).symm.trans hstart) (by decide)

/-- **Which selectors have a chain that begins with a tag of the document:** those in which the tag
stands behind combinators. -/
theorem root_chain_iff (selector : String) :
    (∃ chain, ofSelector? selector = some chain ∧ startsAtRoot chain.toList = true) ↔
      RootBehindCombinators selector := by
  constructor
  · rintro ⟨chain, hchain, hroot⟩
    rw [startsAtRoot_chain_iff hchain, startsAtRoot_segment_iff hchain] at hroot
    exact rootBehindCombinators_of_chain hchain hroot
  · intro h
    have hguard := not_startsAtRoot_trim h
    obtain ⟨steps, rest, hselector, hsteps, -, hroot⟩ := h
    have hdrop : startsAtRoot (selector.toList.dropWhile isStep) = true := by
      rw [hselector, dropWhile_append_root (by decide) hsteps hroot]
      exact hroot
    have hwords : words (flattenList (trim selector.toList)) ≠ [] := by
      rw [← startsAtRoot_flattenList_iff, ← startsAtRoot_head_words_iff,
        ← words_flattenList_trim] at hdrop
      obtain ⟨first, hfirst, -⟩ := hdrop
      intro hnil
      rw [hnil] at hfirst
      cases hfirst
    have hchain : ofSelector? selector = some (String.ofList ([' '].intercalate
        (words (flattenList (trim selector.toList))))) :=
      ofSelector?_eq_some_iff.2 ⟨hguard, hwords, String.toList_ofList⟩
    exact ⟨_, hchain, (startsAtRoot_chain_iff hchain).2 ((startsAtRoot_segment_iff hchain).2 hdrop)⟩

end Selector

end Chain

namespace Document

/-- A selector that addresses the root of the document from any ancestor. -/
def rootFromAnywhere : Sheet := ⟨[⟨["* html"], [⟨"color", "red", false⟩]⟩]⟩

/-- A block can come from a chain that begins with a tag of the document, and the document shows it
with this tag. -/
theorem block_can_begin_at_root :
    render rootFromAnywhere { href := "style.css" } =
      opening "style.css" ++ "<html>* html</html>" ++ closing ∧
    ¬ ∀ (sheet : Sheet), ∀ block ∈ blocks sheet, ∀ first ∈ (Chain.segments block.chain).head?,
      Chain.startsAtRoot first.toList = false := by
  refine ⟨by decide +kernel, fun h => ?_⟩
  have hbad : ∃ block ∈ blocks rootFromAnywhere,
      ∃ first ∈ ((Chain.segments block.chain).head?).toList,
        Chain.startsAtRoot first.toList = true := by
    decide +kernel
  obtain ⟨block, hblock, first, hfirst, hroot⟩ := hbad
  have hgood := h rootFromAnywhere block hblock first (by simpa using hfirst)
  exact absurd (hroot.symm.trans hgood) (by decide)

/-- **Which sheets have a block that begins with a tag of the document:** those with a selector in
which blanks and at least one combinator stand in front, and the tag directly behind them. The chain
of a block begins with such a tag exactly if its first segment does. These are the sheets whose
documents show such a block, with frames and without. -/
theorem root_block_iff (sheet : Sheet) :
    ((∃ block ∈ blocks sheet, ∃ first ∈ (Chain.segments block.chain).head?,
        Chain.startsAtRoot first.toList = true) ↔
      ∃ rule ∈ sheet.rules, ∃ selector ∈ rule.selectors,
        Chain.RootBehindCombinators selector) ∧
    ((∃ block ∈ blocks sheet, Chain.startsAtRoot block.chain.toList = true) ↔
      ∃ rule ∈ sheet.rules, ∃ selector ∈ rule.selectors,
        Chain.RootBehindCombinators selector) ∧
    ∀ options, (∃ block text, Shows sheet options block text ∧
        Chain.startsAtRoot block.chain.toList = true) ↔
      ∃ rule ∈ sheet.rules, ∃ selector ∈ rule.selectors,
        Chain.RootBehindCombinators selector := by
  have hsegment : ∀ block ∈ blocks sheet, (Chain.startsAtRoot block.chain.toList = true ↔
      ∃ first ∈ (Chain.segments block.chain).head?, Chain.startsAtRoot first.toList = true) := by
    intro block hblock
    rw [blocks_eq_kept] at hblock
    exact Chain.startsAtRoot_chain_iff (mem_kept_iff.1 hblock).1
  have hchain : (∃ block ∈ blocks sheet, Chain.startsAtRoot block.chain.toList = true) ↔
      ∃ rule ∈ sheet.rules, ∃ selector ∈ rule.selectors, Chain.RootBehindCombinators selector := by
    simp only [← Chain.root_chain_iff]
    constructor
    · rintro ⟨block, hblock, hroot⟩
      have hmem : block.chain ∈ (kept sheet).map (·.chain) :=
        List.mem_map_of_mem (blocks_eq_kept sheet ▸ hblock)
      obtain ⟨rule, hrule, selector, hselector, hof⟩ := mem_chains_kept_iff.1 hmem
      exact ⟨rule, hrule, selector, hselector, block.chain, hof, hroot⟩
    · rintro ⟨rule, hrule, selector, hselector, chain, hof, hroot⟩
      obtain ⟨before, block, after, hblocks, rfl, -⟩ :=
        exists_block_of_selector hrule hselector hof
      exact ⟨block, by simp [hblocks], hroot⟩
  refine ⟨?_, hchain, fun options => ?_⟩
  · rw [← hchain]
    constructor
    · rintro ⟨block, hblock, hroot⟩
      exact ⟨block, hblock, (hsegment block hblock).2 hroot⟩
    · rintro ⟨block, hblock, hroot⟩
      exact ⟨block, hblock, (hsegment block hblock).1 hroot⟩
  · rw [← hchain]
    simp only [shows_iff]
    constructor
    · rintro ⟨block, text, ⟨hblock, -⟩, hroot⟩
      exact ⟨block, hblock, hroot⟩
    · rintro ⟨block, hblock, hroot⟩
      exact ⟨block, _, ⟨hblock, rfl⟩, hroot⟩

end Document

end SelectorPreview
