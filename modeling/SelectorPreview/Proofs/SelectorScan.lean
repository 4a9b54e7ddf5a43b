import SelectorPreview.Proofs.DocumentRoot
import SelectorPreview.Proofs.SegmentParts
/-!
# The chain of a selector in one scan

The chain of a selector is made in several passes: the selector is trimmed, looked at for a tag of
the document, flattened, cut off and split into words. One scan from left to right makes the same
chain. It collects the runs of letters that are neither blanks nor combinators, up to the first cut;
how the gaps between the runs are written makes no difference.

* `scan?` : the scan;
* `hasRuns_uncut_iff` : the scan finds the maximal runs before the first cut;
* `words_flattenList_eq` : flattening and splitting into words finds the same runs;
* `ofSelector?_one_scan` : the chain of a selector, and what does not change it.
-/

namespace SelectorPreview.Chain

open Text

/-! ## The scan -/

/-- The part of a text before its first cut. -/
def uncut (s : List Char) : List Char := s.takeWhile (! isCut ·)

/-- The run that has been read, if there is one; its letters come last one first. -/
def readRun (letters : List Char) : List (List Char) :=
  if letters.isEmpty then [] else [letters.reverse]

/-- Reads the runs of a text up to its first cut. `letters` are those of the run being read, last
one first. -/
def scanRuns (letters : List Char) : List Char → List (List Char)
  | [] => readRun letters
  | c :: rest =>
    if isCut c then readRun letters
    else if isStep c then readRun letters ++ scanRuns [] rest
    else scanRuns (c :: letters) rest

/-- The runs of a selector, joined by single spaces; nothing if there are none, or if a tag of the
document stands behind its leading blanks. -/
def scan? (selector : String) : Option String :=
  if startsAtRoot (selector.toList.dropWhile isBlank) then none
  else
    match scanRuns [] selector.toList with
    | [] => none
    | first :: rest => some (" ".intercalate ((first :: rest).map String.ofList))

/-- `HasRuns s runs` : the text `s` consists of the runs and of gaps around them. Blanks and
combinators make up the gaps and stand in no run, and a run is followed by a gap or by nothing. -/
inductive HasRuns : List Char → List (List Char) → Prop where
  | gap {gap : List Char} (hgap : ∀ c ∈ gap, isStep c = true) : HasRuns gap []
  | run {gap run rest : List Char} {runs : List (List Char)} (hgap : ∀ c ∈ gap, isStep c = true)
      (hne : run ≠ []) (hrun : ∀ c ∈ run, isStep c = false)
      (hend : ∀ c ∈ rest.head?, isStep c = true) (hrest : HasRuns rest runs) :
      HasRuns (gap ++ (run ++ rest)) (run :: runs)

/-! ## Reading gaps and runs -/

/-- There is a run to be read when there are letters. -/
theorem readRun_of_ne_nil {letters : List Char} (h : letters ≠ []) :
    readRun letters = [letters.reverse] := by
  simp [readRun, h]

/-- At a cut the scan ends. -/
theorem scanRuns_cut {c : Char} (hc : isCut c = true) (letters rest : List Char) :
    scanRuns letters (c :: rest) = readRun letters := by
  rw [scanRuns, if_pos hc]

/-- At a blank or combinator a run ends. -/
theorem scanRuns_step {c : Char} (hc : isStep c = true) (letters rest : List Char) :
    scanRuns letters (c :: rest) = readRun letters ++ scanRuns [] rest := by
  rw [scanRuns, if_neg (by simp [isCut_of_isStep hc]), if_pos hc]

/-- Any other letter belongs to the run. -/
theorem scanRuns_letter {c : Char} (hcut : isCut c = false) (hstep : isStep c = false)
    (letters rest : List Char) : scanRuns letters (c :: rest) = scanRuns (c :: letters) rest := by
  rw [scanRuns, if_neg (by simp [hcut]), if_neg (by simp [hstep])]

/-- A gap in front adds no runs. -/
theorem scanRuns_gap_append {gap : List Char} (h : ∀ c ∈ gap, isStep c = true) (s : List Char) :
    scanRuns [] (gap ++ s) = scanRuns [] s := by
  induction gap with
  | nil => rfl
  | cons c rest ih =>
    rw [List.cons_append, scanRuns_step (h c (by simp)), ih fun d hd => h d (by simp [hd])]
    rfl

/-- A run ends at a gap, and it does not matter how the gap is written. -/
theorem scanRuns_append_gap {gap : List Char} (hne : gap ≠ []) (h : ∀ c ∈ gap, isStep c = true)
    (letters s : List Char) : scanRuns letters (gap ++ s) = readRun letters ++ scanRuns [] s := by
  cases gap with
  | nil => exact absurd rfl hne
  | cons c rest =>
    rw [List.cons_append, scanRuns_step (h c (by simp)),
      scanRuns_gap_append fun d hd => h d (by simp [hd])]

/-- The letters of a run are read one after another. -/
theorem scanRuns_run_append {run : List Char}
    (h : ∀ c ∈ run, isCut c = false ∧ isStep c = false) (letters s : List Char) :
    scanRuns letters (run ++ s) = scanRuns (run.reverse ++ letters) s := by
  induction run generalizing letters with
  | nil => rfl
  | cons c rest ih =>
    obtain ⟨hcut, hstep⟩ := h c (by simp)
    rw [List.cons_append, scanRuns_letter hcut hstep, ih fun d hd => h d (by simp [hd]),
      List.reverse_cons, List.append_assoc, List.singleton_append]

/-- Texts that are scanned alike are so behind any text. -/
theorem scanRuns_append_congr {s t : List Char}
    (h : ∀ letters, scanRuns letters s = scanRuns letters t) (before letters : List Char) :
    scanRuns letters (before ++ s) = scanRuns letters (before ++ t) := by
  induction before generalizing letters with
  | nil => exact h letters
  | cons c rest ih => simp only [List.cons_append, scanRuns, ih]

/-- What follows a cut is not read. -/
theorem scanRuns_append_cut {c : Char} (hc : isCut c = true) (s letters rest : List Char) :
    scanRuns letters (s ++ c :: rest) = scanRuns letters s := by
  have hend : ∀ letters, scanRuns letters (c :: rest) = scanRuns letters [] :=
    fun letters => scanRuns_cut hc letters rest
  have hcongr := scanRuns_append_congr hend s letters
  rwa [List.append_nil] at hcongr

/-! ## The runs of a text -/

/-- No cut stands before the first cut. -/
theorem isCut_of_mem_uncut {s : List Char} {c : Char} (h : c ∈ uncut s) : isCut c = false := by
  simpa using List.mem_takeWhile_imp h

/-- The scan reads what stands before the first cut. -/
theorem scanRuns_uncut (s letters : List Char) : scanRuns letters (uncut s) = scanRuns letters s := by
  have hsplit := List.takeWhile_append_dropWhile (p := (! isCut ·)) (l := s)
  cases hrest : s.dropWhile (! isCut ·) with
  | nil =>
    rw [hrest, List.append_nil] at hsplit
    rw [uncut, hsplit]
  | cons c rest =>
    have hc : isCut c = true := by
      have hhead := List.head?_dropWhile_not (! isCut ·) s
      rw [hrest] at hhead
      simpa using hhead
    rw [hrest] at hsplit
    conv_rhs => rw [← hsplit]
    exact (scanRuns_append_cut hc _ letters rest).symm

/-- The scan finds the runs that a text has. -/
theorem scanRuns_of_hasRuns {s : List Char} {runs : List (List Char)} (h : HasRuns s runs)
    (huncut : ∀ c ∈ s, isCut c = false) : scanRuns [] s = runs := by
  induction h with
  | gap hgap => simpa [scanRuns, readRun] using scanRuns_gap_append hgap []
  | @run gap run rest runs hgap hne hrun hend _ ih =>
    have hrest : scanRuns [] rest = runs := ih fun c hc => huncut c (by simp [hc])
    have hletters : ∀ c ∈ run, isCut c = false ∧ isStep c = false :=
      fun c hc => ⟨huncut c (by simp [hc]), hrun c hc⟩
    have hread : readRun run.reverse = [run] := by
      rw [readRun_of_ne_nil (by simpa using hne), List.reverse_reverse]
    rw [scanRuns_gap_append hgap, scanRuns_run_append hletters, List.append_nil]
    -- The run ends at the next gap or with the text.
    cases rest with
    | nil =>
      have hnil : runs = [] := hrest.symm
      rw [scanRuns, hread, hnil]
    | cons c rest =>
      have hc : isStep c = true := hend c rfl
      rw [scanRuns_step hc, hread, ← hrest, scanRuns_step hc]
      rfl

/-- A gap may be longer in front. -/
theorem HasRuns.cons_step {s : List Char} {runs : List (List Char)} (h : HasRuns s runs) {c : Char}
    (hc : isStep c = true) : HasRuns (c :: s) runs := by
  cases h with
  | gap hgap => exact .gap (List.forall_mem_cons.2 ⟨hc, hgap⟩)
  | run hgap hne hrun hend hrest =>
    exact HasRuns.run (List.forall_mem_cons.2 ⟨hc, hgap⟩) hne hrun hend hrest

/-- Letters that have been read before a gap, or before the end, are a run. -/
theorem HasRuns.readRun_append {s : List Char} {runs : List (List Char)} (h : HasRuns s runs)
    (hend : ∀ c ∈ s.head?, isStep c = true) {letters : List Char}
    (hletters : ∀ c ∈ letters, isStep c = false) :
    HasRuns (letters.reverse ++ s) (readRun letters ++ runs) := by
  by_cases hne : letters = []
  · rw [hne]
    exact h
  · rw [readRun_of_ne_nil hne]
    have hgap : ∀ c ∈ ([] : List Char), isStep c = true := by simp
    exact HasRuns.run hgap (by simpa using hne) (by simpa using hletters) hend h

/-- A text has the runs that the scan finds in it. -/
theorem hasRuns_scanRuns (s letters : List Char)
    (hletters : ∀ c ∈ letters, isStep c = false) :
    HasRuns (letters.reverse ++ uncut s) (scanRuns letters s) := by
  have hempty : HasRuns [] [] := .gap (by simp)
  induction s generalizing letters with
  | nil => simpa [scanRuns, uncut] using hempty.readRun_append (by simp) hletters
  | cons c rest ih =>
    by_cases hcut : isCut c = true
    · have huncut : uncut (c :: rest) = [] := by simp [uncut, hcut]
      rw [scanRuns_cut hcut, huncut]
      simpa using hempty.readRun_append (by simp) hletters
    have huncut : uncut (c :: rest) = c :: uncut rest := by simp [uncut, hcut]
    rw [huncut]
    by_cases hstep : isStep c = true
    · have hrest : HasRuns (c :: uncut rest) (scanRuns [] rest) :=
        HasRuns.cons_step (ih [] (by simp)) hstep
      rw [scanRuns_step hstep]
      exact hrest.readRun_append (by simp [hstep]) hletters
    · rw [Bool.not_eq_true] at hcut hstep
      have hlonger := ih (c :: letters) (List.forall_mem_cons.2 ⟨hstep, hletters⟩)
      rw [List.reverse_cons, List.append_assoc] at hlonger
      rw [scanRuns_letter hcut hstep]
      exact hlonger

/-- **The scan finds the maximal runs before the first cut,** and no other list of runs is right. -/
theorem hasRuns_uncut_iff {s : List Char} {runs : List (List Char)} :
    HasRuns (uncut s) runs ↔ runs = scanRuns [] s := by
  constructor
  · intro h
    rw [← scanRuns_uncut, scanRuns_of_hasRuns h fun c hc => isCut_of_mem_uncut hc]
  · rintro rfl
    simpa using hasRuns_scanRuns s [] (by simp)

/-- A text has no runs if it is all one gap. -/
theorem hasRuns_nil_iff {s : List Char} : HasRuns s [] ↔ ∀ c ∈ s, isStep c = true := by
  constructor
  · intro h
    cases h with
    | gap hgap => exact hgap
  · exact .gap

/-! ## The passes and the scan -/

/-- **Flattening a text and splitting it into words finds the same runs.** -/
theorem words_flattenList_append (s letters : List Char)
    (hletters : ∀ c ∈ letters, isStep c = false) :
    words (letters.reverse ++ flattenList s) = scanRuns letters s := by
  -- The letters read so far are one word, since no blank is among them.
  have hread : ∀ {letters : List Char}, (∀ c ∈ letters, isStep c = false) →
      words letters.reverse = readRun letters := by
    intro letters hletters
    by_cases hne : letters = []
    · rw [hne]
      exact words_nil
    · rw [readRun_of_ne_nil hne]
      apply words_eq_singleton (by simpa using hne)
      intro c hc
      exact isBlank_of_isStep_eq_false (hletters c (List.mem_reverse.1 hc))
  induction s generalizing letters with
  | nil => simpa [flattenList, scanRuns] using hread hletters
  | cons c rest ih =>
    rw [flattenList_cons]
    by_cases hcut : isCut c = true
    · rw [if_pos hcut, scanRuns_cut hcut, List.append_nil, hread hletters]
    rw [if_neg hcut]
    by_cases hstep : isStep c = true
    · have hblank : isBlank (flatChar c) = true := (isBlank_flatChar_eq c).trans hstep
      rw [words_append_blank _ _ hblank, hread hletters, scanRuns_step hstep]
      exact congrArg _ (ih [] (by simp))
    · rw [Bool.not_eq_true] at hcut hstep
      have hflat : flatChar c = c := ((eq_flatChar_iff hstep).2 rfl).symm
      have hlonger := ih (c :: letters) (List.forall_mem_cons.2 ⟨hstep, hletters⟩)
      rw [List.reverse_cons, List.append_assoc] at hlonger
      rw [hflat, scanRuns_letter hcut hstep]
      exact hlonger

/-- The words of a trimmed and flattened text are the runs of the text. -/
theorem words_flattenList_eq (s : List Char) :
    words (flattenList (trim s)) = scanRuns [] s := by
  rw [words_flattenList_trim]
  exact words_flattenList_append s [] (by simp)

/-- The passes make the chain that the scan makes. -/
theorem ofSelector?_eq_scan? (selector : String) : ofSelector? selector = scan? selector := by
  have hroot : startsAtRoot (trim selector.toList) =
      startsAtRoot (selector.toList.dropWhile isBlank) :=
    Bool.eq_iff_iff.2 (startsAtRoot_trim_iff _)
  cases hruns : scanRuns [] selector.toList with
  | nil => simp [ofSelector?, scan?, hroot, words_flattenList_eq, hruns]
  | cons first rest => simp [ofSelector?, scan?, hroot, words_flattenList_eq, hruns]

/-- The segments of a chain are the runs of its selector. -/
theorem segments_eq_scanRuns {selector chain : String} (h : ofSelector? selector = some chain) :
    (segments chain).map String.toList = scanRuns [] selector.toList := by
  rw [← words_flattenList_eq, ← (words_of_ofSelector? h).1, segments, wordStrings, List.map_map]
  simp [Function.comp_def]

/-! ## Which selectors have a chain -/

/-- A selector has no chain if it begins with a tag of the document behind its leading blanks, or if
nothing but blanks and combinators stands before its first cut. -/
theorem ofSelector?_eq_none_iff {selector : String} :
    ofSelector? selector = none ↔
      startsAtRoot (selector.toList.dropWhile isBlank) = true ∨
        ∀ c ∈ uncut selector.toList, isStep c = true := by
  rw [← hasRuns_nil_iff, hasRuns_uncut_iff, ofSelector?_eq_scan?, scan?]
  split
  · rename_i hroot
    simp [hroot]
  · rename_i hroot
    split
    · rename_i hruns
      simp [hruns]
    · rename_i first rest hruns
      simp [hroot, hruns]

/-- A letter of a run stands in the text and is neither a blank nor a combinator. -/
theorem HasRuns.mem {s : List Char} {runs : List (List Char)} (h : HasRuns s runs) :
    ∀ run ∈ runs, ∀ c ∈ run, c ∈ s ∧ isStep c = false := by
  induction h with
  | gap _ => simp
  | run _ _ hrun _ _ ih =>
    intro other hother c hc
    rcases List.mem_cons.1 hother with rfl | hother
    · exact ⟨by simp [hc], hrun c hc⟩
    · obtain ⟨hmem, hstep⟩ := ih other hother c hc
      exact ⟨by simp [hmem], hstep⟩

section Chains

variable {selector chain : String}

/-- A chain is its segments, joined by single spaces. -/
theorem intercalate_segments (h : ofSelector? selector = some chain) :
    " ".intercalate (segments chain) = chain := by
  obtain ⟨-, -, hchain⟩ := ofSelector?_eq_some_iff.1 h
  rw [← String.toList_inj, String.toList_intercalate, segments_eq_scanRuns h, hchain,
    words_flattenList_eq]
  rfl

/-- A chain is not empty. -/
theorem chain_ne_empty (h : ofSelector? selector = some chain) : chain ≠ "" := by
  rintro rfl
  obtain ⟨hwords, hne⟩ := words_of_ofSelector? h
  exact hne (by rw [← hwords]; exact words_nil)

/-- A chain holds no combinators and no cuts, so it is its own flattened form. -/
theorem flatten_chain (h : ofSelector? selector = some chain) : flatten chain = chain := by
  have hplain : ∀ c ∈ chain.toList, isCombinator c = false ∧ isCut c = false := by
    intro c hc
    obtain ⟨-, -, hchain⟩ := ofSelector?_eq_some_iff.1 h
    rw [hchain, words_flattenList_eq] at hc
    rcases mem_intercalate hc with hspace | ⟨run, hrun, hmem⟩
    · obtain rfl := List.mem_singleton.1 hspace
      decide
    · obtain ⟨huncut, hstep⟩ := (hasRuns_uncut_iff.2 rfl).mem run hrun c hmem
      exact ⟨(Bool.or_eq_false_iff.1 hstep).2, isCut_of_mem_uncut huncut⟩
  rw [flatten, flattenList_eq_self hplain, String.ofList_toList]

end Chains

/-! ## What does not change a chain -/

/-- A letter that stands in no tag of the document ends the text that may begin with one. -/
theorem startsAtRoot_append (s : List Char) {t : List Char}
    (ht : ∀ c ∈ t.head?, isStep c = true ∨ isCut c = true) :
    startsAtRoot (s ++ t) = startsAtRoot s := by
  apply Bool.eq_iff_iff.2
  apply startsAtRoot_congr
  intro name hplain
  apply prefix_append_iff_of_not_mem
  intro c hc hmem
  obtain ⟨hstep, hcut⟩ := hplain c hmem
  rcases ht c hc with h | h
  · exact absurd (h.symm.trans hstep) (by decide)
  · exact absurd (h.symm.trans hcut) (by decide)

/-- Leading blanks end at the latest at a letter that is none. -/
theorem dropWhile_isBlank_append (s : List Char) {c : Char} (hc : isBlank c = false)
    (t : List Char) : (s ++ c :: t).dropWhile isBlank = s.dropWhile isBlank ++ c :: t := by
  rw [List.dropWhile_append]
  split
  · rename_i hempty
    rw [List.isEmpty_iff.1 hempty, List.dropWhile_cons, if_neg (by simp [hc]), List.nil_append]
  · rfl

/-- A cut is no blank. -/
theorem isBlank_of_isCut {c : Char} (h : isCut c = true) : isBlank c = false := by
  by_contra hblank
  rw [Bool.not_eq_false] at hblank
  exact absurd (h.symm.trans (isCut_of_isBlank hblank)) (by decide)

/-- Selectors are scanned alike if they have the same runs and agree on the tag in front. -/
theorem ofSelector?_congr {s t : String}
    (hroot : startsAtRoot (s.toList.dropWhile isBlank) = startsAtRoot (t.toList.dropWhile isBlank))
    (hruns : scanRuns [] s.toList = scanRuns [] t.toList) : ofSelector? s = ofSelector? t := by
  rw [ofSelector?_eq_scan?, ofSelector?_eq_scan?, scan?, scan?, hroot, hruns]

/-- A cut with any text behind it may be added to a selector. -/
theorem ofSelector?_append_cut (selector : String) {cut : Char} (hcut : isCut cut = true)
    (rest : List Char) :
    ofSelector? (selector ++ String.ofList (cut :: rest)) = ofSelector? selector := by
  apply ofSelector?_congr
  · rw [String.toList_append, String.toList_ofList,
      dropWhile_isBlank_append _ (isBlank_of_isCut hcut), startsAtRoot_append]
    simp [hcut]
  · rw [String.toList_append, String.toList_ofList, scanRuns_append_cut hcut]

/-- A gap behind a letter may be written in another way. -/
theorem ofSelector?_gap {before : List Char} {last : Char} (hlast : isStep last = false)
    {gap other : List Char} (hgap : gap ≠ [] ∧ ∀ c ∈ gap, isStep c = true)
    (hother : other ≠ [] ∧ ∀ c ∈ other, isStep c = true) (after : List Char) :
    ofSelector? (String.ofList (before ++ last :: (other ++ after))) =
      ofSelector? (String.ofList (before ++ last :: (gap ++ after))) := by
  have hblank : isBlank last = false := isBlank_of_isStep_eq_false hlast
  -- Neither the tag in front nor the runs depend on the letters of the gap.
  have hroot : ∀ {gap : List Char}, (gap ≠ [] ∧ ∀ c ∈ gap, isStep c = true) →
      startsAtRoot ((before ++ last :: (gap ++ after)).dropWhile isBlank) =
        startsAtRoot (before.dropWhile isBlank ++ [last]) := by
    rintro (_ | ⟨c, gap⟩) ⟨hne, hsteps⟩
    · exact absurd rfl hne
    · rw [dropWhile_isBlank_append _ hblank, List.append_cons, startsAtRoot_append]
      simp [hsteps c]
  apply ofSelector?_congr
  · rw [String.toList_ofList, String.toList_ofList, hroot hgap, hroot hother]
  · rw [String.toList_ofList, String.toList_ofList, List.append_cons before last (other ++ after),
      List.append_cons before last (gap ++ after)]
    apply scanRuns_append_congr
    intro letters
    rw [scanRuns_append_gap hother.1 hother.2, scanRuns_append_gap hgap.1 hgap.2]

/-- **The chain of a selector comes from one scan.** There is none exactly if a tag of the document
stands behind the leading blanks or if no run stands before the first cut. Otherwise its segments are
the maximal runs before the first cut, and it is made of them with single spaces between; so it is
not empty and its own flattened form. A cut with any text behind it may be added to the selector, and
blanks and combinators behind a letter may be written in any other way, as long as there are some. -/
theorem ofSelector?_one_scan (selector : String) :
    ofSelector? selector = scan? selector ∧
    (ofSelector? selector = none ↔
      startsAtRoot (selector.toList.dropWhile isBlank) = true ∨
        ∀ c ∈ uncut selector.toList, isStep c = true) ∧
    (∀ chain, ofSelector? selector = some chain →
      (∀ runs, HasRuns (uncut selector.toList) runs ↔
        runs = (segments chain).map String.toList) ∧
      " ".intercalate (segments chain) = chain ∧ chain ≠ "" ∧ flatten chain = chain) ∧
    (∀ cut rest, isCut cut = true →
      ofSelector? (selector ++ String.ofList (cut :: rest)) = ofSelector? selector) ∧
    ∀ before last gap other after, selector.toList = before ++ last :: (gap ++ after) →
      isStep last = false → (gap ≠ [] ∧ ∀ c ∈ gap, isStep c = true) →
      (other ≠ [] ∧ ∀ c ∈ other, isStep c = true) →
      ofSelector? (String.ofList (before ++ last :: (other ++ after))) = ofSelector? selector := by
  refine ⟨ofSelector?_eq_scan? selector, ofSelector?_eq_none_iff, ?_,
    fun _ rest hcut => ofSelector?_append_cut selector hcut rest, ?_⟩
  · intro chain hchain
    refine ⟨fun runs => ?_, intercalate_segments hchain, chain_ne_empty hchain,
      flatten_chain hchain⟩
    rw [segments_eq_scanRuns hchain, hasRuns_uncut_iff]
  · intro before last gap other after hselector hlast hgap hother
    rw [ofSelector?_gap hlast hgap hother, ← hselector, String.ofList_toList]

/-- The items of a menu: two runs, whatever stands between them and whatever is asked of an item. -/
theorem one_scan_menuItems :
    ofSelector? ".menu > li" = some ".menu li" ∧
      (∀ runs, HasRuns (uncut ".menu > li".toList) runs ↔
        runs = (segments ".menu li").map String.toList) ∧
      flatten ".menu li" = ".menu li" ∧
      isCut ':' = true ∧
      ofSelector? (".menu > li" ++ String.ofList (':' :: "hover".toList)) =
        ofSelector? ".menu > li" ∧
      isStep 'u' = false ∧ (∀ c ∈ " > ".toList, isStep c = true) ∧
      (∀ c ∈ "~".toList, isStep c = true) ∧
      ofSelector? (String.ofList (".men".toList ++ 'u' :: ("~".toList ++ "li".toList))) =
        ofSelector? ".menu > li" := by
  have hchain : ofSelector? ".menu > li" = some ".menu li" := by decide +kernel
  have hold : ∀ c ∈ " > ".toList, isStep c = true := List.all_eq_true.1 (by decide)
  have hnew : ∀ c ∈ "~".toList, isStep c = true := List.all_eq_true.1 (by decide)
  obtain ⟨-, -, hsome, hcut, hgap⟩ := ofSelector?_one_scan ".menu > li"
  obtain ⟨hruns, -, -, hflat⟩ := hsome ".menu li" hchain
  exact ⟨hchain, hruns, hflat, by decide, hcut ':' "hover".toList (by decide), by decide, hold, hnew,
    hgap ".men".toList 'u' " > ".toList "~".toList "li".toList (by decide) (by decide)
      ⟨by decide, hold⟩ ⟨by decide, hnew⟩⟩

end SelectorPreview.Chain
