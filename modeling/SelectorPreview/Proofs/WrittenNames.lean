import SelectorPreview.Css.Selector
import SelectorPreview.Proofs.PlaceholderKind
import SelectorPreview.Proofs.SegmentGrammar
import SelectorPreview.Proofs.SelectorScan
/-!
# Selectors of one name

The selector of a class is its name behind a dot, as names are written: a character that could end
the name stands behind a backslash, or its number does. Chains and segments know nothing of this. For
them the run of the name ends at a blank, a combinator or a cut, and the name itself at a mark too,
behind a backslash or not; and the backslashes are letters of the name. So the class of the placeholder
is the class of the selector exactly if the name is written as it is. With identifiers it is the same.

* `identifierList_eq_self_iff` : the names that are written as they are;
* `eq_takeWhile_identifierList_iff` : the names that are read back from what is written;
* `chain_of_name` : the chain of a selector of one name, and its placeholder.
-/

namespace SelectorPreview

open Text Segment

/-! ## Names that are written as they are -/

namespace Css

/-- The characters that stand for themselves in a name. -/
def isOwnLetter (c : Char) : Bool := isPlainName c || 0x80 ≤ c.toNat

/-- Whether a name begins with characters that may stand there: not with a digit, not with a hyphen and
a digit, and not with a hyphen alone. -/
def startsBare : List Char → Bool
  | '-' :: rest => ! rest.isEmpty && ! Scan.startsDigit rest
  | s => ! Scan.startsDigit s

/-- Whether a name is written as it is. -/
def isOwnName (s : List Char) : Bool := startsBare s && s.all isOwnLetter

section

variable {c : Char} {s : List Char}

/-- Some characters are written as they are. -/
theorem nameChar_of_isOwnLetter (h : isOwnLetter c = true) : nameChar c = [c] := if_pos h

/-- No character is left out. -/
theorem length_nameChar_pos (c : Char) : 0 < (nameChar c).length := by
  unfold nameChar numberEscape
  split_ifs <;> simp

/-- Any other character is written as several ones, but NUL is replaced. -/
theorem one_lt_length_nameChar (h : isOwnLetter c = false) (hnul : c ≠ '\x00') :
    1 < (nameChar c).length := by
  unfold isOwnLetter at h
  unfold nameChar numberEscape
  rw [if_neg (by simp [h]), if_neg (by simpa using hnul)]
  split_ifs <;> simp

/-- A name does not get shorter. -/
theorem length_le_length_nameList (s : List Char) : s.length ≤ (nameList s).length := by
  induction s with
  | nil => exact Nat.le_refl 0
  | cons c rest ih =>
    have hpos := length_nameChar_pos c
    have hmore : (nameList (c :: rest)).length = (nameChar c).length + (nameList rest).length := by
      rw [nameList, List.flatMap_cons, List.length_append]
      rfl
    rw [hmore, List.length_cons]
    omega

/-- The characters of a name that stands inside of another one are written as they are if all of them
stand for themselves. -/
theorem nameList_eq_self_iff : nameList s = s ↔ ∀ c ∈ s, isOwnLetter c = true := by
  induction s with
  | nil => simp [nameList]
  | cons c rest ih =>
    have hcons : nameList (c :: rest) = nameChar c ++ nameList rest := rfl
    rw [List.forall_mem_cons, hcons]
    cases hown : isOwnLetter c with
    | true => simpa [nameChar_of_isOwnLetter hown] using ih
    | false =>
      simp only [Bool.false_eq_true, false_and, iff_false]
      intro heq
      by_cases hnul : c = '\x00'
      · -- The replacement is another character.
        rw [hnul, show nameChar '\x00' = [Scan.replacement] from by decide] at heq
        exact absurd (List.cons.inj heq).1 (by decide)
      · have hlong := one_lt_length_nameChar hown hnul
        have hrest := length_le_length_nameList rest
        have hlength := congrArg List.length heq
        rw [List.length_append, List.length_cons] at hlength
        omega

/-- A name that does not begin with a digit is written like any other. -/
theorem undigited_of_startsDigit (h : Scan.startsDigit s = false) : undigited s = nameList s := by
  cases s with
  | nil => rfl
  | cons c rest =>
    have hdigit : c.isDigit = false := h
    rw [undigited, hdigit, if_neg (by decide)]

/-- A digit at the beginning does not stay there. -/
theorem startsDigit_of_prefix_undigited (h : s <+: undigited s) : Scan.startsDigit s = false := by
  cases s with
  | nil => rfl
  | cons c rest =>
    show c.isDigit = false
    by_contra hdigit
    rw [Bool.not_eq_false] at hdigit
    rw [undigited, if_pos hdigit, numberEscape] at h
    obtain ⟨rfl, -⟩ := List.cons_prefix_cons.1 h
    exact absurd hdigit (by decide)

/-- Behind a hyphen a name goes on as if it began there. -/
theorem identifierList_hyphen {rest : List Char} (hne : rest ≠ []) :
    identifierList ('-' :: rest) = '-' :: undigited rest := by
  cases rest with
  | nil => exact absurd rfl hne
  | cons c rest =>
    by_cases hc : c = '-'
    · subst hc
      rfl
    · simp [identifierList, hc]

/-- Without a hyphen in front only a digit is special. -/
theorem identifierList_cons {rest : List Char} (hc : c ≠ '-') :
    identifierList (c :: rest) = undigited (c :: rest) := by
  simp [identifierList, hc]

/-- Without a hyphen in front only a digit may not stand at the beginning. -/
theorem startsBare_cons {rest : List Char} (hc : c ≠ '-') :
    startsBare (c :: rest) = ! Scan.startsDigit (c :: rest) := by
  simp [startsBare, hc]

/-- The ways in which a name can begin, as far as its beginning is special. -/
inductive Beginning : List Char → Prop where
  | empty : Beginning []
  | hyphen : Beginning ['-']
  | behindHyphen {rest : List Char} (hne : rest ≠ []) : Beginning ('-' :: rest)
  | letter {c : Char} {rest : List Char} (hc : c ≠ '-') : Beginning (c :: rest)

/-- A name begins in one of these ways. -/
theorem beginning (s : List Char) : Beginning s := by
  cases s with
  | nil => exact .empty
  | cons c rest =>
    by_cases hc : c = '-'
    · subst hc
      by_cases hne : rest = []
      · subst hne
        exact .hyphen
      · exact .behindHyphen hne
    · exact .letter hc

/-- An identifier whose beginning may stand there is written like any name. -/
theorem identifierList_of_startsBare (h : startsBare s = true) : identifierList s = nameList s := by
  cases beginning s with
  | empty => rfl
  | hyphen => exact absurd h (by decide)
  | behindHyphen hne =>
    have hdigit := (Bool.and_eq_true_iff.1 h).2
    rw [Bool.not_eq_true'] at hdigit
    rw [identifierList_hyphen hne, undigited_of_startsDigit hdigit]
    rfl
  | letter hc =>
    rw [startsBare_cons hc, Bool.not_eq_true'] at h
    rw [identifierList_cons hc, undigited_of_startsDigit h]

/-- An identifier begins with its name only if the beginning of this may stand there. -/
theorem startsBare_of_prefix_identifierList (h : s <+: identifierList s) : startsBare s = true := by
  cases beginning s with
  | empty => rfl
  | hyphen => exact absurd h (by decide)
  | behindHyphen hne =>
    rw [identifierList_hyphen hne] at h
    have hdigit := startsDigit_of_prefix_undigited (List.cons_prefix_cons.1 h).2
    simp [startsBare, hne, hdigit]
  | letter hc =>
    rw [identifierList_cons hc] at h
    rw [startsBare_cons hc, startsDigit_of_prefix_undigited h]
    rfl

/-- **The names that are written as they are:** their characters stand for themselves, and the first
ones may stand at the beginning. -/
theorem identifierList_eq_self_iff : identifierList s = s ↔ isOwnName s = true := by
  rw [isOwnName, Bool.and_eq_true, List.all_eq_true, ← nameList_eq_self_iff]
  constructor
  · intro h
    have hbare : startsBare s = true :=
      startsBare_of_prefix_identifierList (h.symm ▸ List.prefix_refl s)
    exact ⟨hbare, (identifierList_of_startsBare hbare).symm.trans h⟩
  · rintro ⟨hbare, hname⟩
    exact (identifierList_of_startsBare hbare).trans hname

/-- Something is written for a name. -/
theorem identifierList_ne_nil (hne : s ≠ []) : identifierList s ≠ [] := by
  cases beginning s with
  | empty => exact absurd rfl hne
  | hyphen => exact List.cons_ne_nil _ _
  | behindHyphen hrest =>
    rw [identifierList_hyphen hrest]
    exact List.cons_ne_nil _ _
  | @letter c rest hc =>
    have hpos : nameChar c ≠ [] := List.ne_nil_of_length_pos (length_nameChar_pos c)
    rw [identifierList_cons hc, undigited]
    split
    · simp [numberEscape]
    · simp [nameList, hpos]

end

/-! ## What stands in a written name -/

/-- The characters that are neither control characters nor forbidden in a tag or an attribute. -/
def isHarmless (c : Char) : Bool := ! isControl c && ! isForbidden c

section

variable {s : List Char} {c d : Char}

/-- A control character does not stand for itself. -/
theorem isOwnLetter_of_isControl (h : isControl c = true) :
    c.toNat < 0x80 ∧ isOwnLetter c = false := by
  have hall : ∀ n < 0x80, isControl (Char.ofNat n) = true → isOwnLetter (Char.ofNat n) = false := by
    decide +kernel
  have hascii : c.toNat < 0x80 := by
    simp only [isControl, Bool.or_eq_true, Bool.and_eq_true, decide_eq_true_eq, beq_iff_eq] at h
    omega
  have hc := hall c.toNat hascii
  rw [Char.ofNat_toNat] at hc
  exact ⟨hascii, hc h⟩

/-- A control character is written by its number. -/
theorem nameChar_of_isControl (h : isControl c = true) : nameChar c = numberEscape c := by
  have hown := (isOwnLetter_of_isControl h).2
  have hnul : (c == '\x00') = false := by
    by_contra hc
    rw [Bool.not_eq_false, beq_iff_eq] at hc
    subst hc
    exact absurd h (by decide)
  unfold isOwnLetter at hown
  simp only [nameChar, hown, hnul, h, Bool.false_eq_true, if_false, if_true]

/-- Any other character is written as itself, also behind a backslash, or as the replacement. -/
theorem mem_nameChar (hc : isControl c = false) (hd : d ∈ nameChar c) :
    d = '\\' ∨ d = Scan.replacement ∨ d = c := by
  unfold nameChar at hd
  split_ifs at hd with hown hnul hcontrol
  · exact Or.inr (Or.inr (List.mem_singleton.1 hd))
  · exact Or.inr (Or.inl (List.mem_singleton.1 hd))
  · exact absurd (hc.symm.trans hcontrol) (by decide)
  · rcases List.mem_cons.1 hd with rfl | hd
    · exact Or.inl rfl
    · exact Or.inr (Or.inr (List.mem_singleton.1 hd))

/-- A number is written with harmless characters. -/
theorem isHarmless_of_mem_numberEscape (hc : c.toNat < 0x80) (hd : d ∈ numberEscape c) :
    isHarmless d = true := by
  have hall : ∀ n < 0x80, (['\\'] ++ Nat.toDigits 16 n ++ [' ']).all isHarmless = true := by
    decide +kernel
  exact List.all_eq_true.1 (hall c.toNat hc) d hd

/-- A character that is not forbidden is written with harmless ones. -/
theorem isHarmless_of_mem_nameChar (hc : isForbidden c = false) (hd : d ∈ nameChar c) :
    isHarmless d = true := by
  cases hcontrol : isControl c with
  | true =>
    rw [nameChar_of_isControl hcontrol] at hd
    exact isHarmless_of_mem_numberEscape (isOwnLetter_of_isControl hcontrol).1 hd
  | false =>
    rcases mem_nameChar hcontrol hd with rfl | rfl | rfl
    · decide
    · decide
    · simp [isHarmless, hcontrol, hc]

/-- A clean name is written with harmless characters. -/
theorem isHarmless_of_mem_nameList (hs : IsClean s) (hd : d ∈ nameList s) : isHarmless d = true := by
  obtain ⟨c, hc, hd⟩ := List.mem_flatMap.1 hd
  exact isHarmless_of_mem_nameChar (hs c hc) hd

/-- So it is where a digit is at its beginning. -/
theorem isHarmless_of_mem_undigited (hs : IsClean s) (hd : d ∈ undigited s) :
    isHarmless d = true := by
  cases s with
  | nil => cases hd
  | cons c rest =>
    rw [undigited] at hd
    split at hd
    · rename_i hdigit
      have hascii : c.toNat < 0x80 := by
        simp only [Char.isDigit, Bool.and_eq_true, decide_eq_true_eq] at hdigit
        exact Nat.lt_of_le_of_lt hdigit.2 (by decide)
      rcases List.mem_append.1 hd with hnumber | hrest
      · exact isHarmless_of_mem_numberEscape hascii hnumber
      · exact isHarmless_of_mem_nameList (fun c hc => hs c (List.mem_cons_of_mem _ hc)) hrest
    · exact isHarmless_of_mem_nameList hs hd

/-- **A clean identifier is written with harmless characters.** -/
theorem isHarmless_of_mem_identifierList (hs : IsClean s) (hd : d ∈ identifierList s) :
    isHarmless d = true := by
  cases beginning s with
  | empty => cases hd
  | hyphen =>
    have hall : (identifierList ['-']).all isHarmless = true := by decide
    exact List.all_eq_true.1 hall d hd
  | behindHyphen hne =>
    rw [identifierList_hyphen hne] at hd
    rcases List.mem_cons.1 hd with rfl | hd
    · decide
    · exact isHarmless_of_mem_undigited (fun c hc => hs c (List.mem_cons_of_mem _ hc)) hd
  | letter hc =>
    rw [identifierList_cons hc] at hd
    exact isHarmless_of_mem_undigited hs hd

end

end Css

/-! ## Reading back what is written -/

namespace Chain

/-- The letters of a run: neither blanks nor combinators nor cuts. -/
def isRunLetter (c : Char) : Bool := ! isStep c && ! isCut c

/-- The letters at which neither a run nor a name in it ends. -/
def isOrdinary (c : Char) : Bool := isRunLetter c && (Mark.ofChar? c).isNone

/-- The characters that are not blank and yet end a run or a name. -/
def endings : List Char := ['>', '*', '~', '+', ':', '[', '.', '#']

/-- A letter that ends nothing is neither a blank nor a combinator, no cut and no mark. -/
theorem isOrdinary_iff {c : Char} :
    isOrdinary c = true ↔ isStep c = false ∧ isCut c = false ∧ Mark.ofChar? c = none := by
  simp [isOrdinary, isRunLetter, and_assoc]

/-- What ends a name is a blank or one of these characters. -/
theorem isOrdinary_iff_not_mem {c : Char} :
    isOrdinary c = true ↔ isBlank c = false ∧ c ∉ endings := by
  have hmark : Mark.ofChar? c = none ↔ c ≠ '.' ∧ c ≠ '#' := by
    unfold Mark.ofChar?
    split <;> simp_all
  simp only [isOrdinary_iff, isStep, isCombinator, isCut, endings, hmark]
  simp [and_assoc]

/-- A character that stands for itself in a name does not end a name. -/
theorem isOrdinary_of_isOwnLetter {c : Char} (hc : Css.isOwnLetter c = true)
    (hblank : isBlank c = false) : isOrdinary c = true := by
  have hall : endings.all (! Css.isOwnLetter ·) = true := by decide
  have hends : c ∉ endings := by
    intro hmem
    have hother := List.all_eq_true.1 hall c hmem
    rw [hc] at hother
    exact absurd hother (by decide)
  exact isOrdinary_iff_not_mem.2 ⟨hblank, hends⟩

end Chain

namespace Css

open Chain

/-- A name without control characters is written without ends of names if there are none in it. -/
theorem isOrdinary_of_mem_nameList {s : List Char} {d : Char}
    (hs : ∀ c ∈ s, isControl c = false ∧ isOrdinary c = true) (hd : d ∈ nameList s) :
    isOrdinary d = true := by
  obtain ⟨c, hc, hd⟩ := List.mem_flatMap.1 hd
  rcases mem_nameChar (hs c hc).1 hd with rfl | rfl | rfl
  · decide
  · decide
  · exact (hs d hc).2

/-- **The names that are read back from what is written,** up to the first end of a name: those that
are written as they are. -/
theorem eq_takeWhile_identifierList_iff {s : List Char} (hblank : ∀ c ∈ s, isBlank c = false)
    (hclean : IsClean s) :
    s = (identifierList s).takeWhile isOrdinary ↔ isOwnName s = true := by
  constructor
  · intro h
    have hbegin : s <+: identifierList s := by
      conv_lhs => rw [h]
      exact List.takeWhile_prefix isOrdinary
    -- No number has been written: there is no digit in front, and control characters would be missing.
    have hname : identifierList s = nameList s :=
      identifierList_of_startsBare (startsBare_of_prefix_identifierList hbegin)
    have hletters : ∀ c ∈ s, isControl c = false ∧ isOrdinary c = true := by
      intro c hc
      have hharmless := isHarmless_of_mem_identifierList hclean (hbegin.subset hc)
      rw [isHarmless, Bool.and_eq_true, Bool.not_eq_true'] at hharmless
      rw [h] at hc
      exact ⟨hharmless.1, List.mem_takeWhile_imp hc⟩
    -- So nothing that is written ends a name, and the whole of it is read.
    have hall : (identifierList s).takeWhile isOrdinary = identifierList s := by
      rw [List.takeWhile_eq_self_iff, hname]
      exact fun d hd => isOrdinary_of_mem_nameList hletters hd
    exact identifierList_eq_self_iff.1 (h.trans hall).symm
  · intro h
    have hown := (Bool.and_eq_true_iff.1 h).2
    rw [identifierList_eq_self_iff.2 h, eq_comm, List.takeWhile_eq_self_iff]
    exact fun c hc => isOrdinary_of_isOwnLetter (List.all_eq_true.1 hown c hc) (hblank c hc)

end Css

/-! ## The run of a name -/

namespace Chain

/-- The first run of a text goes on to the first letter that is in no run. -/
theorem exists_scanRuns_eq (s : List Char) {letters : List Char} (hne : letters ≠ []) :
    ∃ others, scanRuns letters s = (letters.reverse ++ s.takeWhile isRunLetter) :: others := by
  induction s generalizing letters with
  | nil =>
    refine ⟨[], ?_⟩
    rw [scanRuns, readRun_of_ne_nil hne, List.takeWhile_nil, List.append_nil]
  | cons c rest ih =>
    cases hcut : isCut c with
    | true =>
      refine ⟨[], ?_⟩
      rw [scanRuns_cut hcut, readRun_of_ne_nil hne]
      simp [isRunLetter, hcut]
    | false =>
      cases hstep : isStep c with
      | true =>
        refine ⟨scanRuns [] rest, ?_⟩
        rw [scanRuns_step hstep, readRun_of_ne_nil hne]
        simp [isRunLetter, hstep]
      | false =>
        obtain ⟨others, hothers⟩ := ih (List.cons_ne_nil c letters)
        refine ⟨others, ?_⟩
        rw [scanRuns_letter hcut hstep, hothers]
        simp [isRunLetter, hcut, hstep]

/-- A name ends where its run does, or at a mark in it. -/
theorem unmarked_takeWhile (s : List Char) :
    unmarked (s.takeWhile isRunLetter) = s.takeWhile isOrdinary := by
  rw [unmarked, List.takeWhile_takeWhile]
  congr 1
  funext c
  cases hmark : Mark.ofChar? c <;> simp [isOrdinary, hmark]

end Chain

namespace Segment

open Chain

/-- The selector of a name: of all elements that have it as a class, or as their identifier. -/
def Mark.simple : Mark → String → Css.Simple
  | .className, name => .className name
  | .identifier, name => .identifier name

/-- The selector of a name, as it is written. -/
def selectorText (mark : Mark) (name : String) : String :=
  (Css.Complex.mk [.mk none [mark.simple name]]).text

/-- The name is written as an identifier, behind its mark. -/
theorem toList_selectorText (mark : Mark) (name : String) :
    (selectorText mark name).toList = mark.char :: (Css.identifier name).toList := by
  cases mark <;>
    simp [selectorText, Mark.simple, Mark.char, Css.Complex.text, Css.Step.listText, Css.Step.text,
      Css.Simple.listText, Css.Simple.text]

/-- A mark belongs to a run and ends none. -/
theorem Mark.isStep_char (mark : Mark) : isStep mark.char = false ∧ isCut mark.char = false := by
  cases mark <;> decide

/-- A mark begins no tag of the document. -/
theorem Mark.startsAtRoot_cons (mark : Mark) (s : List Char) :
    startsAtRoot (mark.char :: s) = false := by
  cases mark <;> rfl

/-- The selector of a name has a chain. -/
theorem exists_chain (mark : Mark) (name : String) :
    ∃ chain, ofSelector? (selectorText mark name) = some chain := by
  obtain ⟨hstep, hcut⟩ := mark.isStep_char
  have hblank : isBlank mark.char = false := isBlank_of_isStep_eq_false hstep
  apply Option.ne_none_iff_exists'.1
  rw [ne_eq, ofSelector?_eq_none_iff, toList_selectorText, not_or]
  constructor
  · rw [List.dropWhile_cons, hblank, if_neg (by decide), mark.startsAtRoot_cons]
    decide
  · intro hall
    rw [uncut, List.takeWhile_cons, if_pos (by simp [hcut])] at hall
    exact absurd ((hall _ List.mem_cons_self).symm.trans hstep) (by decide)

section

variable {mark : Mark} {name chain : String} (h : ofSelector? (selectorText mark name) = some chain)

include h

/-- The first segment of the chain is the run that begins with the mark. -/
theorem exists_segments_eq :
    ∃ others, segments chain =
      String.ofList (mark.char :: (Css.identifier name).toList.takeWhile isRunLetter) :: others := by
  obtain ⟨hstep, hcut⟩ := mark.isStep_char
  have hruns := segments_eq_scanRuns h
  obtain ⟨others, hothers⟩ :=
    exists_scanRuns_eq (Css.identifier name).toList (List.cons_ne_nil mark.char [])
  rw [toList_selectorText, scanRuns_letter hcut hstep, hothers] at hruns
  obtain ⟨first, rest, hchain, hfirst, -⟩ := List.map_eq_cons_iff.1 hruns
  refine ⟨rest, ?_⟩
  rw [hchain, ← String.ofList_toList (s := first), hfirst]
  rfl

end

end Segment

/-! ## The name behind the mark -/

/-- The names of a segment that are behind one mark. -/
def Parts.behind (parts : Parts) : Mark → List String
  | .className => parts.classes
  | .identifier => parts.ids

namespace Segment

open Chain

/-- The parts of a reading have its names behind a mark. -/
theorem behind_parts (reading : Reading) (mark : Mark) :
    reading.parts.behind mark = reading.namesBehind mark := by
  cases mark <;> rfl

/-- Behind the mark that a segment begins with, the first name ends at the next mark. -/
theorem head?_behind {mark : Mark} {letters : List Char} {segment : String} {parts : Parts}
    (hsegment : segment.toList = mark.char :: letters) (h : Parts.ofSegment segment = .ok parts) :
    (parts.behind mark).head? = some (String.ofList (unmarked letters)) := by
  obtain ⟨-, -, rfl⟩ := Parts.ofSegment_eq_ok_iff.1 h
  have hmark : Mark.ofChar? mark.char = some mark := Mark.ofChar?_eq_some_iff.2 rfl
  rw [behind_parts, hsegment, readingOf_cons_mark hmark, tag_readingOf]
  simp [Reading.namesBehind]

/-- What is written for a name can be the only name of a segment, if no name ends in it. -/
theorem plain_identifier (mark : Mark) {name : String} (hne : name ≠ "")
    (hclean : IsClean name.toList)
    (hall : ∀ c ∈ (Css.identifier name).toList, isOrdinary c = true) :
    Reading.Plain { names := [(mark, (Css.identifier name).toList)] } := by
  have hidentifier : (Css.identifier name).toList = Css.identifierList name.toList :=
    String.toList_ofList
  refine ⟨by simp, fun written hwritten => ?_⟩
  obtain rfl := List.mem_singleton.1 hwritten
  constructor
  · rw [hidentifier]
    exact Css.identifierList_ne_nil (by simpa using hne)
  · intro c hc
    obtain ⟨-, -, hmark⟩ := isOrdinary_iff.1 (hall c hc)
    have hharmless := Css.isHarmless_of_mem_identifierList hclean (hidentifier ▸ hc)
    rw [Css.isHarmless, Bool.and_eq_true, Bool.not_eq_true', Bool.not_eq_true'] at hharmless
    exact ⟨hmark, hharmless.2⟩

/-- A chain is one segment, it has parts, and these have one name behind a mark. -/
def CarriesOnly (mark : Mark) (name chain : String) : Prop :=
  ∃ segment parts, segments chain = [segment] ∧ Parts.ofSegment segment = .ok parts ∧
    parts.behind mark = [name]

section

variable {mark : Mark} {name chain : String} (h : ofSelector? (selectorText mark name) = some chain)

include h

/-- The only name that a chain may carry is read up to the first end of a name. -/
theorem toList_of_carriesOnly {other : String} (hcarries : CarriesOnly mark other chain) :
    other.toList = (Css.identifier name).toList.takeWhile isOrdinary := by
  obtain ⟨segment, parts, hsegments, hparts, hnames⟩ := hcarries
  obtain ⟨others, hothers⟩ := exists_segments_eq h
  obtain ⟨hsegment, -⟩ := List.cons.inj (hsegments.symm.trans hothers)
  have hhead := head?_behind (hsegment ▸ String.toList_ofList) hparts
  rw [hnames, unmarked_takeWhile, List.head?_cons, Option.some.injEq] at hhead
  rw [hhead, String.toList_ofList]

/-- Where no name ends in what is written, the selector is the only segment, and what is written is
its only name. -/
theorem segments_of_isOrdinary (hne : name ≠ "") (hclean : IsClean name.toList)
    (hall : ∀ c ∈ (Css.identifier name).toList, isOrdinary c = true) :
    segments chain = [selectorText mark name] ∧
      Parts.ofSegment (selectorText mark name) =
        .ok (Reading.parts { names := [(mark, (Css.identifier name).toList)] }) := by
  constructor
  · apply segments_of_isPlain _ h
    intro c hc
    obtain ⟨hstep, hcut⟩ : isStep c = false ∧ isCut c = false := by
      rw [toList_selectorText] at hc
      rcases List.mem_cons.1 hc with rfl | hletter
      · exact mark.isStep_char
      · obtain ⟨hstep, hcut, -⟩ := isOrdinary_iff.1 (hall c hletter)
        exact ⟨hstep, hcut⟩
    obtain ⟨hblank, hcombinator⟩ := Bool.or_eq_false_iff.1 hstep
    exact ⟨hblank, hcombinator, hcut⟩
  · have hparts := Parts.ofSegment_text (plain_identifier mark hne hclean hall)
    have htext : String.ofList (Reading.text { names := [(mark, (Css.identifier name).toList)] }) =
        selectorText mark name := by
      rw [← String.toList_inj, String.toList_ofList, toList_selectorText]
      simp [Reading.text, written]
    rwa [htext] at hparts

/-- **What is written is the name in the chain exactly if no name ends in it.** -/
theorem carriesOnly_identifier_iff (hne : name ≠ "") (hclean : IsClean name.toList) :
    CarriesOnly mark (Css.identifier name) chain ↔
      ∀ c ∈ (Css.identifier name).toList, isOrdinary c = true := by
  constructor
  · intro hcarries
    exact List.takeWhile_eq_self_iff.1 (toList_of_carriesOnly h hcarries).symm
  · intro hall
    obtain ⟨hsegments, hparts⟩ := segments_of_isOrdinary h hne hclean hall
    refine ⟨_, _, hsegments, hparts, ?_⟩
    simp [behind_parts, Reading.namesBehind]

end

/-! ## The class of the placeholder -/

/-- The attribute of the names behind a mark. -/
def Mark.attribute : Mark → String
  | .className => "class"
  | .identifier => "id"

/-- An element that has one name, around a label. -/
def divWith (mark : Mark) (name label : String) : String :=
  "<div " ++ mark.attribute ++ "=\"" ++ name ++ "\">" ++ Markup.escape label ++ "</div>"

/-- A segment of one name is drawn as an element that has it. -/
theorem drawChain_singleton {mark : Mark} {letters : List Char} {segment : String}
    (h : Parts.ofSegment segment = .ok (Reading.parts { names := [(mark, letters)] }))
    (label : String) :
    Placeholder.drawChain [segment] label = divWith mark (String.ofList letters) label := by
  have hne : segment ≠ "" := by
    rintro rfl
    have hnone : Parts.ofSegment "" = .ok {} := by decide
    have hempty := congrArg (Parts.behind · mark) (Except.ok.inj (hnone.symm.trans h))
    cases mark <;> exact absurd hempty (by simp [Parts.behind, Reading.parts, Reading.namesBehind])
  have hparts := Placeholder.parts_ofSegment h
  have hkind : (Placeholder.ofSegment segment).kind = .container :=
    (Placeholder.kindOf_ofSegment hne h).trans (Placeholder.ofTag_eq_container_iff.2 rfl)
  have hdrawn : Placeholder.drawChain [segment] label =
      Placeholder.openingTag "div" (Reading.parts { names := [(mark, letters)] }).attributes ++
        Markup.escape label ++ "</div>" := by
    simp only [Placeholder.drawChain, Placeholder.opening, Placeholder.closing, hparts, hkind]
  rw [hdrawn, divWith, ← String.toList_inj]
  cases mark <;>
    simp [Placeholder.openingTag, Parts.attributes, Parts.namesAttribute, Reading.parts,
      Reading.namesBehind, Mark.attribute]

/-- A name as it is wanted for a class or an identifier: it is not empty, and no character in it is
blank, or forbidden in a tag or an attribute. -/
structure IsName (name : String) : Prop where
  ne_empty : name ≠ ""
  unblank : ∀ c ∈ name.toList, isBlank c = false
  clean : IsClean name.toList

/-- Whether a text is a name is seen letter by letter. -/
theorem isName_iff {name : String} :
    IsName name ↔ name ≠ "" ∧ name.toList.all (fun c => ! isBlank c && ! isForbidden c) = true := by
  rw [List.all_eq_true]
  constructor
  · rintro ⟨hne, hunblank, hclean⟩
    exact ⟨hne, fun c hc => by simp [hunblank c hc, hclean c hc]⟩
  · rintro ⟨hne, hall⟩
    have hletters : ∀ c ∈ name.toList, isBlank c = false ∧ isForbidden c = false := by
      simpa using hall
    exact ⟨hne, fun c hc => (hletters c hc).1, fun c hc => (hletters c hc).2⟩

instance (name : String) : Decidable (IsName name) := decidable_of_iff _ isName_iff.symm

/-- A name of letters that stand for themselves is written as it is, and nothing in it ends a name. -/
theorem identifier_of_isOwnName {name : String} (hname : IsName name)
    (hown : Css.isOwnName name.toList = true) :
    Css.identifier name = name ∧ ∀ c ∈ name.toList, isOrdinary c = true := by
  constructor
  · rw [Css.identifier, Css.identifierList_eq_self_iff.2 hown, String.ofList_toList]
  · have hletters := List.all_eq_true.1 (Bool.and_eq_true_iff.1 hown).2
    exact fun c hc => isOrdinary_of_isOwnLetter (hletters c hc) (hname.unblank c hc)

/-- **The name of a selector is the name in its chain exactly if it is written as it is.** -/
theorem carriesOnly_iff {mark : Mark} {name chain : String}
    (h : ofSelector? (selectorText mark name) = some chain) (hname : IsName name) :
    CarriesOnly mark name chain ↔ Css.isOwnName name.toList = true := by
  constructor
  · intro hcarries
    have hread := toList_of_carriesOnly h hcarries
    rw [Css.identifier, String.toList_ofList] at hread
    exact (Css.eq_takeWhile_identifierList_iff hname.unblank hname.clean).1 hread
  · intro hown
    obtain ⟨hself, hall⟩ := identifier_of_isOwnName hname hown
    have hcarries := carriesOnly_identifier_iff h hname.ne_empty hname.clean
    rw [hself] at hcarries
    exact hcarries.2 hall

/-- **The placeholder of a selector of one name.** The selector always has a chain. Its first segment
is the run of the mark and of what is written for the name, up to the first blank, combinator or cut;
and if this segment has parts, then the first name behind the mark is what is written up to the first
of these or the first mark. The chain is one segment with the name of the selector as its only name
exactly if this is written as it is; then the placeholder is an element that has the name. It is one
segment with all that is written as its only name, escapes and all, exactly if no name ends there. -/
theorem chain_of_name (mark : Mark) {name : String} (hname : IsName name) :
    ∃ chain first others, ofSelector? (selectorText mark name) = some chain ∧
      segments chain = first :: others ∧
      first.toList = mark.char :: (Css.identifier name).toList.takeWhile isRunLetter ∧
      (∀ parts, Parts.ofSegment first = .ok parts → (parts.behind mark).head? =
        some (String.ofList ((Css.identifier name).toList.takeWhile isOrdinary))) ∧
      (CarriesOnly mark name chain ↔ Css.isOwnName name.toList = true) ∧
      (Css.isOwnName name.toList = true → ∀ label,
        Placeholder.drawChain (segments chain) label = divWith mark name label) ∧
      (CarriesOnly mark (Css.identifier name) chain ↔
        ∀ c ∈ (Css.identifier name).toList, isOrdinary c = true) := by
  obtain ⟨chain, hchain⟩ := exists_chain mark name
  obtain ⟨others, hsegments⟩ := exists_segments_eq hchain
  refine ⟨chain, _, others, hchain, hsegments, String.toList_ofList, ?_,
    carriesOnly_iff hchain hname, ?_,
    carriesOnly_identifier_iff hchain hname.ne_empty hname.clean⟩
  · intro parts hparts
    rw [head?_behind String.toList_ofList hparts, unmarked_takeWhile]
  · intro hown label
    obtain ⟨hself, hall⟩ := identifier_of_isOwnName hname hown
    obtain ⟨honly, hparts⟩ := segments_of_isOrdinary hchain hname.ne_empty hname.clean (by rwa [hself])
    rw [honly, drawChain_singleton hparts, hself, String.ofList_toList]

/-- A class of letters, also beyond ASCII, is the class of the placeholder; the backslash in an
identifier is a letter of it. -/
theorem chain_of_size_and_address :
    IsName "größe" ∧ IsName "b@c" ∧
      CarriesOnly .className "größe" ".größe" ∧
      Placeholder.drawChain (segments ".größe") ".größe" = "<div class=\"größe\">.größe</div>" ∧
      CarriesOnly .identifier "b\\@c" "#b\\@c" ∧ ¬ CarriesOnly .identifier "b@c" "#b\\@c" := by
  have hsize : IsName "größe" := by decide
  have haddress : IsName "b@c" := by decide
  have hsizeChain : ofSelector? (selectorText .className "größe") = some ".größe" := by
    decide +kernel
  have haddressChain : ofSelector? (selectorText .identifier "b@c") = some "#b\\@c" := by
    decide +kernel
  have hwritten : Css.identifier "b@c" = "b\\@c" := by decide +kernel
  obtain ⟨chain, -, -, hchain, -, -, -, hcarries, hdrawn, -⟩ := chain_of_name .className hsize
  obtain rfl := Option.some.inj (hsizeChain.symm.trans hchain)
  obtain ⟨chain, -, -, hchain, -, -, -, hother, -, hkept⟩ := chain_of_name .identifier haddress
  obtain rfl := Option.some.inj (haddressChain.symm.trans hchain)
  rw [hwritten] at hkept
  refine ⟨hsize, haddress, hcarries.2 (by decide), ?_, ?_, ?_⟩
  · rw [hdrawn (by decide)]
    decide +kernel
  · have hall : ("b\\@c".toList.all isOrdinary) = true := by decide
    exact hkept.2 (List.all_eq_true.1 hall)
  · rw [hother]
    decide

/-- A class for wide screens. Its colon is written behind a backslash. -/
def wideFlex : String := "md:flex"

/-- A selector of one name does not always have the name in its chain: at the colon it is cut off. -/
theorem not_always_carriesOnly :
    ¬ ∀ (mark : Mark) (name : String), IsName name →
      ∃ chain, ofSelector? (selectorText mark name) = some chain ∧ CarriesOnly mark name chain := by
  intro h
  have hname : IsName wideFlex := by decide
  obtain ⟨chain, hchain, hcarries⟩ := h .className wideFlex hname
  have hown := (carriesOnly_iff hchain hname).1 hcarries
  exact absurd hown (by decide)

end Segment

end SelectorPreview
