import SelectorPreview.Proofs.SegmentParts
/-!
# The grammar of segments

A segment is a tag and then names, each behind its mark, and every text can be read in this way, in
one way only. It is refused if it holds a forbidden character or if a name is empty. A forbidden
character is met at its own position; that a name is empty shows where it ends, at the next mark or at
the end of the text. The fault that is told is the one met first.

* `isReading_iff` : every text has one reading;
* `pieces_eq_error_iff` : a segment is refused for its first offence;
* `ofSegment_grammar` : the parts of a segment and the faults follow the grammar.
-/

namespace SelectorPreview

namespace Segment

/-! ## The only reading of a text -/

/-- A text is the text of a reading, and its marks are those in front of the names. -/
structure IsReading (s : List Char) (reading : Reading) : Prop where
  text_eq : reading.text = s
  tag_unmarked : ∀ c ∈ reading.tag, Mark.ofChar? c = none
  names_unmarked : ∀ name ∈ reading.names, ∀ c ∈ name.2, Mark.ofChar? c = none

/-- A text without marks goes into the tag. -/
theorem readingOf_append {letters : List Char} (h : ∀ c ∈ letters, Mark.ofChar? c = none)
    (rest : List Char) :
    readingOf (letters ++ rest) =
      { readingOf rest with tag := letters ++ (readingOf rest).tag } := by
  induction letters with
  | nil => rfl
  | cons c letters ih =>
    rw [List.cons_append, readingOf_cons_letter (h c (by simp)),
      ih fun d hd => h d (List.mem_cons_of_mem c hd)]
    rfl

/-- Names that are written one behind another are divided into the same names. -/
theorem readingOf_written {names : List (Mark × List Char)}
    (h : ∀ name ∈ names, ∀ c ∈ name.2, Mark.ofChar? c = none) :
    readingOf (names.flatMap written) = { names := names } := by
  induction names with
  | nil => rfl
  | cons name names ih =>
    have hmark : Mark.ofChar? name.1.char = some name.1 := Mark.ofChar?_eq_some_iff.2 rfl
    rw [List.flatMap_cons, written, List.cons_append, readingOf_cons_mark hmark,
      readingOf_append (h name (by simp)), ih fun other hother => h other (by simp [hother])]
    simp

/-- A text is divided at all of its marks. -/
theorem ofChar?_readingOf (s : List Char) :
    (∀ c ∈ (readingOf s).tag, Mark.ofChar? c = none) ∧
      ∀ name ∈ (readingOf s).names, ∀ c ∈ name.2, Mark.ofChar? c = none := by
  induction s with
  | nil => simp [readingOf]
  | cons c rest ih =>
    obtain ⟨htag, hnames⟩ := ih
    cases hmark : Mark.ofChar? c with
    | some mark =>
      rw [readingOf_cons_mark hmark]
      exact ⟨by simp, List.forall_mem_cons.2 ⟨htag, hnames⟩⟩
    | none =>
      rw [readingOf_cons_letter hmark]
      exact ⟨List.forall_mem_cons.2 ⟨hmark, htag⟩, hnames⟩

/-- **Every text has one reading.** -/
theorem isReading_iff {s : List Char} {reading : Reading} :
    IsReading s reading ↔ reading = readingOf s := by
  constructor
  · rintro ⟨rfl, htag, hnames⟩
    rw [Reading.text, readingOf_append htag, readingOf_written hnames]
    simp
  · rintro rfl
    exact ⟨text_readingOf s, (ofChar?_readingOf s).1, (ofChar?_readingOf s).2⟩

/-- A tag and names out of which a segment can be built: they hold no marks and no forbidden
characters, and no name is empty. -/
structure Reading.Plain (reading : Reading) : Prop where
  tag : ∀ c ∈ reading.tag, Mark.ofChar? c = none ∧ isForbidden c = false
  names : ∀ name ∈ reading.names, name.2 ≠ [] ∧
    ∀ c ∈ name.2, Mark.ofChar? c = none ∧ isForbidden c = false

/-! ## Offences -/

/-- A mark stands at a position of a text. -/
def MarkAt (s : List Char) (i : Nat) : Prop := ∃ c ∈ s[i]?, (Mark.ofChar? c).isSome = true

/-- A name begins at a position of a text, right behind its mark. -/
def NameBeginsAt (s : List Char) (i : Nat) : Prop := ∃ j, i = j + 1 ∧ MarkAt s j

/-- A name, or the tag, ends at a position of a text: at a mark, or where the text ends. -/
def NameEndsAt (s : List Char) (i : Nat) : Prop := MarkAt s i ∨ i = s.length

/-- An offence at a position of a text: a forbidden character stands there, or a name ends there that
begins there too, so that it is empty. -/
def OffenceAt (s : List Char) (i : Nat) : Fault → Prop
  | .forbidden c => s[i]? = some c ∧ isForbidden c = true
  | .emptyName => NameBeginsAt s i ∧ NameEndsAt s i

/-- The first offence of a text from a position on. -/
def FirstOffenceFrom (s : List Char) (start : Nat) (fault : Fault) : Prop :=
  ∃ i, start ≤ i ∧ OffenceAt s i fault ∧ ∀ j, start ≤ j → j < i → ∀ other, ¬ OffenceAt s j other

/-- The first offence of a text, in reading order. -/
def FirstOffence (s : List Char) (fault : Fault) : Prop :=
  ∃ i, OffenceAt s i fault ∧ ∀ j < i, ∀ other, ¬ OffenceAt s j other

/-- The first offence is at the start, or else it is the first one behind it. -/
theorem firstOffenceFrom_iff {s : List Char} {start : Nat} {fault : Fault} :
    FirstOffenceFrom s start fault ↔
      OffenceAt s start fault ∨
        (∀ other, ¬ OffenceAt s start other) ∧ FirstOffenceFrom s (start + 1) fault := by
  constructor
  · rintro ⟨i, hi, hoffence, hfirst⟩
    rcases Nat.eq_or_lt_of_le hi with rfl | hlater
    · exact Or.inl hoffence
    · exact Or.inr ⟨hfirst start (Nat.le_refl start) hlater,
        i, hlater, hoffence, fun j hj => hfirst j (Nat.le_of_succ_le hj)⟩
  · rintro (hoffence | ⟨hnone, i, hi, hoffence, hfirst⟩)
    · exact ⟨start, Nat.le_refl start, hoffence, fun j hj hlt => absurd hlt (Nat.not_lt.2 hj)⟩
    · refine ⟨i, Nat.le_of_succ_le hi, hoffence, ?_⟩
      intro j hj hlt
      rcases Nat.eq_or_lt_of_le hj with rfl | hlater
      · exact hnone
      · exact hfirst j hlater hlt

/-- Behind the end of a text there is no offence. -/
theorem not_firstOffenceFrom_of_length_lt {s : List Char} {start : Nat} {fault : Fault}
    (h : s.length < start) : ¬ FirstOffenceFrom s start fault := by
  rintro ⟨i, hi, hoffence, -⟩
  have hnone : s[i]? = none := List.getElem?_eq_none_iff.2 (by omega)
  cases fault with
  | forbidden c => simp [OffenceAt, hnone] at hoffence
  | emptyName =>
    obtain ⟨-, ⟨c, hc, -⟩ | hend⟩ := hoffence
    · simp [hnone] at hc
    · omega

section

variable {done rest : List Char} {c : Char} {fault : Fault}

/-- A mark stands behind a text if it is the next character. -/
theorem markAt_length_iff :
    MarkAt (done ++ c :: rest) done.length ↔ (Mark.ofChar? c).isSome = true := by
  simp [MarkAt]

/-- A name begins behind a character if this is a mark. -/
theorem nameBeginsAt_length_add_one_iff :
    NameBeginsAt (done ++ c :: rest) (done.length + 1) ↔ (Mark.ofChar? c).isSome = true := by
  constructor
  · rintro ⟨j, hj, hmark⟩
    rw [← Nat.add_right_cancel hj] at hmark
    exact markAt_length_iff.1 hmark
  · exact fun h => ⟨done.length, rfl, markAt_length_iff.2 h⟩

/-- The only offence at a mark is that the name before it is empty. -/
theorem offenceAt_mark_iff {mark : Mark} (h : Mark.ofChar? c = some mark) :
    OffenceAt (done ++ c :: rest) done.length fault ↔
      NameBeginsAt (done ++ c :: rest) done.length ∧ fault = .emptyName := by
  cases fault with
  | forbidden d =>
    have hne : c = d → isForbidden d = false := fun heq => heq ▸ isForbidden_of_mark h
    simpa [OffenceAt] using hne
  | emptyName => simp [OffenceAt, NameEndsAt, markAt_length_iff, h]

/-- A forbidden character is the only offence at its position. -/
theorem offenceAt_forbidden_iff (h : Mark.ofChar? c = none) (hforbidden : isForbidden c = true) :
    OffenceAt (done ++ c :: rest) done.length fault ↔ fault = .forbidden c := by
  cases fault with
  | forbidden d =>
    simp only [OffenceAt, List.getElem?_append_right (Nat.le_refl _), Nat.sub_self,
      List.getElem?_cons_zero, Option.some.injEq, Fault.forbidden.injEq]
    exact ⟨fun hd => hd.1.symm, fun hd => ⟨hd.symm, hd ▸ hforbidden⟩⟩
  | emptyName => simp [OffenceAt, NameEndsAt, markAt_length_iff, h]

/-- There is no offence at any other character. -/
theorem not_offenceAt_letter (h : Mark.ofChar? c = none) (hallowed : isForbidden c = false) :
    ¬ OffenceAt (done ++ c :: rest) done.length fault := by
  cases fault with
  | forbidden d =>
    have hne : c = d → isForbidden d = false := fun heq => heq ▸ hallowed
    simpa [OffenceAt] using hne
  | emptyName => simp [OffenceAt, NameEndsAt, markAt_length_iff, h]

/-- The only offence at the end of a text is that the last name is empty. -/
theorem offenceAt_end_iff :
    OffenceAt done done.length fault ↔ NameBeginsAt done done.length ∧ fault = .emptyName := by
  cases fault with
  | forbidden d => simp [OffenceAt]
  | emptyName => simp [OffenceAt, NameEndsAt]

end

/-- **A segment is refused for its first offence.** -/
theorem pieces_eq_error_iff {done input : List Char} {mark : Option Mark} {letters : List Char}
    {fault : Fault}
    (hstart : (mark.isSome = true ∧ letters = []) ↔ NameBeginsAt (done ++ input) done.length) :
    pieces mark letters input = .error fault ↔
      FirstOffenceFrom (done ++ input) done.length fault := by
  -- The reader stands behind `done`, and its state tells whether a name begins there.
  induction input generalizing done mark letters with
  | nil =>
    have hlater : ¬ FirstOffenceFrom done (done.length + 1) fault :=
      not_firstOffenceFrom_of_length_lt (Nat.lt_succ_self _)
    rw [List.append_nil] at hstart ⊢
    rw [firstOffenceFrom_iff, offenceAt_end_iff, ← hstart]
    simp [pieces, map_eq_error_iff, finish_eq_error_iff, hlater, and_assoc]
  | cons c rest ih =>
    have hmore : done ++ c :: rest = (done ++ [c]) ++ rest := by simp
    have hlength : done.length + 1 = (done ++ [c]).length := by simp
    have hrest : ∀ (next : Option Mark) (others : List Char),
        (next.isSome = true ∧ others = [] ↔ (Mark.ofChar? c).isSome = true) →
          (pieces next others rest = .error fault ↔
            FirstOffenceFrom (done ++ c :: rest) (done.length + 1) fault) := by
      intro next others hbegin
      rw [hmore, hlength]
      apply ih
      rw [← hmore, ← hlength, nameBeginsAt_length_add_one_iff, hbegin]
    rw [firstOffenceFrom_iff]
    cases hmark : Mark.ofChar? c with
    | some next =>
      have hnext := hrest (some next) [] (by simp [hmark])
      have hnone : (∀ other, ¬ OffenceAt (done ++ c :: rest) done.length other) ↔
          ¬ (mark.isSome = true ∧ letters = []) := by
        simp only [offenceAt_mark_iff hmark, ← hstart]
        exact ⟨fun h hempty => h .emptyName ⟨hempty, rfl⟩, fun h _ hempty => h hempty.1⟩
      rw [pieces_cons_mark hmark, hnone, offenceAt_mark_iff hmark, ← hstart]
      simp [bind_eq_error_iff, map_eq_error_iff, finish_eq_error_iff, finish_eq_ok_iff, hnext,
        and_assoc]
    | none =>
      cases hforbidden : isForbidden c with
      | true =>
        simp [offenceAt_forbidden_iff hmark hforbidden, pieces_cons_forbidden hmark hforbidden,
          eq_comm]
      | false =>
        have hletter := hrest mark (c :: letters) (by simp [hmark])
        simp [pieces_cons_letter hmark hforbidden, not_offenceAt_letter hmark hforbidden, hletter]

/-- The first offence of a text is the first one from its beginning on. -/
theorem firstOffence_iff {s : List Char} {fault : Fault} :
    FirstOffence s fault ↔ FirstOffenceFrom s 0 fault := by
  simp [FirstOffence, FirstOffenceFrom]

/-- A whole segment is refused for its first offence. -/
theorem pieces_segment_eq_error_iff {s : List Char} {fault : Fault} :
    pieces none [] s = .error fault ↔ FirstOffence s fault := by
  have hstart : ((none : Option Mark).isSome = true ∧ ([] : List Char) = []) ↔
      NameBeginsAt ([] ++ s) ([] : List Char).length := by
    simp [NameBeginsAt]
  rw [firstOffence_iff]
  exact pieces_eq_error_iff hstart

end Segment

namespace Parts

open Segment

/-- A segment has no parts exactly if there is an offence in it. The error names the whole segment and
the first offence. -/
theorem ofSegment_eq_error_iff {segment : String} {e : PreviewError} :
    ofSegment segment = .error e ↔
      ∃ fault, FirstOffence segment.toList fault ∧ e = .invalidSegment segment fault.reason := by
  have hparts : ofSegment segment = .error e ↔
      ∃ fault, Segment.parts segment = .error fault ∧
        e = .invalidSegment segment fault.reason := by
    unfold ofSegment
    cases Segment.parts segment <;> simp [eq_comm]
  have hpieces : ∀ fault, Segment.parts segment = .error fault ↔
      pieces none [] segment.toList = .error fault := by
    intro fault
    unfold Segment.parts
    cases pieces none [] segment.toList <;> simp [bind, Except.bind, pure, Except.pure]
  simp only [hparts, hpieces, pieces_segment_eq_error_iff]

/-- A segment that is built out of a tag and names has these as its parts. -/
theorem ofSegment_text {reading : Reading} (h : reading.Plain) :
    ofSegment (String.ofList reading.text) = .ok reading.parts := by
  have hreading : reading = readingOf reading.text :=
    isReading_iff.1 ⟨rfl, fun c hc => (h.tag c hc).1, fun name hname c hc =>
      ((h.names name hname).2 c hc).1⟩
  rw [ofSegment_eq_ok_iff, String.toList_ofList, ← hreading]
  refine ⟨?_, fun name hname => (h.names name hname).1, rfl⟩
  intro c hc
  rw [Reading.text, List.mem_append, List.mem_flatMap] at hc
  rcases hc with htag | ⟨name, hname, hc⟩
  · exact (h.tag c htag).2
  · rcases List.mem_cons.1 hc with rfl | hletter
    · exact isForbidden_of_mark (Mark.ofChar?_eq_some_iff.2 rfl)
    · exact ((h.names name hname).2 c hletter).2

/-- **Segments are taken apart by their grammar.** A segment has one reading as a tag and marked names.
It has parts exactly if it holds no forbidden character and no name is empty, and the parts are those
of the reading: the tag, the names behind each kind of mark in order. Otherwise the error names the
whole segment and its first offence. So a segment that is built out of a tag and names gives these
back. -/
theorem ofSegment_grammar (segment : String) :
    (∃ reading, (∀ other, IsReading segment.toList other ↔ other = reading) ∧
      ∀ parts, ofSegment segment = .ok parts ↔
        IsClean segment.toList ∧ (∀ name ∈ reading.names, name.2 ≠ []) ∧
          parts = reading.parts) ∧
    (∀ e, ofSegment segment = .error e ↔
      ∃ fault, FirstOffence segment.toList fault ∧ e = .invalidSegment segment fault.reason) ∧
    ∀ reading : Reading, reading.Plain →
      ofSegment (String.ofList reading.text) = .ok reading.parts :=
  ⟨⟨readingOf segment.toList, fun _ => isReading_iff, fun _ => ofSegment_eq_ok_iff⟩,
    fun _ => ofSegment_eq_error_iff, fun _ => ofSegment_text⟩

/-- A main part that is big and wide. -/
def wideMain : Reading where
  tag := "div".toList
  names := [(.identifier, "main".toList), (.className, "big".toList), (.className, "wide".toList)]

/-- The main part is built and taken apart again. With a mark too many and a quote behind it, the
mark is met first. -/
theorem grammar_wideMain :
    wideMain.Plain ∧ String.ofList wideMain.text = "div#main.big.wide" ∧
      wideMain.parts = { tag := "div", classes := ["big", "wide"], ids := ["main"] } ∧
      ofSegment (String.ofList wideMain.text) = .ok wideMain.parts ∧
      ofSegment "div#main..\"" =
        .error (.invalidSegment "div#main..\"" Fault.emptyName.reason) ∧
      ∃ fault, FirstOffence "div#main..\"".toList fault ∧
        fault.reason = Fault.emptyName.reason := by
  have hplain : wideMain.Plain :=
    ⟨by simp [wideMain, Mark.ofChar?, isForbidden], by simp [wideMain, Mark.ofChar?, isForbidden]⟩
  have herror : ofSegment "div#main..\"" =
      .error (.invalidSegment "div#main..\"" Fault.emptyName.reason) := by
    decide +kernel
  obtain ⟨fault, hfirst, heq⟩ := ((ofSegment_grammar "div#main..\"").2.1 _).1 herror
  refine ⟨hplain, by decide, by decide +kernel,
    (ofSegment_grammar "div#main.big.wide").2.2 wideMain hplain, herror, fault, hfirst, ?_⟩
  rw [PreviewError.invalidSegment.injEq] at heq
  exact heq.2.symm

end Parts

end SelectorPreview
