import Mathlib.Data.List.Basic
import SelectorPreview.Segment
import SelectorPreview.Proofs.Results
/-!
# The names of a segment

The marks of a segment divide it into a tag and names. The segment is read letter by letter; a letter
ends the name before it, or is refused, or goes on with the name, and what comes of it are the names
between the marks. So no character that could break out of a tag is in the parts of a segment.

* `pieces_eq_ok_iff` : what a segment has to be like, and which names are read then;
* `ofSegment_eq_ok_iff` : the same of the parts of a segment;
* `tag_ofSegment` : the tag is the text before the first mark;
* `clean_ofSegment` : the parts of a segment are clean.
-/

namespace SelectorPreview

namespace Segment

/-! ## Marks -/

/-- The character that sets a mark. -/
def Mark.char : Mark → Char
  | .className => '.'
  | .identifier => '#'

/-- A mark is set by its character and by no other. -/
theorem Mark.ofChar?_eq_some_iff {c : Char} {mark : Mark} :
    ofChar? c = some mark ↔ c = mark.char := by
  unfold ofChar?
  split <;> cases mark <;> simp_all [Mark.char]

/-- A mark is not forbidden. -/
theorem isForbidden_of_mark {c : Char} {mark : Mark} (h : Mark.ofChar? c = some mark) :
    isForbidden c = false := by
  obtain rfl := Mark.ofChar?_eq_some_iff.1 h
  cases mark <;> rfl

/-- The part of a text before its first mark. -/
def unmarked (s : List Char) : List Char := s.takeWhile fun c => (Mark.ofChar? c).isNone

/-- Behind the part of a text before its first mark there is a mark, or nothing. -/
theorem exists_unmarked_append (s : List Char) :
    ∃ rest, unmarked s ++ rest = s ∧ ∀ c ∈ rest.head?, (Mark.ofChar? c).isSome = true := by
  refine ⟨s.dropWhile fun c => (Mark.ofChar? c).isNone, List.takeWhile_append_dropWhile, ?_⟩
  intro c hc
  have hhead := List.head?_dropWhile_not (fun c => (Mark.ofChar? c).isNone) s
  rw [Option.mem_def.1 hc] at hhead
  simpa using hhead

/-! ## Readings -/

/-- A segment as its marks divide it: the text before the first mark, and behind each mark the text
up to the next one. -/
structure Reading where
  tag : List Char := []
  names : List (Mark × List Char) := []
  deriving DecidableEq

/-- A name as it is written, with its mark in front. -/
def written (name : Mark × List Char) : List Char := name.1.char :: name.2

/-- The text of a reading. -/
def Reading.text (reading : Reading) : List Char := reading.tag ++ reading.names.flatMap written

/-- Divides a text at its marks, from its end. -/
def readingOf : List Char → Reading
  | [] => {}
  | c :: rest =>
    let others := readingOf rest
    match Mark.ofChar? c with
    | some mark => { names := (mark, others.tag) :: others.names }
    | none => { others with tag := c :: others.tag }

section

variable {c : Char} {rest : List Char}

/-- A mark in front of a text makes a name of the tag. -/
theorem readingOf_cons_mark {mark : Mark} (h : Mark.ofChar? c = some mark) :
    readingOf (c :: rest) =
      { names := (mark, (readingOf rest).tag) :: (readingOf rest).names } := by
  simp only [readingOf, h]

/-- Any other character belongs to the tag. -/
theorem readingOf_cons_letter (h : Mark.ofChar? c = none) :
    readingOf (c :: rest) = { readingOf rest with tag := c :: (readingOf rest).tag } := by
  simp only [readingOf, h]

end

/-- Nothing of a text is lost when it is divided. -/
theorem text_readingOf (s : List Char) : (readingOf s).text = s := by
  induction s with
  | nil => rfl
  | cons c rest ih =>
    unfold Reading.text at ih ⊢
    cases hmark : Mark.ofChar? c with
    | some mark =>
      rw [readingOf_cons_mark hmark]
      simp [written, ih, ← Mark.ofChar?_eq_some_iff.1 hmark]
    | none =>
      rw [readingOf_cons_letter hmark]
      simp [ih]

/-- The tag of a text is its part before the first mark. -/
theorem tag_readingOf (s : List Char) : (readingOf s).tag = unmarked s := by
  unfold unmarked
  induction s with
  | nil => rfl
  | cons c rest ih =>
    cases hmark : Mark.ofChar? c with
    | some mark => simp [readingOf_cons_mark hmark, hmark]
    | none => simp [readingOf_cons_letter hmark, hmark, ih]

/-- What is in the tag of a text, or in one of its names, is in the text. -/
theorem mem_of_mem_readingOf {s : List Char} {c : Char}
    (h : c ∈ (readingOf s).tag ∨ ∃ name ∈ (readingOf s).names, c ∈ name.2) : c ∈ s := by
  rw [← text_readingOf s, Reading.text, List.mem_append, List.mem_flatMap]
  rcases h with htag | ⟨name, hname, hc⟩
  · exact Or.inl htag
  · exact Or.inr ⟨name, hname, List.mem_cons_of_mem _ hc⟩

/-- The names of a reading behind one mark, in order. -/
def Reading.namesBehind (reading : Reading) (mark : Mark) : List String :=
  (reading.names.filter (·.1 == mark)).map (String.ofList ·.2)

/-- The names of a reading, among which the tag is the one without a mark. -/
def Reading.pieces (reading : Reading) : List Piece :=
  (none, reading.tag) :: reading.names.map fun name => (some name.1, name.2)

/-- The tag is the only name without a mark. -/
theorem named_none_pieces (reading : Reading) :
    named none reading.pieces = [String.ofList reading.tag] := by
  simp [named, Reading.pieces, List.filter_map, Function.comp_def]

/-- The names behind a mark are those that carry it. -/
theorem named_some_pieces (reading : Reading) (mark : Mark) :
    named (some mark) reading.pieces = reading.namesBehind mark := by
  simp [named, Reading.pieces, Reading.namesBehind, List.filter_map, Function.comp_def]

/-- What a reading tells of the parts of a segment. -/
def Reading.parts (reading : Reading) : Parts where
  tag := String.ofList reading.tag
  classes := reading.namesBehind .className
  ids := reading.namesBehind .identifier

/-- A name behind a mark is one of the names of the text. -/
theorem exists_name_of_mem_namesBehind {reading : Reading} {mark : Mark} {s : String}
    (h : s ∈ reading.namesBehind mark) : ∃ name ∈ reading.names, s.toList = name.2 := by
  obtain ⟨name, hname, rfl⟩ := List.mem_map.1 h
  exact ⟨name, List.mem_of_mem_filter hname, String.toList_ofList⟩

/-- What is in a name behind a mark is in the text. -/
theorem mem_of_mem_namesBehind {s : List Char} {mark : Mark} {name : String} {c : Char}
    (h : name ∈ (readingOf s).namesBehind mark) (hc : c ∈ name.toList) : c ∈ s := by
  obtain ⟨written, hwritten, heq⟩ := exists_name_of_mem_namesBehind h
  exact mem_of_mem_readingOf (Or.inr ⟨written, hwritten, heq ▸ hc⟩)

/-! ## Reading letter by letter -/

/-- A name can be ended unless it is empty and behind a mark. -/
theorem finish_eq_ok_iff {mark : Option Mark} {name : List Char} {piece : Piece} :
    finish mark name = .ok piece ↔ (mark.isSome = true → name ≠ []) ∧ piece = (mark, name) := by
  unfold finish
  split
  · rename_i hempty
    obtain ⟨hmark, hname⟩ := Bool.and_eq_true_iff.1 hempty
    constructor
    · rintro ⟨⟩
    · rintro ⟨hne, -⟩
      exact absurd (List.isEmpty_iff.1 hname) (hne hmark)
  · rename_i hsome
    have hne : mark.isSome = true → name ≠ [] := by
      rintro hmark rfl
      exact hsome (by simp [hmark])
    exact ⟨fun h => ⟨hne, (Except.ok.inj h).symm⟩, fun h => by rw [h.2]⟩

/-- What cannot be ended is an empty name behind a mark. -/
theorem finish_eq_error_iff {mark : Option Mark} {name : List Char} {fault : Fault} :
    finish mark name = .error fault ↔
      mark.isSome = true ∧ name = [] ∧ fault = .emptyName := by
  unfold finish
  split
  · rename_i hempty
    obtain ⟨hmark, hname⟩ := Bool.and_eq_true_iff.1 hempty
    exact ⟨fun h => ⟨hmark, List.isEmpty_iff.1 hname, (Except.error.inj h).symm⟩,
      fun h => by rw [h.2.2]⟩
  · rename_i hsome
    constructor
    · rintro ⟨⟩
    · rintro ⟨hmark, rfl, -⟩
      exact absurd (by simp [hmark]) hsome

section

variable {mark : Option Mark} {letters : List Char} {c : Char} {rest : List Char}

/-- A mark ends the name before it and begins the next one. -/
theorem pieces_cons_mark {next : Mark} (h : Mark.ofChar? c = some next) :
    pieces mark letters (c :: rest) =
      (finish mark letters.reverse).bind fun piece =>
        (pieces (some next) [] rest).map (piece :: ·) := by
  rw [pieces]
  simp only [h]
  cases finish mark letters.reverse with
  | error fault => rfl
  | ok piece => cases pieces (some next) [] rest <;> rfl

/-- A letter that is allowed belongs to the name being read. -/
theorem pieces_cons_letter (h : Mark.ofChar? c = none) (hallowed : isForbidden c = false) :
    pieces mark letters (c :: rest) = pieces mark (c :: letters) rest := by
  rw [pieces]
  simp [h, hallowed]

/-- A forbidden letter is an offence at once. -/
theorem pieces_cons_forbidden (h : Mark.ofChar? c = none) (hforbidden : isForbidden c = true) :
    pieces mark letters (c :: rest) = .error (.forbidden c) := by
  rw [pieces]
  simp [h, hforbidden]

end

/-- No character of a text is forbidden in a tag or an attribute value. -/
def IsClean (s : List Char) : Prop := ∀ c ∈ s, isForbidden c = false

/-- **A segment can be read exactly if it is clean and no mark is without a name,** and then it is
read as its marks divide it. -/
theorem pieces_eq_ok_iff {mark : Option Mark} {letters input : List Char} {names : List Piece} :
    pieces mark letters input = .ok names ↔
      IsClean input ∧
      (mark.isSome = true → letters.reverse ++ (readingOf input).tag ≠ []) ∧
      (∀ name ∈ (readingOf input).names, name.2 ≠ []) ∧
      names = (mark, letters.reverse ++ (readingOf input).tag) ::
        (readingOf input).names.map fun name => (some name.1, name.2) := by
  -- The letters read so far go on with the tag of the rest; a mark begins a name without letters.
  induction input generalizing mark letters names with
  | nil => simp [pieces, map_eq_ok_iff, finish_eq_ok_iff, readingOf, IsClean]
  | cons c rest ih =>
    cases hmark : Mark.ofChar? c with
    | some next =>
      have hclean : IsClean (c :: rest) ↔ IsClean rest := by
        simp [IsClean, isForbidden_of_mark hmark]
      simp only [pieces_cons_mark hmark, bind_eq_ok_iff, map_eq_ok_iff, finish_eq_ok_iff, ih,
        readingOf_cons_mark hmark, hclean]
      simp [and_assoc, and_left_comm]
    | none =>
      cases hforbidden : isForbidden c with
      | true =>
        have hclean : ¬ IsClean (c :: rest) := by simp [IsClean, hforbidden]
        simp [pieces_cons_forbidden hmark hforbidden, hclean]
      | false =>
        have hclean : IsClean (c :: rest) ↔ IsClean rest := by simp [IsClean, hforbidden]
        simp [pieces_cons_letter hmark hforbidden, readingOf_cons_letter hmark, hclean, ih]

/-- A whole segment is read into the names of its reading. -/
theorem pieces_segment_eq_ok_iff {s : List Char} {names : List Piece} :
    pieces none [] s = .ok names ↔
      IsClean s ∧ (∀ name ∈ (readingOf s).names, name.2 ≠ []) ∧ names = (readingOf s).pieces := by
  rw [pieces_eq_ok_iff]
  simp [Reading.pieces]

end Segment

namespace Parts

open Segment

/-- **A segment has parts exactly if it is clean and no mark is without a name;** they are those that
its marks divide it into. -/
theorem ofSegment_eq_ok_iff {segment : String} {parts : Parts} :
    ofSegment segment = .ok parts ↔
      IsClean segment.toList ∧ (∀ name ∈ (readingOf segment.toList).names, name.2 ≠ []) ∧
        parts = (readingOf segment.toList).parts := by
  have hparts : ofSegment segment = .ok parts ↔ Segment.parts segment = .ok parts := by
    unfold ofSegment
    cases Segment.parts segment <;> simp
  have hnames : Segment.parts segment = .ok parts ↔
      ∃ names, pieces none [] segment.toList = .ok names ∧
        parts = ⟨"".intercalate (named none names), named (some .className) names,
          named (some .identifier) names⟩ := by
    unfold Segment.parts
    cases pieces none [] segment.toList <;> simp [bind, Except.bind, pure, Except.pure, eq_comm]
  rw [hparts, hnames]
  simp [pieces_segment_eq_ok_iff, named_none_pieces, named_some_pieces, Reading.parts, and_assoc]

/-- No character of the tag, a class or an identifier is forbidden. -/
structure Clean (parts : Parts) : Prop where
  tag : IsClean parts.tag.toList
  classes : ∀ s ∈ parts.classes, IsClean s.toList
  ids : ∀ s ∈ parts.ids, IsClean s.toList

/-- A segment without parts is clean. -/
theorem clean_default : Clean {} :=
  ⟨fun c hc => absurd hc (by simp), fun s hs => absurd hs List.not_mem_nil,
    fun s hs => absurd hs List.not_mem_nil⟩

/-- The parts of a segment are clean. -/
theorem clean_ofSegment {segment : String} {parts : Parts} (h : ofSegment segment = .ok parts) :
    Clean parts := by
  obtain ⟨hclean, -, rfl⟩ := ofSegment_eq_ok_iff.1 h
  have hnames : ∀ mark, ∀ s ∈ (readingOf segment.toList).namesBehind mark, IsClean s.toList :=
    fun mark s hs c hc => hclean c (mem_of_mem_namesBehind hs hc)
  refine ⟨?_, hnames _, hnames _⟩
  intro c hc
  rw [Reading.parts, String.toList_ofList] at hc
  exact hclean c (mem_of_mem_readingOf (Or.inl hc))

/-- The tag of a segment is the text before its first mark. -/
theorem tag_ofSegment {segment : String} {parts : Parts} (h : ofSegment segment = .ok parts) :
    parts.tag.toList = unmarked segment.toList := by
  obtain ⟨-, -, rfl⟩ := ofSegment_eq_ok_iff.1 h
  rw [Reading.parts, String.toList_ofList, tag_readingOf]

end Parts

end SelectorPreview
