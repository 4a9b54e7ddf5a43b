import SelectorPreview.Proofs.TagScan
/-!
# Reading tags with a stack

A reader goes through markup and keeps the names of the elements that are open. A tag that does not
begin with a slash opens the element of its name, which is its text up to the first space; an end tag
has to name the innermost element, and closes it. Two tags stand for themselves: that of an image and
the line break.

`Leads` says what elements are open before and after a text. It is kept when texts are put one behind
another and when more elements are open around all of it.

* `Leads.append`, `Leads.inside` : texts behind one another, and inside of open elements;
* `leads_of_text`, `leads_tag` : what texts and tags do;
* `afterTag?_opening`, `afterTag?_closing` : which elements tags open and close.
-/

namespace SelectorPreview.Markup

/-! ## The reader -/

/-- The name of a tag: its text up to the first space. -/
def tagName (tag : List Char) : List Char := tag.takeWhile (· != ' ')

/-- The tags that have no end tag: that of an image, and the line break. -/
def isLone (tag : List Char) : Bool := tagName tag == "img".toList || tag == "br/".toList

/-- The elements that are open behind a tag, innermost first; nothing if it is an end tag that does
not name the innermost element. -/
def afterTag? (opened : List (List Char)) (tag : List Char) : Option (List (List Char)) :=
  if isLone tag then some opened
  else
    match tag with
    | '/' :: name =>
      match opened with
      | [] => none
      | innermost :: others => if innermost = name then some others else none
    | tag => some (tagName tag :: opened)

/-- Where a reader of tags stands: the elements that are open, innermost first, and in a tag its
letters so far, last one first. -/
structure Standing where
  opened : List (List Char) := []
  tag : Option (List Char) := none
  deriving DecidableEq

/-- Where a reader stands behind one more character. -/
def Standing.next? (standing : Standing) (c : Char) : Option Standing :=
  match standing.tag with
  | none => some (if c = '<' then { standing with tag := some [] } else standing)
  | some letters =>
    if c = '>' then
      (afterTag? standing.opened letters.reverse).map fun opened => { opened := opened }
    else some { standing with tag := some (c :: letters) }

/-- Where a reader stands behind a text; nothing if it met an end tag that it did not expect. -/
def readTags (standing : Standing) (s : List Char) : Option Standing :=
  s.foldlM Standing.next? standing

/-- A text has only whole tags, and leads from open elements to open elements. -/
def Leads (before : List (List Char)) (s : List Char) (after : List (List Char)) : Prop :=
  readTags { opened := before } s = some { opened := after }

instance (before : List (List Char)) (s : List Char) (after : List (List Char)) :
    Decidable (Leads before s after) :=
  inferInstanceAs (Decidable (readTags { opened := before } s = some { opened := after }))

/-! ## Texts behind one another -/

/-- Two texts are read one after the other. -/
theorem readTags_append (standing : Standing) (s t : List Char) :
    readTags standing (s ++ t) = (readTags standing s).bind (readTags · t) :=
  List.foldlM_append

/-- Where the first text leads to, the second one starts. -/
theorem Leads.append {before between after : List (List Char)} {s t : List Char}
    (hs : Leads before s between) (ht : Leads between t after) : Leads before (s ++ t) after := by
  unfold Leads at hs ⊢
  rw [readTags_append, hs, Option.bind_some]
  exact ht

/-- A text in which no tag begins changes nothing. -/
theorem leads_of_text (opened : List (List Char)) {s : List Char} (h : '<' ∉ s) :
    Leads opened s opened := by
  induction s with
  | nil => rfl
  | cons c rest ih =>
    have hc : c ≠ '<' := fun heq => h (by simp [heq])
    have hstep : Standing.next? { opened := opened } c = some { opened := opened } := by
      simp [Standing.next?, hc]
    unfold Leads readTags
    rw [List.foldlM_cons, hstep]
    exact ih fun hmem => h (List.mem_cons_of_mem c hmem)

/-- The letters of a tag are collected up to its end. -/
theorem readTags_letters (opened : List (List Char)) {tag : List Char} (h : '>' ∉ tag)
    (letters rest : List Char) :
    readTags { opened := opened, tag := some letters } (tag ++ rest) =
      readTags { opened := opened, tag := some (tag.reverse ++ letters) } rest := by
  induction tag generalizing letters with
  | nil => rfl
  | cons c tag ih =>
    have hc : c ≠ '>' := fun heq => h (by simp [heq])
    have hstep : Standing.next? { opened := opened, tag := some letters } c =
        some { opened := opened, tag := some (c :: letters) } := by
      simp [Standing.next?, hc]
    have hrest := ih (fun hmem => h (List.mem_cons_of_mem c hmem)) (c :: letters)
    rw [List.cons_append, readTags, List.foldlM_cons, hstep, List.reverse_cons, List.append_assoc]
    exact hrest

/-- A tag does what its text says. -/
theorem leads_tag {before after : List (List Char)} {tag : List Char} (h : '>' ∉ tag)
    (hafter : afterTag? before tag = some after) : Leads before ('<' :: (tag ++ ['>'])) after := by
  have hend : Standing.next? { opened := before, tag := some tag.reverse } '>' =
      some { opened := after } := by
    simp [Standing.next?, hafter]
  have hread := readTags_letters before h [] ['>']
  rw [List.append_nil] at hread
  show readTags { opened := before, tag := some [] } (tag ++ ['>']) = _
  rw [hread, readTags, List.foldlM_cons, hend]
  rfl

/-! ## Inside of open elements -/

section Inside

variable (outer : List (List Char))

/-- The same place inside of more elements. -/
def Standing.inside (standing : Standing) : Standing :=
  { standing with opened := standing.opened ++ outer }

/-- A tag does the same inside of more elements. -/
theorem afterTag?_append {before after : List (List Char)} {tag : List Char}
    (h : afterTag? before tag = some after) :
    afterTag? (before ++ outer) tag = some (after ++ outer) := by
  unfold afterTag? at h ⊢
  split
  · rename_i hlone
    rw [if_pos hlone, Option.some.injEq] at h
    rw [h]
  · rename_i hlone
    rw [if_neg hlone] at h
    split at h
    · -- An end tag only looks at the innermost element.
      split at h
      · cases h
      · split at h
        · rename_i hname
          simp [hname, Option.some.inj h]
        · cases h
    · simp [← Option.some.inj h]

/-- A character does the same inside of more elements. -/
theorem Standing.next?_inside {standing next : Standing} {c : Char}
    (h : standing.next? c = some next) :
    (standing.inside outer).next? c = some (next.inside outer) := by
  obtain ⟨opened, _ | letters⟩ := standing
  · simp only [next?, Option.some.injEq] at h
    subst h
    simp only [next?, inside]
    split <;> rfl
  · simp only [next?] at h
    simp only [next?, inside]
    split
    · rename_i hend
      rw [if_pos hend] at h
      obtain ⟨after, hafter, rfl⟩ := Option.map_eq_some_iff.1 h
      rw [afterTag?_append outer hafter]
      rfl
    · rename_i hend
      rw [if_neg hend, Option.some.injEq] at h
      subst h
      rfl

/-- A text is read in the same way inside of more elements. -/
theorem readTags_inside {standing last : Standing} {s : List Char}
    (h : readTags standing s = some last) :
    readTags (standing.inside outer) s = some (last.inside outer) := by
  induction s generalizing standing with
  | nil =>
    obtain rfl : standing = last := Option.some.inj h
    rfl
  | cons c rest ih =>
    unfold readTags at h ih ⊢
    rw [List.foldlM_cons] at h ⊢
    obtain ⟨next, hstep, hrest⟩ := Option.bind_eq_some_iff.1 h
    rw [Standing.next?_inside outer hstep]
    exact ih hrest

/-- What leads from open elements to others does so inside of more elements. -/
theorem Leads.inside {before after : List (List Char)} {s : List Char} (h : Leads before s after) :
    Leads (before ++ outer) s (after ++ outer) :=
  readTags_inside outer h

end Inside

/-! ## Opening and closing an element -/

/-- A name that can be read back from an opening tag. -/
structure IsTagName (name : List Char) : Prop where
  spaceFree : ' ' ∉ name
  slash : name.head? ≠ some '/'
  image : name ≠ "img".toList
  lineBreak : name ≠ "br/".toList

instance (name : List Char) : Decidable (IsTagName name) :=
  decidable_of_iff
    (' ' ∉ name ∧ name.head? ≠ some '/' ∧ name ≠ "img".toList ∧ name ≠ "br/".toList)
    ⟨fun h => ⟨h.1, h.2.1, h.2.2.1, h.2.2.2⟩, fun h => ⟨h.1, h.2, h.3, h.4⟩⟩

/-- The name of a tag ends where its attributes begin. -/
theorem tagName_append {name more : List Char} (hspace : ' ' ∉ name)
    (hmore : ∀ c ∈ more.head?, c = ' ') : tagName (name ++ more) = name := by
  have hall : ∀ c ∈ name, (c != ' ') = true := by
    intro c hc
    simpa using fun heq : c = ' ' => hspace (heq ▸ hc)
  rw [tagName, List.takeWhile_append_of_pos hall]
  cases more with
  | nil => simp
  | cons c rest => simp [hmore c rfl]

/-- A tag that begins with a name, and goes on with attributes if at all, opens the element. -/
theorem afterTag?_opening (opened : List (List Char)) {name more : List Char} (h : IsTagName name)
    (hmore : ∀ c ∈ more.head?, c = ' ') : afterTag? opened (name ++ more) = some (name :: opened) := by
  have hname : tagName (name ++ more) = name := tagName_append h.spaceFree hmore
  have hbreak : name ++ more ≠ "br/".toList := by
    intro heq
    cases more with
    | nil => exact h.lineBreak (by simpa using heq)
    | cons c rest =>
      have hspace : ' ' ∈ "br/".toList := by
        rw [← heq, hmore c rfl]
        simp
      exact absurd hspace (by decide)
  have hlone : isLone (name ++ more) = false := by
    simp only [isLone, hname, Bool.or_eq_false_iff, beq_eq_false_iff_ne]
    exact ⟨h.image, hbreak⟩
  unfold afterTag?
  rw [if_neg (by simp [hlone])]
  split
  · rename_i rest heq
    -- A slash in front would be that of the name, or else of the attributes.
    cases name with
    | nil =>
      rw [List.nil_append] at heq
      rw [heq] at hmore
      exact absurd (hmore '/' rfl) (by decide)
    | cons c name =>
      rw [List.cons_append, List.cons.injEq] at heq
      exact absurd (by simp [heq.1]) h.slash
  · rw [hname]

/-- The tag of an image leaves the open elements as they are. -/
theorem afterTag?_image (opened : List (List Char)) {more : List Char}
    (hmore : ∀ c ∈ more.head?, c = ' ') :
    afterTag? opened ("img".toList ++ more) = some opened := by
  have hlone : isLone ("img".toList ++ more) = true := by
    rw [isLone, tagName_append (by decide) hmore]
    simp
  unfold afterTag?
  rw [if_pos hlone]

/-- An end tag closes the element that it names. -/
theorem afterTag?_closing (opened : List (List Char)) (name : List Char) :
    afterTag? (name :: opened) ('/' :: name) = some opened := by
  have hlone : isLone ('/' :: name) = false := by
    simp [isLone, tagName]
  simp [afterTag?, hlone]

end SelectorPreview.Markup
