import Mathlib.Data.List.Perm.Basic
import SelectorPreview.RuleTree
/-!
# The cascade inside a rule

Among the declarations of a rule the last important one of a property tells its value, and if there
is none the last of the others. One pass over the declarations that keeps the latest value of both
kinds finds it. What counts is therefore the order of the important declarations, and for each
property that of the others: a list in which these orders are kept gives the same values, and so
does a rule that is taken from a tree, in which the important declarations come last.

* `value?_eq_foldl` : the value found in one pass;
* `value?_eq_some_iff`, `value?_eq_none_iff` : the value told by the places of the declarations;
* `reordered_swap`, `reordered_importantLast` : which declarations can change places;
* `value?_follows_cascade` : all of this together.
-/

namespace SelectorPreview

open Text

/-! ## Declarations of a property -/

/-- Whether a declaration is one of a property, with or without the mark of importance. -/
def Declaration.sets (property : String) (important : Bool) (d : Declaration) : Bool :=
  sameName d.property property && d.important == important

/-- The last one of some declarations that is of a property, with or without the mark of importance,
gives it a value. -/
def SaidLast (declarations : List Declaration) (property : String) (important : Bool)
    (value : String) : Prop :=
  ∃ before d after, declarations = before ++ d :: after ∧ d.value = value ∧
    d.sets property important = true ∧ ∀ later ∈ after, later.sets property important = false

/-- The value that the last of these declarations gives. -/
def lastSaid? (declarations : List Declaration) (property : String) (important : Bool) :
    Option String :=
  ((declarations.filter (·.sets property important)).getLast?).map (·.value)

section

variable {declarations : List Declaration} {property value : String} {important : Bool}

/-- What is said last is found at the end of the declarations of the property. -/
theorem lastSaid?_eq_some_iff :
    lastSaid? declarations property important = some value ↔
      SaidLast declarations property important value := by
  have hlast : (declarations.filter (·.sets property important)).getLast? =
      declarations.reverse.find? (·.sets property important) := by
    rw [List.getLast?_eq_head?_reverse, ← List.filter_reverse, List.head?_filter]
  rw [lastSaid?, hlast, Option.map_eq_some_iff]
  simp only [List.find?_eq_some_iff_append]
  constructor
  · rintro ⟨d, ⟨hsets, later, earlier, hsplit, hlater⟩, hvalue⟩
    refine ⟨earlier.reverse, d, later.reverse, ?_, hvalue, hsets, ?_⟩
    · rw [← List.reverse_reverse declarations, hsplit]
      simp
    · intro e he
      simpa using hlater e (List.mem_reverse.1 he)
  · rintro ⟨before, d, after, rfl, hvalue, hsets, hafter⟩
    refine ⟨d, ⟨hsets, after.reverse, before.reverse, by simp, ?_⟩, hvalue⟩
    intro e he
    simpa using hafter e (List.mem_reverse.1 he)

/-- Nothing is said of a property without declarations of it. -/
theorem lastSaid?_eq_none_iff :
    lastSaid? declarations property important = none ↔
      ∀ d ∈ declarations, d.sets property important = false := by
  rw [lastSaid?, Option.map_eq_none_iff, List.getLast?_eq_none_iff, List.filter_eq_nil_iff]
  simp only [Bool.not_eq_true]

/-- A declaration in front only counts if nothing is said behind it. -/
theorem lastSaid?_cons (d : Declaration) :
    lastSaid? (d :: declarations) property important =
      (lastSaid? declarations property important).or
        (if d.sets property important then some d.value else none) := by
  unfold lastSaid?
  rw [List.filter_cons]
  split
  · rw [List.getLast?_cons]
    cases (declarations.filter (·.sets property important)).getLast? <;> rfl
  · rw [Option.or_none]

end

namespace Rule

/-- The value of a property is what its important declarations say last, or else the others. -/
theorem value?_eq_or (rule : Rule) (property : String) :
    rule.value? property =
      (lastSaid? rule.declarations property true).or
        (lastSaid? rule.declarations property false) := by
  unfold value? settings lastSaid? Declaration.sets
  rw [Option.map_or]

/-! ## One pass -/

/-- The latest values that declarations have given a property. -/
structure Latest where
  normal : Option String := none
  important : Option String := none

/-- Reads one more declaration. -/
def Latest.read (property : String) (latest : Latest) (d : Declaration) : Latest :=
  if sameName d.property property then
    if d.important then { latest with important := some d.value }
    else { latest with normal := some d.value }
  else latest

/-- The value that counts. -/
def Latest.value? (latest : Latest) : Option String := latest.important.or latest.normal

/-- A pass over some declarations keeps what they say last, and what was said before them if they say
nothing. -/
theorem foldl_read (property : String) (declarations : List Declaration) (latest : Latest) :
    declarations.foldl (Latest.read property) latest =
      { normal := (lastSaid? declarations property false).or latest.normal
        important := (lastSaid? declarations property true).or latest.important } := by
  induction declarations generalizing latest with
  | nil => rfl
  | cons d rest ih =>
    rw [List.foldl_cons, ih, lastSaid?_cons, lastSaid?_cons, Option.or_assoc, Option.or_assoc]
    -- The declaration belongs to one of the two values, or to neither.
    unfold Latest.read Declaration.sets
    cases sameName d.property property <;> cases d.important <;> rfl

/-- **The value of a property is found in one pass** over the declarations. -/
theorem value?_eq_foldl (rule : Rule) (property : String) :
    rule.value? property = (rule.declarations.foldl (Latest.read property) {}).value? := by
  rw [value?_eq_or, foldl_read, Latest.value?, Option.or_none, Option.or_none]

/-! ## The places of the declarations -/

section

variable {rule : Rule} {property value : String}

/-- **Which value a property has:** the last one that is marked as important, or if none is, the last
one. -/
theorem value?_eq_some_iff :
    rule.value? property = some value ↔
      SaidLast rule.declarations property true value ∨
        (∀ d ∈ rule.declarations, d.sets property true = false) ∧
          SaidLast rule.declarations property false value := by
  rw [value?_eq_or, Option.or_eq_some_iff, lastSaid?_eq_some_iff, lastSaid?_eq_some_iff,
    lastSaid?_eq_none_iff]

/-- A property has no value if no declaration is of it. -/
theorem value?_eq_none_iff :
    rule.value? property = none ↔
      ∀ d ∈ rule.declarations, sameName d.property property = false := by
  rw [value?_eq_or, Option.or_eq_none_iff, lastSaid?_eq_none_iff, lastSaid?_eq_none_iff]
  constructor
  · rintro ⟨himportant, hnormal⟩ d hd
    have htrue := himportant d hd
    have hfalse := hnormal d hd
    unfold Declaration.sets at htrue hfalse
    cases hmark : d.important <;> simp_all
  · intro h
    refine ⟨?_, ?_⟩ <;> intro d hd <;> simp [Declaration.sets, h d hd]

end

/-! ## Other orders -/

/-- The declarations in another order. The important ones follow one another as before, and so do
the others of each property. -/
structure Reordered (declarations other : List Declaration) : Prop where
  important : other.filter (·.important) = declarations.filter (·.important)
  normal : ∀ property, other.filter (·.sets property false) =
    declarations.filter (·.sets property false)

section

variable {declarations other : List Declaration}

/-- The same is said last in another order. -/
theorem Reordered.lastSaid?_eq (h : Reordered declarations other) (property : String)
    (important : Bool) :
    lastSaid? other property important = lastSaid? declarations property important := by
  cases important with
  | false => rw [lastSaid?, lastSaid?, h.normal]
  | true =>
    -- The important declarations of the property are found among all important ones.
    have hsplit : ∀ l : List Declaration, l.filter (·.sets property true) =
        (l.filter (·.important)).filter fun d => sameName d.property property := by
      intro l
      rw [List.filter_filter]
      simp [Declaration.sets]
    rw [lastSaid?, lastSaid?, hsplit, hsplit, h.important]

/-- Two declarations behind one another can change places if one of them at most is important, and if
they are not two normal ones of one property. -/
theorem reordered_swap (before after : List Declaration) {d e : Declaration}
    (himportant : d.important = true → e.important = false)
    (hnormal : d.important = false → e.important = false →
      sameName d.property e.property = false) :
    Reordered (before ++ d :: e :: after) (before ++ e :: d :: after) := by
  have hkeep : ∀ p : Declaration → Bool, (p d = true → p e = false) →
      (before ++ e :: d :: after).filter p = (before ++ d :: e :: after).filter p := by
    intro p hp
    rw [List.filter_append, List.filter_append]
    cases hd : p d <;> cases he : p e <;> simp_all
  refine ⟨hkeep _ himportant, fun property => hkeep _ ?_⟩
  intro hd
  simp only [Declaration.sets, Bool.and_eq_true, beq_iff_eq] at hd
  obtain ⟨hname, hmark⟩ := hd
  rw [Declaration.sets]
  cases he : e.important with
  | true => simp
  | false =>
    have hother := hnormal hmark he
    rw [sameName, sameName_iff.1 hname] at hother
    simp only [sameName, beq_eq_false_iff_ne, ne_eq] at hother ⊢
    simp [Ne.symm hother]

/-- The important declarations can all be put last. -/
theorem reordered_importantLast (declarations : List Declaration) :
    Reordered declarations (Declaration.importantLast declarations) := by
  constructor
  · simp [Declaration.importantLast, List.filter_filter]
  · intro property
    rw [Declaration.importantLast, List.filter_append, List.filter_filter, List.filter_filter]
    have hnone : declarations.filter (fun d => d.sets property false && d.important) = [] := by
      simp [Declaration.sets, List.filter_eq_nil_iff]
    rw [hnone, List.append_nil]
    apply List.filter_congr
    intro d _
    cases hd : d.important <;> simp [Declaration.sets, hd]

end

/-- Two rules in which every property has the same value, so that both are out of flow or neither. -/
structure SameValues (rule other : Rule) : Prop where
  value? : ∀ property, other.value? property = rule.value? property
  outOfFlow : other.outOfFlow = rule.outOfFlow

/-- In another order of the declarations every property has the same value. -/
theorem sameValues_of_reordered {rule other : Rule}
    (h : Reordered rule.declarations other.declarations) : SameValues rule other := by
  have hvalue : ∀ property, other.value? property = rule.value? property := by
    intro property
    rw [value?_eq_or, value?_eq_or, h.lastSaid?_eq, h.lastSaid?_eq]
  refine ⟨hvalue, ?_⟩
  rw [outOfFlow, outOfFlow, hvalue]

/-- **The value of a property follows the cascade.** It is found in one pass over the declarations.
It is the last important one, or else the last of the others, up to the case of the letters in the
name of the property, and there is none if no declaration is of the property. A rule that is taken
from a tree, with the important declarations last, has the values that its declarations have in source
order, and so has one in any other order of them. -/
theorem value?_follows_cascade (rule : Rule) :
    (∀ property,
      rule.value? property = (rule.declarations.foldl (Latest.read property) {}).value? ∧
      (∀ value, rule.value? property = some value ↔
        SaidLast rule.declarations property true value ∨
          (∀ d ∈ rule.declarations, d.sets property true = false) ∧
            SaidLast rule.declarations property false value) ∧
      (rule.value? property = none ↔
        ∀ d ∈ rule.declarations, sameName d.property property = false)) ∧
    (∀ nested, ∃ taken ∈ (RuleNode.style rule.selectors rule.declarations nested).rule?,
      SameValues rule taken) ∧
    ∀ other : Rule, Reordered rule.declarations other.declarations → SameValues rule other := by
  refine ⟨fun property => ⟨value?_eq_foldl rule property, fun _ => value?_eq_some_iff,
    value?_eq_none_iff⟩, ?_, fun _ => sameValues_of_reordered⟩
  intro nested
  exact ⟨_, rfl, sameValues_of_reordered (reordered_importantLast rule.declarations)⟩

/-- A banner that is fixed by an important declaration, whatever is declared behind it. -/
def fixedBanner : Rule where
  selectors := [".banner"]
  declarations := [⟨"position", "fixed", true⟩, ⟨"color", "red", false⟩,
    ⟨"Position", "static", false⟩]

/-- The same banner with its color in front. -/
def coloredBanner : Rule where
  selectors := [".banner"]
  declarations := [⟨"color", "red", false⟩, ⟨"position", "fixed", true⟩,
    ⟨"Position", "static", false⟩]

/-- Both banners are fixed. -/
theorem cascade_fixedBanner :
    Reordered fixedBanner.declarations coloredBanner.declarations ∧
      fixedBanner.value? "POSITION" = some "fixed" ∧
      coloredBanner.value? "POSITION" = some "fixed" ∧ coloredBanner.outOfFlow = true := by
  have hswap : Reordered fixedBanner.declarations coloredBanner.declarations :=
    reordered_swap [] [⟨"Position", "static", false⟩] (by decide) (by decide)
  have hvalue : fixedBanner.value? "POSITION" = some "fixed" := by decide
  have hout : fixedBanner.outOfFlow = true := by decide
  obtain ⟨-, -, hsame⟩ := value?_follows_cascade fixedBanner
  have hvalues := hsame coloredBanner hswap
  exact ⟨hswap, hvalue, by rw [hvalues.value?, hvalue], by rw [hvalues.outOfFlow, hout]⟩

end Rule

end SelectorPreview
