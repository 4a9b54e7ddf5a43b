import Mathlib.Data.List.Induction
import Mathlib.Data.List.Basic
/-!
# First occurrences

Some members of a list have a key. `firsts` picks, in order, the members whose key no earlier member
has; the choice at one place only looks at the members before it.

* `firsts_concat`, `firsts_append` : what one more member, or another list, at the end changes;
* `firsts_map` : what is picked from a mapped list;
* `mem_firsts_iff` : a member is picked where nothing before it has its key;
* `nodup_keys_firsts`, `mem_keys_firsts_iff`, `pairwise_keys_firsts` : every key is picked once, in
  the order of first occurrence.
-/

namespace SelectorPreview

variable {α β : Type} [DecidableEq β]

/-- The member at a place with its key, if it has one and no earlier member has the same. -/
def firstAt? (key : α → Option β) (l : List α) (place : Nat) : Option (α × β) :=
  match l[place]? with
  | none => none
  | some a =>
    match key a with
    | none => none
    | some k => if k ∈ (l.take place).filterMap key then none else some (a, k)

/-- The members whose key no earlier member has, each with its key. -/
def firsts (key : α → Option β) (l : List α) : List (α × β) :=
  (List.range l.length).filterMap (firstAt? key l)

/-! ## One more member -/

/-- A place inside a list picks the same when the list gets longer. -/
theorem firstAt?_append (key : α → Option β) {l more : List α} {place : Nat}
    (h : place < l.length) : firstAt? key (l ++ more) place = firstAt? key l place := by
  unfold firstAt?
  rw [List.getElem?_append_left h, List.take_append_of_le_length (Nat.le_of_lt h)]

/-- One more member is picked when it has a key that no member before it has. -/
theorem firsts_concat (key : α → Option β) (l : List α) (a : α) :
    firsts key (l ++ [a]) = firsts key l ++
      match key a with
      | none => []
      | some k => if k ∈ l.filterMap key then [] else [(a, k)] := by
  have hearlier : (List.range l.length).filterMap (firstAt? key (l ++ [a])) = firsts key l := by
    apply List.filterMap_congr
    intro place hplace
    exact firstAt?_append key (List.mem_range.1 hplace)
  have hlast : firstAt? key (l ++ [a]) l.length =
      match key a with
      | none => none
      | some k => if k ∈ l.filterMap key then none else some (a, k) := by
    simp [firstAt?]
  rw [firsts, List.length_append, List.length_singleton, List.range_succ, List.filterMap_append,
    hearlier, List.filterMap_cons, hlast, List.filterMap_nil]
  cases key a with
  | none => rfl
  | some k => by_cases hk : k ∈ l.filterMap key <;> simp [hk]

/-- Nothing is picked from the empty list. -/
@[simp] theorem firsts_nil (key : α → Option β) : firsts key ([] : List α) = [] := rfl

/-- A member without a key changes nothing. -/
theorem firsts_concat_of_none {key : α → Option β} {a : α} (h : key a = none) (l : List α) :
    firsts key (l ++ [a]) = firsts key l := by
  simp [firsts_concat, h]

/-- A member with a key that is there already changes nothing. -/
theorem firsts_concat_of_mem {key : α → Option β} {l : List α} {a : α} {k : β}
    (h : key a = some k) (hk : k ∈ l.filterMap key) : firsts key (l ++ [a]) = firsts key l := by
  simp [firsts_concat, h, hk]

/-- A member with a new key is picked last. -/
theorem firsts_concat_of_not_mem {key : α → Option β} {l : List α} {a : α} {k : β}
    (h : key a = some k) (hk : k ∉ l.filterMap key) :
    firsts key (l ++ [a]) = firsts key l ++ [(a, k)] := by
  simp [firsts_concat, h, hk]

/-- A list at the end adds what is picked from it alone, without the keys that are there already. -/
theorem firsts_append (key : α → Option β) (l more : List α) :
    firsts key (l ++ more) =
      firsts key l ++ (firsts key more).filter fun pick => pick.2 ∉ l.filterMap key := by
  -- The last member of `more` is the last one of the whole list; what it adds is decided by its key.
  induction more using List.reverseRecOn with
  | nil => simp
  | append_singleton more a ih =>
    rw [← List.append_assoc]
    cases ha : key a with
    | none => rw [firsts_concat_of_none ha, firsts_concat_of_none ha, ih]
    | some k =>
      by_cases hmore : k ∈ more.filterMap key
      · have hwhole : k ∈ (l ++ more).filterMap key := by
          rw [List.filterMap_append]
          exact List.mem_append_right _ hmore
        rw [firsts_concat_of_mem ha hwhole, firsts_concat_of_mem ha hmore, ih]
      · rw [firsts_concat_of_not_mem ha hmore, List.filter_append, ← List.append_assoc, ← ih,
          List.filter_singleton]
        by_cases hl : k ∈ l.filterMap key
        · have hwhole : k ∈ (l ++ more).filterMap key := by
            rw [List.filterMap_append]
            exact List.mem_append_left _ hl
          rw [firsts_concat_of_mem ha hwhole, decide_eq_false (not_not_intro hl)]
          exact (List.append_nil _).symm
        · have hwhole : k ∉ (l ++ more).filterMap key := by
            rw [List.filterMap_append, List.mem_append]
            rintro (h | h)
            · exact hl h
            · exact hmore h
          rw [firsts_concat_of_not_mem ha hwhole, decide_eq_true hl]
          rfl

/-! ## Another list with the same keys -/

/-- From a mapped list the images of those members are picked that are picked by the keys of their
images. -/
theorem firsts_map {γ : Type} (f : α → γ) (key : γ → Option β) (l : List α) :
    firsts key (l.map f) = (firsts (fun a => key (f a)) l).map fun pick => (f pick.1, pick.2) := by
  have hplace : ∀ place, firstAt? key (l.map f) place =
      (firstAt? (fun a => key (f a)) l place).map fun pick => (f pick.1, pick.2) := by
    intro place
    have hearlier : ((l.map f).take place).filterMap key =
        (l.take place).filterMap fun a => key (f a) := by
      rw [← List.map_take, List.filterMap_map]
      rfl
    unfold firstAt?
    rw [List.getElem?_map, hearlier]
    cases l[place]? with
    | none => rfl
    | some a =>
      simp only [Option.map_some]
      cases key (f a) with
      | none => rfl
      | some k =>
        simp only
        split <;> rfl
  simp only [firsts, List.length_map, List.map_filterMap, hplace]

/-! ## What is picked -/

/-- The keys that are picked are the keys of the list. -/
theorem mem_keys_firsts_iff (key : α → Option β) (l : List α) (k : β) :
    k ∈ (firsts key l).map Prod.snd ↔ k ∈ l.filterMap key := by
  -- By induction from the end, since a pick depends on the members before it.
  induction l using List.reverseRecOn with
  | nil => simp
  | append_singleton l a ih =>
    rw [firsts_concat, List.map_append, List.mem_append, ih, List.filterMap_append,
      List.mem_append]
    cases ha : key a with
    | none => simp [ha]
    | some k' =>
      by_cases hk' : k' ∈ l.filterMap key
      · simp only [hk', if_true, List.map_nil, List.not_mem_nil, or_false]
        constructor
        · exact Or.inl
        · rintro (h | h)
          · exact h
          · obtain rfl : k = k' := by simpa [ha] using h
            exact hk'
      · simp [ha, hk']

/-- No key is picked twice. -/
theorem nodup_keys_firsts (key : α → Option β) (l : List α) :
    ((firsts key l).map Prod.snd).Nodup := by
  induction l using List.reverseRecOn with
  | nil => simp
  | append_singleton l a ih =>
    cases ha : key a with
    | none => rwa [firsts_concat_of_none ha]
    | some k =>
      by_cases hk : k ∈ l.filterMap key
      · rwa [firsts_concat_of_mem ha hk]
      · rw [firsts_concat_of_not_mem ha hk, List.map_append, List.nodup_append]
        refine ⟨ih, by simp, ?_⟩
        intro k' hk' other hother
        rw [mem_keys_firsts_iff] at hk'
        obtain rfl : other = k := by simpa using hother
        rintro rfl
        exact hk hk'

/-- The keys are picked in the order in which they first occur. -/
theorem pairwise_keys_firsts (key : α → Option β) (l : List α) :
    ((firsts key l).map Prod.snd).Pairwise fun k k' =>
      (l.filterMap key).idxOf k < (l.filterMap key).idxOf k' := by
  induction l using List.reverseRecOn with
  | nil => exact .nil
  | append_singleton l a ih =>
    -- Behind the keys that are there already, another key does not move their first occurrences.
    have hkept : ((firsts key l).map Prod.snd).Pairwise fun k k' =>
        ((l ++ [a]).filterMap key).idxOf k < ((l ++ [a]).filterMap key).idxOf k' := by
      refine ih.imp_of_mem fun hk hk' hlt => ?_
      rw [mem_keys_firsts_iff] at hk hk'
      rwa [List.filterMap_append, List.idxOf_append_of_mem hk, List.idxOf_append_of_mem hk']
    cases ha : key a with
    | none => rwa [firsts_concat_of_none ha]
    | some k =>
      by_cases hk : k ∈ l.filterMap key
      · rwa [firsts_concat_of_mem ha hk]
      · rw [firsts_concat_of_not_mem ha hk, List.map_append, List.pairwise_append]
        refine ⟨hkept, List.pairwise_singleton _ _, ?_⟩
        intro k' hk' last hlast
        obtain rfl : last = k := by simpa using hlast
        rw [mem_keys_firsts_iff] at hk'
        rw [List.filterMap_append, List.idxOf_append_of_mem hk', List.idxOf_append_of_notMem hk]
        have hlt := List.idxOf_lt_length_of_mem hk'
        omega

/-- A member is picked exactly if nothing before one of its places has its key. -/
theorem mem_firsts_iff (key : α → Option β) (l : List α) (a : α) (k : β) :
    (a, k) ∈ firsts key l ↔
      key a = some k ∧ ∃ before after, l = before ++ a :: after ∧ k ∉ before.filterMap key := by
  rw [firsts, List.mem_filterMap]
  constructor
  · rintro ⟨place, hplace, hpick⟩
    have hlt : place < l.length := List.mem_range.1 hplace
    unfold firstAt? at hpick
    rw [List.getElem?_eq_getElem hlt] at hpick
    cases ha : key l[place] with
    | none => simp [ha] at hpick
    | some k' =>
      simp only [ha] at hpick
      split at hpick
      · cases hpick
      · rename_i hnew
        obtain ⟨rfl, rfl⟩ : l[place] = a ∧ k' = k := by simpa using hpick
        refine ⟨ha, l.take place, l.drop (place + 1), ?_, hnew⟩
        rw [List.getElem_cons_drop, List.take_append_drop]
  · rintro ⟨ha, before, after, rfl, hnew⟩
    refine ⟨before.length, by simp, ?_⟩
    simp only [firstAt?, List.getElem?_append_right (Nat.le_refl _), Nat.sub_self,
      List.getElem?_cons_zero, ha, List.take_left, hnew, if_false]

end SelectorPreview
