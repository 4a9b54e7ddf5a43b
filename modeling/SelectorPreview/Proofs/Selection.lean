import Mathlib.Data.List.Nodup
import SelectorPreview.Document
import SelectorPreview.Proofs.FirstOccurrence
/-!
# The selectors that get a block

The blocks of a sheet are picked by two nested loops that carry the chains met so far. Read as one
list, the selectors of a sheet in rule order and then list order are its `entries`, and the loops
pick the first entry of each chain.

* `pickSelectors_eq`, `pickRules_eq` : what the two loops pick after some entries, and which chains
  they have met then;
* `blocks_eq_kept` : the blocks of a sheet are the first entries of their chains;
* `mem_kept_iff` : which blocks there are;
* `exists_block_of_selector` : a chain has one block, that of its first selector.
-/

namespace SelectorPreview.Document

/-! ## Entries -/

/-- A selector together with the rule it stands in. -/
structure Entry where
  rule : Rule
  selector : String

/-- The chain of the selector of an entry. -/
def Entry.chain? (e : Entry) : Option String := Chain.ofSelector? e.selector

/-- The selectors of a rule as entries. -/
def ruleEntries (rule : Rule) : List Entry := rule.selectors.map fun selector => ⟨rule, selector⟩

/-- All selectors of a sheet in rule order, and in list order within a rule. -/
def entries (sheet : Sheet) : List Entry := sheet.rules.flatMap ruleEntries

/-- The first entry of each chain, as blocks. -/
def keptOf (l : List Entry) : List Block :=
  (firsts Entry.chain? l).map fun (e, chain) => ⟨e.rule, e.selector, chain⟩

/-- The blocks of a sheet by their definition: a selector is kept if it has a chain that no earlier
selector of the sheet has. -/
def kept (sheet : Sheet) : List Block := keptOf (entries sheet)

/-- The selectors of a sheet are those of its rules. -/
theorem mem_entries_iff {sheet : Sheet} {e : Entry} :
    e ∈ entries sheet ↔ e.rule ∈ sheet.rules ∧ e.selector ∈ e.rule.selectors := by
  simp only [entries, ruleEntries, List.mem_flatMap, List.mem_map]
  constructor
  · rintro ⟨rule, hrule, selector, hselector, rfl⟩
    exact ⟨hrule, hselector⟩
  · rintro ⟨hrule, hselector⟩
    exact ⟨e.rule, hrule, e.selector, hselector, rfl⟩

/-- A chain is among the chains of the entries if a selector of a rule has it. -/
theorem mem_chains_entries_iff {sheet : Sheet} {chain : String} :
    chain ∈ (entries sheet).filterMap Entry.chain? ↔
      ∃ rule ∈ sheet.rules, ∃ selector ∈ rule.selectors,
        Chain.ofSelector? selector = some chain := by
  simp only [List.mem_filterMap, mem_entries_iff]
  constructor
  · rintro ⟨e, ⟨hrule, hselector⟩, hchain⟩
    exact ⟨e.rule, hrule, e.selector, hselector, hchain⟩
  · rintro ⟨rule, hrule, selector, hselector, hchain⟩
    exact ⟨⟨rule, selector⟩, ⟨hrule, hselector⟩, hchain⟩

/-- An entry without a chain is not kept. -/
theorem keptOf_concat_of_none {l : List Entry} {e : Entry} (h : e.chain? = none) :
    keptOf (l ++ [e]) = keptOf l := by
  rw [keptOf, firsts_concat_of_none h, ← keptOf]

/-- An entry whose chain an earlier one has is not kept. -/
theorem keptOf_concat_of_mem {l : List Entry} {e : Entry} {chain : String}
    (h : e.chain? = some chain) (hmem : chain ∈ l.filterMap Entry.chain?) :
    keptOf (l ++ [e]) = keptOf l := by
  rw [keptOf, firsts_concat_of_mem h hmem, ← keptOf]

/-- An entry with a new chain is kept. -/
theorem keptOf_concat_of_not_mem {l : List Entry} {e : Entry} {chain : String}
    (h : e.chain? = some chain) (hnew : chain ∉ l.filterMap Entry.chain?) :
    keptOf (l ++ [e]) = keptOf l ++ [⟨e.rule, e.selector, chain⟩] := by
  rw [keptOf, firsts_concat_of_not_mem h hnew, List.map_append, ← keptOf]
  rfl

/-! ## The loops -/

/-- The chains met are those of the entries that are done. -/
def Met (done : List Entry) (seen : Chain.Seen) : Prop :=
  ∀ chain, seen.contains chain = true ↔ chain ∈ done.filterMap Entry.chain?

/-- Before the first entry no chain has been met. -/
theorem met_nil : Met [] {} := by
  intro chain
  simp [Chain.Seen.contains]

/-- An entry without a chain leaves the chains met as they are. -/
theorem Met.concat_of_none {done : List Entry} {seen : Chain.Seen} {e : Entry}
    (h : Met done seen) (he : e.chain? = none) : Met (done ++ [e]) seen := by
  intro chain
  rw [h chain]
  simp [he]

/-- An entry whose chain has been met leaves the chains met as they are. -/
theorem Met.concat_of_contains {done : List Entry} {seen : Chain.Seen} {e : Entry} {chain : String}
    (h : Met done seen) (he : e.chain? = some chain) (hseen : seen.contains chain = true) :
    Met (done ++ [e]) seen := by
  intro other
  rw [h other, List.filterMap_append, List.mem_append]
  constructor
  · exact Or.inl
  · rintro (hother | hother)
    · exact hother
    · obtain rfl : other = chain := by simpa [he] using hother
      exact (h other).1 hseen

/-- The chain of a new entry is met after it. -/
theorem Met.concat_insert {done : List Entry} {seen : Chain.Seen} {e : Entry} {chain : String}
    (h : Met done seen) (he : e.chain? = some chain) :
    Met (done ++ [e]) (seen.insert chain) := by
  intro other
  rw [Chain.Seen.contains_insert, h other, List.filterMap_append, List.mem_append, or_comm]
  simp [he]

/-- **The inner loop.** After some entries, the loop over a selector list picks the first entries
of the chains not met before, and goes on with the chains of all entries. -/
theorem pickSelectors_eq (rule : Rule) (selectors : List String) (done : List Entry)
    (seen : Chain.Seen) (h : Met done seen) :
    keptOf (done ++ selectors.map (⟨rule, ·⟩)) =
        keptOf done ++ (pickSelectors rule seen selectors).1 ∧
      Met (done ++ selectors.map (⟨rule, ·⟩)) (pickSelectors rule seen selectors).2 := by
  -- A selector that is done becomes the last entry; `Met` tells from the entries what the loop knows.
  induction selectors generalizing done seen with
  | nil => simpa [pickSelectors] using h
  | cons selector rest ih =>
    have hsplit : done ++ (selector :: rest).map (⟨rule, ·⟩) =
        (done ++ [⟨rule, selector⟩]) ++ rest.map (⟨rule, ·⟩) := by
      simp
    rw [hsplit]
    unfold pickSelectors
    split
    · rename_i hnone
      have he : Entry.chain? ⟨rule, selector⟩ = none := hnone
      obtain ⟨hpicks, hmet⟩ := ih _ _ (h.concat_of_none he)
      exact ⟨by rw [hpicks, keptOf_concat_of_none he], hmet⟩
    · rename_i chain hchain
      have he : Entry.chain? ⟨rule, selector⟩ = some chain := hchain
      split
      · rename_i hseen
        obtain ⟨hpicks, hmet⟩ := ih _ _ (h.concat_of_contains he hseen)
        exact ⟨by rw [hpicks, keptOf_concat_of_mem he ((h chain).1 hseen)], hmet⟩
      · rename_i hseen
        have hnew : chain ∉ done.filterMap Entry.chain? := fun hmem => hseen ((h chain).2 hmem)
        obtain ⟨hpicks, hmet⟩ := ih _ _ (h.concat_insert he)
        refine ⟨?_, hmet⟩
        rw [hpicks, keptOf_concat_of_not_mem he hnew, List.append_assoc]
        rfl

/-- **The outer loop.** After some entries, the loop over the rules picks the first entries of the
chains not met before. -/
theorem pickRules_eq (rules : List Rule) (done : List Entry) (seen : Chain.Seen)
    (h : Met done seen) :
    keptOf (done ++ rules.flatMap ruleEntries) =
      keptOf done ++ (pickRules seen rules).flatMap (·.2) := by
  induction rules generalizing done seen with
  | nil => simp [pickRules]
  | cons rule rest ih =>
    obtain ⟨hpicks, hmet⟩ := pickSelectors_eq rule rule.selectors done seen h
    rw [List.flatMap_cons, ← List.append_assoc, ruleEntries, ih _ _ hmet, hpicks,
      List.append_assoc]
    rfl

/-- **The blocks of a sheet are the first entries of their chains.** -/
theorem blocks_eq_kept (sheet : Sheet) : blocks sheet = kept sheet := by
  have h := pickRules_eq sheet.rules [] {} met_nil
  exact h.symm

/-! ## Which blocks there are -/

/-- The chains of the blocks of a sheet are those of its selectors. -/
theorem mem_chains_kept_iff {sheet : Sheet} {chain : String} :
    chain ∈ (kept sheet).map (·.chain) ↔
      ∃ rule ∈ sheet.rules, ∃ selector ∈ rule.selectors,
        Chain.ofSelector? selector = some chain := by
  rw [← mem_chains_entries_iff, ← mem_keys_firsts_iff, kept, keptOf, List.map_map]
  rfl

/-- No two blocks of a sheet have the same chain. -/
theorem nodup_chains_kept (sheet : Sheet) : ((kept sheet).map (·.chain)).Nodup := by
  have h := nodup_keys_firsts Entry.chain? (entries sheet)
  rw [kept, keptOf, List.map_map]
  exact h

/-- A block stands for an entry before which its chain does not occur. -/
theorem mem_kept_iff {sheet : Sheet} {block : Block} :
    block ∈ kept sheet ↔
      Chain.ofSelector? block.selector = some block.chain ∧
        ∃ before after, entries sheet = before ++ ⟨block.rule, block.selector⟩ :: after ∧
          block.chain ∉ before.filterMap Entry.chain? := by
  rw [kept, keptOf, List.mem_map]
  constructor
  · rintro ⟨⟨e, chain⟩, hmem, rfl⟩
    exact (mem_firsts_iff _ _ _ _).1 hmem
  · intro h
    exact ⟨(⟨block.rule, block.selector⟩, block.chain), (mem_firsts_iff _ _ _ _).2 h, rfl⟩

/-- The chain of a selector has one block, which is made for the first selector with this chain. -/
theorem exists_block_of_selector {sheet : Sheet} {rule : Rule} {selector chain : String}
    (hrule : rule ∈ sheet.rules) (hselector : selector ∈ rule.selectors)
    (hchain : Chain.ofSelector? selector = some chain) :
    ∃ before block after, blocks sheet = before ++ block :: after ∧ block.chain = chain ∧
      (∀ other ∈ before ++ after, other.chain ≠ chain) ∧
      Chain.ofSelector? block.selector = some chain ∧
      ∃ earlier later, entries sheet = earlier ++ ⟨block.rule, block.selector⟩ :: later ∧
        ∀ e ∈ earlier, Chain.ofSelector? e.selector ≠ some chain := by
  have hmem : chain ∈ (kept sheet).map (·.chain) :=
    mem_chains_kept_iff.2 ⟨rule, hrule, selector, hselector, hchain⟩
  obtain ⟨block, hblock, rfl⟩ := List.mem_map.1 hmem
  obtain ⟨hown, earlier, later, hentries, hnew⟩ := mem_kept_iff.1 hblock
  obtain ⟨before, after, hsplit⟩ := List.append_of_mem hblock
  refine ⟨before, block, after, by rw [blocks_eq_kept, hsplit], rfl, ?_, hown,
    earlier, later, hentries, ?_⟩
  · -- The chains of the blocks are pairwise different.
    have hnodup := nodup_chains_kept sheet
    rw [hsplit, List.map_append, List.map_cons, List.nodup_middle, List.nodup_cons,
      ← List.map_append] at hnodup
    intro other hother heq
    exact hnodup.1 (heq ▸ List.mem_map_of_mem hother)
  · intro e he hechain
    exact hnew (List.mem_filterMap.2 ⟨e, he, hechain⟩)

end SelectorPreview.Document
