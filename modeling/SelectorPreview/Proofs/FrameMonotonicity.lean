import SelectorPreview.Proofs.RuleOrder
/-!
# More rules out of flow

A sheet grows when rules of it are taken out of the flow by other declarations, and when rules that
are out of flow are put between the others. Such a rule may become the first one for a chain, so
that the block of the chain is made for another selector. A frame is never lost that way: either the
new first rule is out of flow itself, or the chain keeps the first selector that it had, and in its
flattened text the same selectors are looked for as before.

* `mem_blocks_iff_owner?` : a block stands for the first selector with its chain;
* `exists_owner?_of_takesOut` : who the first selector of a chain is in the grown sheet;
* `chainFramed_of_takesOut` : frames stay.
-/

namespace SelectorPreview.Document

/-! ## Growing sheets -/

/-- A list of rules grows into another one: some of its rules are kept, the others get declarations
that take them out of the flow, and rules that are out of flow come in between. -/
inductive TakesOut : List Rule → List Rule → Prop where
  | nil : TakesOut [] []
  /-- A rule stays as it is. -/
  | keep (rule : Rule) {rules grown : List Rule} (h : TakesOut rules grown) :
      TakesOut (rule :: rules) (rule :: grown)
  /-- A rule gets other declarations, by which it is out of flow. -/
  | takeOut {rule taken : Rule} {rules grown : List Rule}
      (hselectors : taken.selectors = rule.selectors) (hout : taken.outOfFlow = true)
      (h : TakesOut rules grown) : TakesOut (rule :: rules) (taken :: grown)
  /-- A rule that is out of flow is put in front of the others. -/
  | insert {rule : Rule} {rules grown : List Rule} (hout : rule.outOfFlow = true)
      (h : TakesOut rules grown) : TakesOut rules (rule :: grown)

/-- The rules that are out of flow have their selectors in the grown list as well. -/
theorem exists_outOfFlow_of_takesOut {rules grown : List Rule} (h : TakesOut rules grown) :
    ∀ rule ∈ rules, rule.outOfFlow = true →
      ∃ other ∈ grown, other.outOfFlow = true ∧ other.selectors = rule.selectors := by
  induction h with
  | nil => simp
  | keep first _ ih =>
    intro rule hrule hout
    rcases List.mem_cons.1 hrule with rfl | hrule
    · exact ⟨rule, List.mem_cons_self, hout, rfl⟩
    · obtain ⟨other, hother, hrest⟩ := ih rule hrule hout
      exact ⟨other, List.mem_cons_of_mem _ hother, hrest⟩
  | takeOut hselectors htaken _ ih =>
    intro rule hrule hout
    rcases List.mem_cons.1 hrule with rfl | hrule
    · exact ⟨_, List.mem_cons_self, htaken, hselectors⟩
    · obtain ⟨other, hother, hrest⟩ := ih rule hrule hout
      exact ⟨other, List.mem_cons_of_mem _ hother, hrest⟩
  | insert _ _ ih =>
    intro rule hrule hout
    obtain ⟨other, hother, hrest⟩ := ih rule hrule hout
    exact ⟨other, List.mem_cons_of_mem _ hother, hrest⟩

/-! ## The first selector of a chain -/

/-- The first selector of some rules that has a chain. -/
def owner? (rules : List Rule) (chain : String) : Option Entry :=
  (rules.flatMap ruleEntries).find? (·.chain? == some chain)

/-- A rule in front without a selector of the chain does not change the first one. -/
theorem owner?_cons_of_none {rule : Rule} (rules : List Rule) {chain : String}
    (h : (ruleEntries rule).find? (·.chain? == some chain) = none) :
    owner? (rule :: rules) chain = owner? rules chain := by
  rw [owner?, List.flatMap_cons, List.find?_append, h, Option.none_or, owner?]

/-- The first selector of the chain is in the rule in front, if this has any. -/
theorem owner?_cons_of_some {rule : Rule} (rules : List Rule) {chain : String} {e : Entry}
    (h : (ruleEntries rule).find? (·.chain? == some chain) = some e) :
    owner? (rule :: rules) chain = some e := by
  rw [owner?, List.flatMap_cons, List.find?_append, h, Option.some_or]

/-- The selectors of a rule are entries of that rule. -/
theorem rule_of_find?_ruleEntries {rule : Rule} {p : Entry → Bool} {e : Entry}
    (h : (ruleEntries rule).find? p = some e) : e.rule = rule := by
  obtain ⟨selector, -, rfl⟩ := List.mem_map.1 (List.mem_of_find?_eq_some h)
  rfl

/-- Whether a rule has a selector of a chain is told by its selectors. -/
theorem find?_ruleEntries_eq_none_iff {rule : Rule} {chain : String} :
    (ruleEntries rule).find? (·.chain? == some chain) = none ↔
      ∀ selector ∈ rule.selectors, Chain.ofSelector? selector ≠ some chain := by
  simp [ruleEntries, List.find?_eq_none, Entry.chain?]

/-- A block stands for the first selector with its chain. -/
theorem mem_blocks_iff_owner? {sheet : Sheet} {block : Block} :
    block ∈ blocks sheet ↔
      owner? sheet.rules block.chain = some ⟨block.rule, block.selector⟩ := by
  rw [blocks_eq_kept, mem_kept_iff, owner?, List.find?_eq_some_iff_append]
  simp [entries, Entry.chain?]

/-- A rule in front that is out of flow takes a chain over, or leaves it to the other rules. -/
theorem exists_owner?_cons_of_outOfFlow {rule : Rule} {rules : List Rule} {chain : String}
    {e : Entry} (hout : rule.outOfFlow = true)
    (hrest : (ruleEntries rule).find? (·.chain? == some chain) = none →
      ∃ first, owner? rules chain = some first ∧ (first.rule.outOfFlow = true ∨ first = e)) :
    ∃ first, owner? (rule :: rules) chain = some first ∧
      (first.rule.outOfFlow = true ∨ first = e) := by
  cases hfind : (ruleEntries rule).find? (·.chain? == some chain) with
  | none =>
    rw [owner?_cons_of_none _ hfind]
    exact hrest hfind
  | some first =>
    rw [owner?_cons_of_some _ hfind]
    refine ⟨first, rfl, Or.inl ?_⟩
    rw [rule_of_find?_ruleEntries hfind, hout]

/-- In the grown list the first selector of a chain is one of a rule that is out of flow, or the one
it was before. -/
theorem exists_owner?_of_takesOut {rules grown : List Rule} (h : TakesOut rules grown)
    {chain : String} {e : Entry} (howner : owner? rules chain = some e) :
    ∃ first, owner? grown chain = some first ∧ (first.rule.outOfFlow = true ∨ first = e) := by
  -- By the steps of growing; each rule either has a selector of the chain or can be left out.
  induction h with
  | nil => cases howner
  | keep rule _ ih =>
    cases hfind : (ruleEntries rule).find? (·.chain? == some chain) with
    | none =>
      rw [owner?_cons_of_none _ hfind] at howner ⊢
      exact ih howner
    | some first =>
      rw [owner?_cons_of_some _ hfind] at howner ⊢
      exact ⟨first, rfl, Or.inr (Option.some.inj howner)⟩
  | @takeOut rule taken rules grown hselectors hout _ ih =>
    refine exists_owner?_cons_of_outOfFlow hout fun hfind => ?_
    -- The rule had the same selectors before, so it was not the first one for the chain either.
    have hrule : (ruleEntries rule).find? (·.chain? == some chain) = none := by
      rw [find?_ruleEntries_eq_none_iff] at hfind ⊢
      rwa [hselectors] at hfind
    rw [owner?_cons_of_none _ hrule] at howner
    exact ih howner
  | insert hout _ ih => exact exists_owner?_cons_of_outOfFlow hout fun _ => ih howner

/-! ## Frames -/

/-- A chain is shown in a frame if its block is boxed. -/
theorem chainFramed_iff_boxed {sheet : Sheet} {options : Options} {chain : String} :
    ChainFramed sheet options chain ↔
      ∃ block ∈ blocks sheet, block.chain = chain ∧ Boxed sheet options block := by
  simp only [ChainFramed, shownInFrame_iff]
  constructor
  · rintro ⟨block, hchain, hblock, hboxed⟩
    exact ⟨block, hblock, hchain, hboxed⟩
  · rintro ⟨block, hblock, hchain, hboxed⟩
    exact ⟨block, hchain, hblock, hboxed⟩

/-- In the grown sheet a block with the same selector of the same rule is boxed if it was. -/
theorem boxed_of_takesOut {sheet grown : Sheet} {options : Options} {block : Block}
    (h : TakesOut sheet.rules grown.rules) (hboxed : Boxed sheet options block) :
    Boxed grown options block := by
  obtain ⟨hframes, hout | ⟨rule, hrule, hout, selector, hselector, hholds⟩⟩ := hboxed
  · exact ⟨hframes, Or.inl hout⟩
  · obtain ⟨other, hother, hotherOut, hsame⟩ := exists_outOfFlow_of_takesOut h rule hrule hout
    exact boxed_of_registered hframes hother hotherOut (hsame ▸ hselector) hholds

/-- **Frames stay when more rules are out of flow.** If rules of a sheet are taken out of the flow,
and rules that are out of flow are put between its rules, in front of them or behind them, then
every chain that stood in a frame still does. -/
theorem chainFramed_of_takesOut (sheet grown : Sheet) (options : Options) (chain : String)
    (h : TakesOut sheet.rules grown.rules) (hframed : ChainFramed sheet options chain) :
    ChainFramed grown options chain := by
  rw [chainFramed_iff_boxed] at hframed ⊢
  obtain ⟨block, hblock, rfl, hboxed⟩ := hframed
  obtain ⟨first, howner, hfirst⟩ := exists_owner?_of_takesOut h (mem_blocks_iff_owner?.1 hblock)
  refine ⟨⟨first.rule, first.selector, block.chain⟩, mem_blocks_iff_owner?.2 howner, rfl, ?_⟩
  -- If another rule has taken the chain over, the flattened text is another one, but that rule is
  -- out of flow itself; if not, the text is the same and the registry has only grown.
  rcases hfirst with hout | rfl
  · exact ⟨hboxed.1, Or.inl hout⟩
  · exact boxed_of_takesOut h hboxed

/-- A card that is out of flow, behind a rule for its hovered state. -/
def hoveredCard : Sheet :=
  ⟨[⟨[".card:hover"], [⟨"color", "red", false⟩]⟩,
    ⟨[".card"], [⟨"position", "absolute", false⟩]⟩]⟩

/-- The same sheet with a rule in front that takes the chain of the card over, and with the hovered
state out of flow as well. -/
def coveredCard : Sheet :=
  ⟨[⟨[".nav > .card", ".card::before"], [⟨"position", "fixed", true⟩]⟩,
    ⟨[".card:hover"], [⟨"color", "red", false⟩, ⟨"position", "sticky", false⟩]⟩,
    ⟨[".card"], [⟨"position", "absolute", false⟩]⟩]⟩

/-- The card stands in a frame in both sheets, although its block is made for another rule. -/
theorem chainFramed_coveredCard :
    TakesOut hoveredCard.rules coveredCard.rules ∧
      ChainFramed hoveredCard { href := "style.css" } ".card" ∧
      ChainFramed coveredCard { href := "style.css" } ".card" := by
  have hgrown : TakesOut hoveredCard.rules coveredCard.rules :=
    .insert (by decide) (.takeOut rfl (by decide) (.keep _ .nil))
  have hframed : ChainFramed hoveredCard { href := "style.css" } ".card" := by
    rw [chainFramed_iff_boxed]
    decide +kernel
  exact ⟨hgrown, hframed, chainFramed_of_takesOut _ _ _ _ hgrown hframed⟩

end SelectorPreview.Document
