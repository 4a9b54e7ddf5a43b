import SelectorPreview.Proofs.Appending
/-!
# The order of the rules

The order of the rules of a sheet decides which rule a chain is drawn for, and in which spelling its
selector is looked up. Where all selectors that are out of flow are single compounds, this does not
matter to the frames: such a selector stands in the flattened text of any spelling of a chain
exactly if it stands in a segment of the chain, and a rule that is out of flow is found by its own
selectors. So frames can be told from the chains and the set of rules.

* `boxed_iff_segment` : frames told by segments;
* `chainFramed_perm` : rules in another order put the same chains into frames.
-/

namespace SelectorPreview.Document

/-- Whether the document of a sheet shows a block for a chain. -/
def HasBlock (sheet : Sheet) (options : Options) (chain : String) : Prop :=
  ∃ block text, block.chain = chain ∧ Shows sheet options block text

/-- Whether the document of a sheet shows the block of a chain in a frame. -/
def ChainFramed (sheet : Sheet) (options : Options) (chain : String) : Prop :=
  ∃ block, block.chain = chain ∧ ShownInFrame sheet options block

/-- Whether all selectors of the rules that are out of flow are single compounds. -/
def PlainOutOfFlow (sheet : Sheet) : Prop :=
  ∀ rule ∈ sheet.rules, rule.outOfFlow = true → ∀ selector ∈ rule.selectors, Chain.IsPlain selector

instance (sheet : Sheet) : Decidable (PlainOutOfFlow sheet) :=
  inferInstanceAs (Decidable (∀ rule ∈ sheet.rules, _ → ∀ selector ∈ rule.selectors, _))

/-- Whether a selector of a rule that is out of flow stands in a segment of a chain. -/
def SegmentHoldsOutOfFlow (sheet : Sheet) (chain : String) : Prop :=
  ∃ rule ∈ sheet.rules, rule.outOfFlow = true ∧ ∃ selector ∈ rule.selectors,
    ∃ segment ∈ Chain.segments chain, selector.toList <:+: segment.toList

/-! ## Frames told by segments -/

/-- Single compounds that are out of flow are looked for in the segments of a chain, whichever of
its spellings the block is made for. -/
theorem holdsOutOfFlow_iff_segment {sheet : Sheet} {block : Block} (hplain : PlainOutOfFlow sheet)
    (hchain : Chain.ofSelector? block.selector = some block.chain) :
    HoldsOutOfFlow sheet.rules block ↔ SegmentHoldsOutOfFlow sheet block.chain := by
  constructor
  · rintro ⟨rule, hrule, hout, selector, hselector, hholds⟩
    have hspelled := hplain rule hrule hout selector hselector
    exact ⟨rule, hrule, hout, selector, hselector,
      (Chain.plain_infix_flatten_iff hspelled hchain).1 hholds⟩
  · rintro ⟨rule, hrule, hout, selector, hselector, hholds⟩
    have hspelled := hplain rule hrule hout selector hselector
    exact ⟨rule, hrule, hout, selector, hselector,
      (Chain.plain_infix_flatten_iff hspelled hchain).2 hholds⟩

/-- **Frames told by segments.** If all selectors that are out of flow are single compounds, a block
is boxed exactly if one of them stands in a segment of its chain. -/
theorem boxed_iff_segment {sheet : Sheet} {options : Options} {block : Block}
    (hframes : options.frames = true) (hplain : PlainOutOfFlow sheet)
    (hblock : block ∈ blocks sheet) :
    Boxed sheet options block ↔ SegmentHoldsOutOfFlow sheet block.chain := by
  rw [blocks_eq_kept] at hblock
  obtain ⟨hchain, before, after, hentries, -⟩ := mem_kept_iff.1 hblock
  rw [← holdsOutOfFlow_iff_segment hplain hchain]
  constructor
  · rintro ⟨-, hout | hholds⟩
    · -- The rule of the block is itself one that is out of flow: its selector finds itself.
      have hentry : (⟨block.rule, block.selector⟩ : Entry) ∈ entries sheet := by
        simp [hentries]
      obtain ⟨hrule, hselector⟩ := mem_entries_iff.1 hentry
      have hspelled := hplain block.rule hrule hout block.selector hselector
      exact ⟨block.rule, hrule, hout, block.selector, hselector,
        Chain.plain_infix_flatten hspelled hchain hchain⟩
    · exact hholds
  · exact fun hholds => ⟨hframes, Or.inr hholds⟩

/-- The chains of a sheet are those of its blocks. -/
theorem exists_block_iff {sheet : Sheet} {chain : String} :
    (∃ block ∈ blocks sheet, block.chain = chain) ↔ chain ∈ chains sheet := by
  rw [chains, mem_chains_entries_iff, ← mem_chains_kept_iff, blocks_eq_kept, List.mem_map]

/-- The document has a block for each chain of the sheet, and for no other one. -/
theorem hasBlock_iff {sheet : Sheet} {options : Options} {chain : String} :
    HasBlock sheet options chain ↔ chain ∈ chains sheet := by
  rw [← exists_block_iff]
  simp only [HasBlock, shows_iff]
  constructor
  · rintro ⟨block, text, hchain, hblock, -⟩
    exact ⟨block, hblock, hchain⟩
  · rintro ⟨block, hblock, hchain⟩
    exact ⟨block, _, hchain, hblock, rfl⟩

/-- The chains in frames are the chains of the sheet of which a segment holds a selector that is out
of flow. -/
theorem chainFramed_iff {sheet : Sheet} {options : Options} {chain : String}
    (hframes : options.frames = true) (hplain : PlainOutOfFlow sheet) :
    ChainFramed sheet options chain ↔
      chain ∈ chains sheet ∧ SegmentHoldsOutOfFlow sheet chain := by
  rw [← exists_block_iff]
  constructor
  · rintro ⟨block, rfl, hshown⟩
    obtain ⟨hblock, hboxed⟩ := shownInFrame_iff.1 hshown
    exact ⟨⟨block, hblock, rfl⟩, (boxed_iff_segment hframes hplain hblock).1 hboxed⟩
  · rintro ⟨⟨block, hblock, rfl⟩, hsegment⟩
    have hboxed := (boxed_iff_segment hframes hplain hblock).2 hsegment
    exact ⟨block, rfl, shownInFrame_iff.2 ⟨hblock, hboxed⟩⟩

/-! ## Rules in another order -/

section Order

variable {sheet permuted : Sheet}

/-- Which chains a sheet has does not depend on the order of the rules. -/
theorem mem_chains_perm (hperm : permuted.rules.Perm sheet.rules) (chain : String) :
    chain ∈ chains permuted ↔ chain ∈ chains sheet := by
  rw [chains, chains, mem_chains_entries_iff, mem_chains_entries_iff]
  simp only [hperm.mem_iff]

/-- Neither does it whether a segment holds a selector that is out of flow. -/
theorem segmentHoldsOutOfFlow_perm (hperm : permuted.rules.Perm sheet.rules) (chain : String) :
    SegmentHoldsOutOfFlow permuted chain ↔ SegmentHoldsOutOfFlow sheet chain := by
  unfold SegmentHoldsOutOfFlow
  simp only [hperm.mem_iff]

end Order

/-- **Frames do not depend on the order of the rules** if all selectors that are out of flow are
single compounds. Both documents show a block for each chain of the sheet and for no other one. A
chain stands in a frame in both documents or in neither, and it does so exactly if it is a chain of
the sheet and a selector that is out of flow stands in one of its segments. -/
theorem chainFramed_perm (sheet permuted : Sheet) (options : Options)
    (hframes : options.frames = true) (hplain : PlainOutOfFlow sheet)
    (hperm : permuted.rules.Perm sheet.rules) (chain : String) :
    (HasBlock sheet options chain ↔ chain ∈ chains sheet) ∧
      (HasBlock permuted options chain ↔ HasBlock sheet options chain) ∧
      (ChainFramed permuted options chain ↔ ChainFramed sheet options chain) ∧
      (ChainFramed sheet options chain ↔
        chain ∈ chains sheet ∧ SegmentHoldsOutOfFlow sheet chain) := by
  have hplainPermuted : PlainOutOfFlow permuted := by
    intro rule hrule
    exact hplain rule (hperm.mem_iff.1 hrule)
  refine ⟨hasBlock_iff, ?_, ?_, chainFramed_iff hframes hplain⟩
  · rw [hasBlock_iff, hasBlock_iff, mem_chains_perm hperm chain]
  · rw [chainFramed_iff hframes hplainPermuted, chainFramed_iff hframes hplain,
      mem_chains_perm hperm chain, segmentHoldsOutOfFlow_perm hperm chain]

/-- A rule for the hovered arrow of a tip. -/
def hoveredArrow : Rule := ⟨["div.tip>.arrow:hover"], [⟨"color", "red", false⟩]⟩

/-- The same arrow in another spelling. -/
def plainArrow : Rule := ⟨["div.tip   .arrow"], [⟨"color", "blue", false⟩]⟩

/-- Tips are out of flow. -/
def tip : Rule := ⟨[".tip"], [⟨"position", "absolute", false⟩]⟩

/-- The arrow stands in a frame whichever of its rules comes first, and wherever the rule of the tip
stands. -/
theorem chainFramed_arrow :
    ChainFramed ⟨[hoveredArrow, plainArrow, tip]⟩ { href := "style.css" } "div.tip .arrow" ∧
      ChainFramed ⟨[tip, plainArrow, hoveredArrow]⟩ { href := "style.css" } "div.tip .arrow" := by
  have hperm : [tip, plainArrow, hoveredArrow].Perm [hoveredArrow, plainArrow, tip] := by
    decide
  obtain ⟨-, -, hsame, hsegment⟩ := chainFramed_perm ⟨[hoveredArrow, plainArrow, tip]⟩
    ⟨[tip, plainArrow, hoveredArrow]⟩ { href := "style.css" } rfl (by decide) hperm
    "div.tip .arrow"
  have harrow : ChainFramed ⟨[hoveredArrow, plainArrow, tip]⟩ { href := "style.css" }
      "div.tip .arrow" := by
    refine hsegment.2 ⟨?_, tip, by decide, by decide, ".tip", by decide, "div.tip", ?_, ?_⟩
    · decide +kernel
    · decide +kernel
    · decide
  exact ⟨harrow, hsame.2 harrow⟩

end SelectorPreview.Document
