import SelectorPreview.Proofs.Assembly
/-!
# Chains that are taken out of the flow

A chain is drawn once, for the first selector that has it. Its block stands in a frame by the rule
and the spelling of that selector, which need not be those of a later rule that takes the chain out
of the flow: a registered selector is looked for as it is written, in a text where combinators have
become spaces. So some chains that are out of flow stand outside frames, and
`block_of_outOfFlow_selector` says which.
-/

namespace SelectorPreview.Document

/-- A child selector in two rules, of which the second is out of flow. -/
def repeatedChild : Sheet :=
  ⟨[⟨[".menu > li"], [⟨"color", "red", false⟩]⟩,
    ⟨[".menu > li"], [⟨"position", "absolute", false⟩]⟩]⟩

/-- A selector of a rule that is out of flow can have its block outside a frame: the document of the
child selector has a single block, and this stands in none. -/
theorem outOfFlow_selector_not_always_boxed :
    render repeatedChild { href := "style.css" } = opening "style.css" ++
      "<div class=\"menu\"><li>.menu &gt; li</li></div>" ++ closing ∧
    ¬ ∀ (sheet : Sheet) (options : Options), options.frames = true →
      ∀ rule ∈ sheet.rules, rule.outOfFlow = true → ∀ selector ∈ rule.selectors,
        ∀ block ∈ blocks sheet, Chain.ofSelector? selector = some block.chain →
          ShownInFrame sheet options block := by
  refine ⟨by decide +kernel, fun h => ?_⟩
  have hbad : ∃ rule ∈ repeatedChild.rules, rule.outOfFlow = true ∧
      ∃ selector ∈ rule.selectors, ∃ block ∈ blocks repeatedChild,
        Chain.ofSelector? selector = some block.chain ∧
        ¬ Boxed repeatedChild { href := "style.css" } block := by
    decide +kernel
  obtain ⟨rule, hrule, hout, selector, hselector, block, hblock, hchain, hboxed⟩ := hbad
  exact hboxed (shownInFrame_iff.1 (h repeatedChild { href := "style.css" } rfl rule hrule hout
    selector hselector block hblock hchain)).2

/-- **The block of a chain that is taken out of the flow.** With frames, the chain of a selector
whose rule is out of flow has exactly one block. It is made for the first selector of the sheet
with this chain, and between the blocks before and behind it the document has a frame exactly if the
rule of that first selector is out of flow or its flattened text holds a selector of a rule that is
out of flow. This is the case when it holds the selector at hand: always if that is a single
compound, and if it is written the same way without combinators and cuts. -/
theorem block_of_outOfFlow_selector (sheet : Sheet) (options : Options) (rule : Rule)
    (selector chain : String) (hframes : options.frames = true) (hrule : rule ∈ sheet.rules)
    (hout : rule.outOfFlow = true) (hselector : selector ∈ rule.selectors)
    (hchain : Chain.ofSelector? selector = some chain) :
    ∃ before block after,
      blocks sheet = before ++ block :: after ∧ block.chain = chain ∧
      (∀ other ∈ before ++ after, other.chain ≠ chain) ∧
      (∃ earlier later, entries sheet = earlier ++ ⟨block.rule, block.selector⟩ :: later ∧
        Chain.ofSelector? block.selector = some chain ∧
        ∀ e ∈ earlier, Chain.ofSelector? e.selector ≠ some chain) ∧
      render sheet options = around sheet options before
        (if Boxed sheet options block then Frame.wrap block.fragment options else block.fragment)
        after ∧
      (Boxed sheet options block ↔ block.rule.outOfFlow = true ∨
        ∃ other ∈ sheet.rules, other.outOfFlow = true ∧
          ∃ s ∈ other.selectors, s.toList <:+: (Chain.flatten block.selector).toList) ∧
      ((selector.toList <:+: (Chain.flatten block.selector).toList ∨ Chain.IsPlain selector ∨
          (block.selector = selector ∧
            ∀ c ∈ selector.toList, Chain.isCombinator c = false ∧ Chain.isCut c = false)) →
        render sheet options =
          around sheet options before (Frame.wrap block.fragment options) after) := by
  obtain ⟨before, block, after, hsplit, rfl, hothers, hown, earlier, later, hentries, hnew⟩ :=
    exists_block_of_selector hrule hselector hchain
  have hrender : render sheet options =
      around sheet options before (blockText sheet options block) after := render_split hsplit
  refine ⟨before, block, after, hsplit, rfl, hothers, ⟨earlier, later, hentries, hown, hnew⟩,
    hrender, ?_, ?_⟩
  · rw [Boxed]
    exact and_iff_right hframes
  · intro hspelling
    rw [hrender, ← blockText_eq_wrap_iff.2]
    rcases hspelling with hpiece | hplain | ⟨hsame, hunmarked⟩
    · exact boxed_of_registered hframes hrule hout hselector hpiece
    · exact boxed_of_isPlain hframes hrule hout hselector hplain hchain hown
    · have hflat : (Chain.flatten block.selector).toList = selector.toList := by
        rw [hsame, Chain.flatten, String.toList_ofList, Chain.flattenList_eq_self hunmarked]
      have hpiece : selector.toList <:+: (Chain.flatten block.selector).toList := by
        simp only [hflat, List.infix_refl]
      exact boxed_of_registered hframes hrule hout hselector hpiece

/-- A tooltip that is out of flow, after a rule in the flow whose selector has the same chain. -/
def hoveredTooltip : Sheet :=
  ⟨[⟨[".tooltip:hover"], [⟨"color", "red", false⟩]⟩,
    ⟨[".tooltip"], [⟨"position", "fixed", false⟩]⟩]⟩

/-- The tooltip stands in a frame, although its block is that of the rule before. -/
theorem block_of_hoveredTooltip :
    ∃ block, block.chain = ".tooltip" ∧
      ShownInFrame hoveredTooltip { href := "style.css" } block := by
  obtain ⟨before, block, after, hsplit, hchain, -, -, -, -, hboxed⟩ :=
    block_of_outOfFlow_selector hoveredTooltip { href := "style.css" }
      ⟨[".tooltip"], [⟨"position", "fixed", false⟩]⟩ ".tooltip" ".tooltip" rfl
      (by decide) (by decide) (by decide) (by decide +kernel)
  exact ⟨block, hchain, before, after, hsplit, hboxed (Or.inr (Or.inl (by decide)))⟩

end SelectorPreview.Document
