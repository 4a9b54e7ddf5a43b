import SelectorPreview.Proofs.Flattening
import SelectorPreview.Proofs.Registry
import SelectorPreview.Proofs.Selection
/-!
# Which blocks stand in frames

A block belongs into a frame when frames are wanted and its rule is out of flow, or when the
flattened text of its selector holds a selector of some rule that is out of flow. `Boxed` says this
of the sheet alone, without the registry that the document is made with.

* `framed_iff_boxed`, `Block.html_eq` : the document draws exactly the boxed blocks in frames;
* `boxed_of_registered`, `boxed_of_isPlain` : when a selector that is out of flow puts the block of
  its chain into a frame.
-/

namespace SelectorPreview.Document

open SelectorPreview.Frame

/-- Whether a block belongs into a frame, told by the rules of the sheet. -/
def Boxed (sheet : Sheet) (options : Options) (block : Block) : Prop :=
  options.frames = true ∧
    (block.rule.outOfFlow = true ∨
      ∃ rule ∈ sheet.rules, rule.outOfFlow = true ∧
        ∃ selector ∈ rule.selectors, selector.toList <:+: (Chain.flatten block.selector).toList)

instance (sheet : Sheet) (options : Options) (block : Block) :
    Decidable (Boxed sheet options block) :=
  inferInstanceAs (Decidable (_ ∧ (_ ∨ ∃ rule ∈ sheet.rules, _ ∧ ∃ selector ∈ rule.selectors, _)))

/-- With frames, a text matches the registry if it holds a selector of a rule that is out of flow.
-/
theorem matchesText_registry_iff {sheet : Sheet} {options : Options} {text : String}
    (h : options.frames = true) :
    (registry sheet options).matchesText text = true ↔
      ∃ rule ∈ sheet.rules, rule.outOfFlow = true ∧
        ∃ selector ∈ rule.selectors, selector.toList <:+: text.toList := by
  rw [registry, if_pos h, Registry.matchesText_iff]
  constructor
  · rintro ⟨selector, hselector, hpiece⟩
    obtain ⟨rule, hrule, hout, hmem⟩ := Registry.mem_ofSheet_iff.1 hselector
    exact ⟨rule, hrule, hout, selector, hmem, hpiece⟩
  · rintro ⟨rule, hrule, hout, selector, hmem, hpiece⟩
    exact ⟨selector, Registry.mem_ofSheet_iff.2 ⟨rule, hrule, hout, hmem⟩, hpiece⟩

/-- The blocks that the document puts into frames are the boxed ones. -/
theorem framed_iff_boxed {sheet : Sheet} {options : Options} {block : Block} :
    block.framed (registry sheet options) options = true ↔ Boxed sheet options block := by
  unfold Block.framed isNeeded Boxed
  rw [Bool.and_eq_true, Bool.or_eq_true]
  constructor
  · rintro ⟨hframes, h⟩
    rw [matchesText_registry_iff hframes] at h
    exact ⟨hframes, h⟩
  · rintro ⟨hframes, h⟩
    rw [matchesText_registry_iff hframes]
    exact ⟨hframes, h⟩

/-- A block is drawn in a frame if it is boxed, and else as its placeholders. -/
theorem Block.html_eq (sheet : Sheet) (options : Options) (block : Block) :
    block.html (registry sheet options) options =
      if Boxed sheet options block then Frame.wrap block.fragment options
      else block.fragment := by
  unfold Block.html
  simp only [framed_iff_boxed]

/-! ## Selectors that are out of flow -/

section OutOfFlow

variable {sheet : Sheet} {options : Options} {rule : Rule} {selector : String} {block : Block}

/-- A block is boxed if its flattened selector holds a selector that is out of flow. -/
theorem boxed_of_registered (hframes : options.frames = true) (hrule : rule ∈ sheet.rules)
    (hout : rule.outOfFlow = true) (hselector : selector ∈ rule.selectors)
    (hpiece : selector.toList <:+: (Chain.flatten block.selector).toList) :
    Boxed sheet options block :=
  ⟨hframes, Or.inr ⟨rule, hrule, hout, selector, hselector, hpiece⟩⟩

/-- A single compound that is out of flow puts the block of its chain into a frame. -/
theorem boxed_of_isPlain (hframes : options.frames = true) (hrule : rule ∈ sheet.rules)
    (hout : rule.outOfFlow = true) (hselector : selector ∈ rule.selectors)
    (hplain : Chain.IsPlain selector) (hchain : Chain.ofSelector? selector = some block.chain)
    (hblock : Chain.ofSelector? block.selector = some block.chain) : Boxed sheet options block :=
  boxed_of_registered hframes hrule hout hselector (Chain.plain_infix_flatten hplain hchain hblock)

end OutOfFlow

end SelectorPreview.Document
