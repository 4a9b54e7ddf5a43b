import SelectorPreview.Proofs.Assembly
import SelectorPreview.Proofs.Nesting
/-!
# Selectors in rules of their own

A rule with several selectors says the same as several rules with one selector each and with the same
declarations. Splitting the rules of a sheet up in this way leaves its selectors in order, each with
the same declarations, so the same selectors get a block and the same ones are registered. All that
changes is the label, which is the selector list of the rule; it stands in a block as a text and
decides nothing.

* `blocks_ungrouped`, `registry_ungrouped` : the blocks and the registry of the split sheet;
* `Block.html_eq_around` : where the label stands in a block;
* `render_ungrouped` : the two documents.
-/

namespace SelectorPreview

/-! ## Splitting rules up -/

/-- One selector with the declarations of a rule. -/
def Rule.alone (rule : Rule) (selector : String) : Rule := { rule with selectors := [selector] }

/-- A rule for each selector of a rule, in list order. -/
def Rule.ungrouped (rule : Rule) : List Rule := rule.selectors.map rule.alone

/-- The sheet with a rule for each selector. -/
def Sheet.ungrouped (sheet : Sheet) : Sheet := ⟨sheet.rules.flatMap Rule.ungrouped⟩

/-- A selector in a rule of its own is out of flow as it was before. -/
theorem Rule.outOfFlow_alone (rule : Rule) (selector : String) :
    (rule.alone selector).outOfFlow = rule.outOfFlow := rfl

/-- The label of a rule with one selector is this selector. -/
theorem Rule.label_alone (rule : Rule) (selector : String) :
    (rule.alone selector).label = selector := by
  simp [label, alone]

/-- Without their grouping the same selectors are out of flow. -/
theorem Rule.registered_ungrouped (rules : List Rule) :
    ((rules.flatMap Rule.ungrouped).filter (·.outOfFlow)).flatMap (·.selectors) =
      (rules.filter (·.outOfFlow)).flatMap (·.selectors) := by
  induction rules with
  | nil => rfl
  | cons rule rest ih =>
    have hselectors : rule.ungrouped.flatMap (·.selectors) = rule.selectors := by
      simp [ungrouped, alone, List.flatMap_map]
    rw [List.flatMap_cons, List.filter_append, List.flatMap_append, ih, List.filter_cons]
    -- The new rules are out of flow all together or none of them.
    cases hout : rule.outOfFlow with
    | true =>
      have hall : rule.ungrouped.filter (·.outOfFlow) = rule.ungrouped := by
        simp [ungrouped, outOfFlow_alone, hout]
      rw [hall, hselectors, if_pos rfl, List.flatMap_cons]
    | false =>
      have hnone : rule.ungrouped.filter (·.outOfFlow) = [] := by
        simp [ungrouped, outOfFlow_alone, hout]
      rw [hnone, if_neg (by decide)]
      rfl

namespace Document

open Markup

/-- An entry in a rule of its own. -/
def Entry.alone (e : Entry) : Entry := ⟨e.rule.alone e.selector, e.selector⟩

/-- A block that is made for a selector in a rule of its own. -/
def Block.alone (block : Block) : Block :=
  { block with rule := block.rule.alone block.selector }

/-- The selectors of the split sheet are those of the sheet, each in a rule of its own. -/
theorem entries_ungrouped (sheet : Sheet) :
    entries sheet.ungrouped = (entries sheet).map Entry.alone := by
  unfold entries Sheet.ungrouped
  rw [List.flatMap_assoc, List.map_flatMap]
  congr 1
  funext rule
  rw [Rule.ungrouped, List.flatMap_map, ruleEntries, List.map_map, List.map_eq_flatMap]
  rfl

/-- **The blocks of the split sheet** are made for the same selectors with the same chains. -/
theorem blocks_ungrouped (sheet : Sheet) :
    blocks sheet.ungrouped = (blocks sheet).map Block.alone := by
  rw [blocks_eq_kept, blocks_eq_kept, kept, kept, keptOf, keptOf, entries_ungrouped, firsts_map,
    List.map_map, List.map_map]
  rfl

/-- **The registry of the split sheet** is that of the sheet. -/
theorem registry_ungrouped (sheet : Sheet) (options : Options) :
    registry sheet.ungrouped options = registry sheet options := by
  rw [registry, registry, Frame.Registry.ofSheet, Frame.Registry.ofSheet, Sheet.ungrouped,
    Rule.registered_ungrouped]

/-! ## The place of the label -/

/-- What stands in a frame before the fragment. -/
def frameBeginning (options : Options) : String :=
  "<iframe style=\"" ++ Frame.borderStyle ++ "\" width=\"" ++
    Text.decimal options.frameWidth.toNat ++ "\" height=\"" ++
    Text.decimal options.frameHeight.toNat ++ "\" srcdoc=\"" ++ escape (Frame.pageHead options)

/-- What stands in a frame behind the fragment. -/
def frameEnd : String := "\"></iframe><br/>\n"

/-- A frame holds the escaped fragment. -/
theorem wrap_eq (fragment : String) (options : Options) :
    Frame.wrap fragment options = frameBeginning options ++ escape fragment ++ frameEnd := rfl

/-- What stands in the block of a chain before the label. -/
def beforeLabel (framed : Bool) (options : Options) (chain : String) : String :=
  let openings := String.join ((Chain.segments chain).map Placeholder.openingOf)
  if framed then frameBeginning options ++ escape openings else openings

/-- What stands in the block of a chain behind the label. -/
def behindLabel (framed : Bool) (chain : String) : String :=
  let closings := String.join ((Chain.segments chain).reverse.map Placeholder.closingOf)
  if framed then escape closings ++ frameEnd else closings

/-- The text of a label. In a frame it is escaped once more, with the page. -/
def labelText (framed : Bool) (label : String) : String :=
  if framed then escape (escape label) else escape label

/-- **The label stands in a block as a text.** What is around it goes with the chain, and with whether
there is a frame. -/
theorem Block.html_eq_around (registry : Frame.Registry) (options : Options) (block : Block) :
    block.html registry options =
      beforeLabel (block.framed registry options) options block.chain ++
        labelText (block.framed registry options) block.rule.label ++
        behindLabel (block.framed registry options) block.chain := by
  have hfragment := Placeholder.drawChain_append (Chain.segments block.chain) [] block.rule.label
  rw [List.append_nil, Placeholder.drawChain] at hfragment
  rw [Block.html, Block.fragment, hfragment]
  cases block.framed registry options with
  | false => rfl
  | true =>
    simp only [if_true, beforeLabel, labelText, behindLabel, wrap_eq, escape_append,
      String.append_assoc]

/-! ## The two documents -/

/-- Two blocks of a sheet and of the split sheet that differ in their label at most: they are made for
one selector and one chain, both stand in a frame or neither does, and around the selector list of the
one and the selector of the other stands the same text. -/
structure SameButLabel (sheet : Sheet) (options : Options) (block single : Block) : Prop where
  chain : single.chain = block.chain
  selector : single.selector = block.selector
  rule : single.rule = block.rule.alone block.selector
  framed : ShownInFrame sheet.ungrouped options single ↔ ShownInFrame sheet options block
  html : ∃ framed before behind,
    (framed = true ↔ ShownInFrame sheet options block) ∧
    block.html (registry sheet options) options =
      before ++ labelText framed block.rule.label ++ behind ∧
    single.html (registry sheet.ungrouped options) options =
      before ++ labelText framed block.selector ++ behind

/-- A block and the one that is made for its selector alone differ in their label at most. -/
theorem sameButLabel_alone {sheet : Sheet} (options : Options) {block : Block}
    (hblock : block ∈ blocks sheet) : SameButLabel sheet options block block.alone := by
  have hshown : ∀ {sheet : Sheet} {block : Block}, block ∈ blocks sheet →
      (block.framed (registry sheet options) options = true ↔ ShownInFrame sheet options block) := by
    intro sheet block hblock
    rw [framed_iff_boxed, shownInFrame_iff, and_iff_right hblock]
  have halone : block.alone ∈ blocks sheet.ungrouped := by
    rw [blocks_ungrouped]
    exact List.mem_map_of_mem hblock
  have hframed : block.alone.framed (registry sheet.ungrouped options) options =
      block.framed (registry sheet options) options := by
    rw [registry_ungrouped]
    rfl
  refine ⟨rfl, rfl, rfl, ?_, _, _, _, hshown hblock,
    Block.html_eq_around (registry sheet options) options block, ?_⟩
  · rw [← hshown halone, hframed, hshown hblock]
  · have hlabel : block.alone.rule.label = block.selector := Rule.label_alone _ _
    rw [Block.html_eq_around, hframed, hlabel]
    rfl

/-- **Grouping selectors does not change the structure of a document.** The sheet with a rule for each
selector has the same chains in the same order. Each has a frame in both documents or in neither, and
the two blocks of a chain are the same but for the label, where the whole selector list of the rule
stands in the one and the selector alone in the other. -/
theorem render_ungrouped (sheet : Sheet) (options : Options) :
    render sheet options =
        opening options.href ++
          String.join ((blocks sheet).map (Block.html (registry sheet options) options)) ++
          closing ∧
      render sheet.ungrouped options =
        opening options.href ++
          String.join ((blocks sheet.ungrouped).map
            (Block.html (registry sheet.ungrouped options) options)) ++
          closing ∧
      List.Forall₂ (SameButLabel sheet options) (blocks sheet) (blocks sheet.ungrouped) := by
  refine ⟨rfl, rfl, ?_⟩
  rw [blocks_ungrouped, List.forall₂_map_right_iff, List.forall₂_same]
  intro block hblock
  exact sameButLabel_alone options hblock

end Document

end SelectorPreview
