import Mathlib.Data.List.Forall2
import SelectorPreview.Proofs.Appending
/-!
# What declarations show

The document of a sheet shows no declarations. It is made of the selectors of the rules, and all
that it lets through of their declarations is whether each rule is out of flow; without frames not
even that. Two sheets are compared in step: related rules give related blocks in both loops, the
chains met are the same after each rule, and so is the registry that is filled beforehand.

* `pickSelectors_rel`, `blocks_rel` : related rules give related blocks;
* `registry_eq_of_alike` : the registry is told by selectors and positions;
* `render_of_same_positions` : so is the document.
-/

namespace SelectorPreview.Document

/-! ## Blocks of related rules -/

section Related

variable {rel : Rule → Rule → Prop}

/-- Two blocks for the same selector and the same chain, of related rules. -/
structure BlockRel (rel : Rule → Rule → Prop) (block other : Block) : Prop where
  rule : rel block.rule other.rule
  selector : block.selector = other.selector
  chain : block.chain = other.chain

/-- The inner loop picks related blocks for related rules, and has met the same chains after them.
-/
theorem pickSelectors_rel {rule other : Rule} (h : rel rule other) (seen : Chain.Seen)
    (selectors : List String) :
    List.Forall₂ (BlockRel rel) (pickSelectors rule seen selectors).1
        (pickSelectors other seen selectors).1 ∧
      (pickSelectors rule seen selectors).2 = (pickSelectors other seen selectors).2 := by
  induction selectors generalizing seen with
  | nil => exact ⟨.nil, rfl⟩
  | cons selector rest ih =>
    unfold pickSelectors
    -- Both runs take the same turn, since it is decided by the selector and the chains met.
    split
    · exact ih seen
    · rename_i chain _
      split
      · exact ih seen
      · obtain ⟨hblocks, hseen⟩ := ih (seen.insert chain)
        exact ⟨.cons ⟨h, rfl, rfl⟩ hblocks, hseen⟩

variable (hselectors : ∀ rule other, rel rule other → rule.selectors = other.selectors)

include hselectors

/-- The outer loop picks related blocks for related rules with the same selectors. -/
theorem pickRules_rel {rules others : List Rule} (h : List.Forall₂ rel rules others)
    (seen : Chain.Seen) :
    List.Forall₂ (BlockRel rel) ((pickRules seen rules).flatMap (·.2))
      ((pickRules seen others).flatMap (·.2)) := by
  induction h generalizing seen with
  | nil => exact .nil
  | @cons rule other rules others hrule _ ih =>
    obtain ⟨hblocks, hseen⟩ := pickSelectors_rel hrule seen rule.selectors
    rw [pickRules, pickRules, List.flatMap_cons, List.flatMap_cons,
      ← hselectors rule other hrule, ← hseen]
    exact List.rel_append hblocks (ih _)

/-- Sheets of related rules with the same selectors have related blocks. -/
theorem blocks_rel {sheet other : Sheet} (h : List.Forall₂ rel sheet.rules other.rules) :
    List.Forall₂ (BlockRel rel) (blocks sheet) (blocks other) :=
  pickRules_rel hselectors h {}

/-- Related blocks of rules with the same selectors have the same fragment. -/
theorem BlockRel.fragment_eq {block other : Block} (h : BlockRel rel block other) :
    block.fragment = other.fragment := by
  rw [Block.fragment, Block.fragment, Rule.label, Rule.label, h.chain,
    hselectors _ _ h.rule]

end Related

/-! ## Alike rules -/

/-- Two rules that differ in their declarations at most, and are out of flow both or neither. -/
structure Alike (rule other : Rule) : Prop where
  selectors : rule.selectors = other.selectors
  outOfFlow : rule.outOfFlow = other.outOfFlow

/-- Alike rules register the same selectors. -/
theorem registered_eq_of_alike {rules others : List Rule} (h : List.Forall₂ Alike rules others) :
    (rules.filter (·.outOfFlow)).flatMap (·.selectors) =
      (others.filter (·.outOfFlow)).flatMap (·.selectors) := by
  induction h with
  | nil => rfl
  | cons hrule _ ih =>
    rw [List.filter_cons, List.filter_cons, hrule.outOfFlow]
    split
    · rw [List.flatMap_cons, List.flatMap_cons, ih, hrule.selectors]
    · exact ih

/-- The registry is told by the selectors of the rules and by which of them are out of flow. -/
theorem registry_eq_of_alike {sheet other : Sheet} (options : Options)
    (h : List.Forall₂ Alike sheet.rules other.rules) :
    registry sheet options = registry other options := by
  rw [registry, registry, Frame.Registry.ofSheet, Frame.Registry.ofSheet, registered_eq_of_alike h]

/-- Related blocks of alike rules are drawn alike, with the same registry. -/
theorem BlockRel.html_eq {block other : Block} (h : BlockRel Alike block other)
    (registry : Frame.Registry) (options : Options) :
    block.html registry options = other.html registry options := by
  have hfragment : block.fragment = other.fragment := h.fragment_eq fun _ _ => Alike.selectors
  rw [Block.html, Block.html, Block.framed, Block.framed, Frame.isNeeded, Frame.isNeeded,
    hfragment, h.selector, h.rule.outOfFlow]

/-! ## Documents -/

/-- Blocks that are the same text one by one are the same list of texts. -/
theorem map_eq_of_forall₂ {blocks others : List Block} {text shown : Block → String}
    (h : List.Forall₂ (fun block other => text block = shown other) blocks others) :
    blocks.map text = others.map shown := by
  rw [← List.forall₂_eq_eq_eq, List.forall₂_map_left_iff, List.forall₂_map_right_iff]
  exact h

/-- **Of the declarations only the position shows.** Two sheets with the same selector lists rule by
rule have the same document if the same rules are out of flow. Without frames they have it anyway,
whatever the sizes of the frames would be. -/
theorem render_of_same_positions (sheet other : Sheet)
    (hselectors : sheet.rules.map (·.selectors) = other.rules.map (·.selectors)) :
    (sheet.rules.map (·.outOfFlow) = other.rules.map (·.outOfFlow) →
      ∀ options, render sheet options = render other options) ∧
    ∀ options settings : Options, options.frames = false → settings.frames = false →
      options.href = settings.href → render sheet options = render other settings := by
  rw [← List.forall₂_eq_eq_eq, List.forall₂_map_left_iff, List.forall₂_map_right_iff] at hselectors
  constructor
  · intro hflow options
    rw [← List.forall₂_eq_eq_eq, List.forall₂_map_left_iff, List.forall₂_map_right_iff] at hflow
    have halike : List.Forall₂ Alike sheet.rules other.rules :=
      List.Forall₂.mp (fun _ _ hsame hout => ⟨hsame, hout⟩) hselectors hflow
    have hblocks : List.Forall₂ (BlockRel Alike) (blocks sheet) (blocks other) :=
      blocks_rel (fun _ _ => Alike.selectors) halike
    rw [render, render, registry_eq_of_alike options halike,
      map_eq_of_forall₂ (hblocks.imp fun _ _ hblock => hblock.html_eq _ options)]
  · intro options settings hoptions hsettings hhref
    have hblocks := blocks_rel (fun _ _ hsame => hsame) hselectors
    rw [render_of_inline _ hoptions, render_of_inline _ hsettings, hhref,
      map_eq_of_forall₂ (hblocks.imp fun _ _ hblock => hblock.fragment_eq fun _ _ hsame => hsame)]

/-- A tooltip and its arrow; the tooltip is fixed. -/
def fixedTooltip : Sheet :=
  ⟨[⟨[".tooltip"], [⟨"position", "fixed", false⟩]⟩,
    ⟨[".tooltip .arrow"], [⟨"color", "red", false⟩]⟩]⟩

/-- The same selectors; the tooltip is out of flow by an important declaration that another one
does not override, and the arrow has a position that is overridden. -/
def stickyTooltip : Sheet :=
  ⟨[⟨[".tooltip"], [⟨"POSITION", " Sticky ", true⟩, ⟨"position", "static", false⟩]⟩,
    ⟨[".tooltip .arrow"], [⟨"position", "absolute", false⟩, ⟨"position", "relative", false⟩]⟩]⟩

/-- The same selectors in the flow. -/
def plainTooltip : Sheet := ⟨[⟨[".tooltip"], []⟩, ⟨[".tooltip .arrow"], []⟩]⟩

/-- Both tooltips have the same document with frames, and without frames also the one in the flow
has it. -/
theorem render_stickyTooltip :
    render fixedTooltip { href := "style.css" } = render stickyTooltip { href := "style.css" } ∧
      render fixedTooltip { href := "style.css", frames := false } =
        render plainTooltip { href := "style.css", frames := false, frameWidth := 1 } :=
  ⟨(render_of_same_positions fixedTooltip stickyTooltip rfl).1 (by decide) _,
    (render_of_same_positions fixedTooltip plainTooltip rfl).2 _ _ rfl rfl rfl⟩

end SelectorPreview.Document
