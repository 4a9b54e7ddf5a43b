import SelectorPreview.Proofs.Assembly
import SelectorPreview.Proofs.FrameSwitch
/-!
# More rules at the end of a sheet

Rules that are put at the end of a sheet leave the blocks before them as they are and add blocks for
their new chains. They reach back in one way only: a rule that is out of flow is registered before
the first block is drawn, so it can put an earlier block into a frame, namely one whose flattened
selector holds a selector of that rule.

* `blocks_append` : the blocks of a longer sheet;
* `boxed_append_iff` : the frames of a longer sheet;
* `render_append` : the document of a longer sheet;
* `document_of_appended_rules` : all of it together, and the documents that more rules do not change.
-/

namespace SelectorPreview.Document

/-! ## Blocks -/

/-- The chains of the selectors of a sheet in order, with repetitions. -/
def chains (sheet : Sheet) : List String := (entries sheet).filterMap Entry.chain?

/-- The blocks that more rules add: the first entries of those chains that the rules before them do
not have. -/
def addedBlocks (first more : List Rule) : List Block :=
  (kept ⟨more⟩).filter fun block => block.chain ∉ chains ⟨first⟩

/-- The selectors of a longer sheet are those of its two parts. -/
theorem entries_append (first more : List Rule) :
    entries ⟨first ++ more⟩ = entries ⟨first⟩ ++ entries ⟨more⟩ :=
  List.flatMap_append

/-- What is kept of more entries does not have the chains of the entries before. -/
theorem keptOf_append (l more : List Entry) :
    keptOf (l ++ more) =
      keptOf l ++ (keptOf more).filter fun block => block.chain ∉ l.filterMap Entry.chain? := by
  rw [keptOf, firsts_append, List.map_append, keptOf, keptOf, List.filter_map]
  rfl

/-- **The blocks of a longer sheet** are those of its first part, and after them the added ones. -/
theorem blocks_append (first more : List Rule) :
    blocks ⟨first ++ more⟩ = blocks ⟨first⟩ ++ addedBlocks first more := by
  rw [blocks_eq_kept, blocks_eq_kept, kept, entries_append, keptOf_append]
  rfl

/-- The added blocks have the chains of the second part that are not in the first one. -/
theorem mem_chains_addedBlocks_iff {first more : List Rule} {chain : String} :
    chain ∈ (addedBlocks first more).map (·.chain) ↔
      chain ∈ chains ⟨more⟩ ∧ chain ∉ chains ⟨first⟩ := by
  have hkept : chain ∈ (kept ⟨more⟩).map (·.chain) ↔ chain ∈ chains ⟨more⟩ := by
    rw [mem_chains_kept_iff, chains, mem_chains_entries_iff]
  rw [← hkept]
  simp only [addedBlocks, List.mem_map, List.mem_filter, decide_eq_true_eq]
  constructor
  · rintro ⟨block, ⟨hblock, hnew⟩, rfl⟩
    exact ⟨⟨block, hblock, rfl⟩, hnew⟩
  · rintro ⟨⟨block, hblock, rfl⟩, hnew⟩
    exact ⟨block, ⟨hblock, hnew⟩, rfl⟩

/-- No two added blocks have the same chain. -/
theorem nodup_chains_addedBlocks (first more : List Rule) :
    ((addedBlocks first more).map (·.chain)).Nodup :=
  (nodup_chains_kept ⟨more⟩).sublist (List.filter_sublist.map _)

/-- Without new chains no block is added. -/
theorem addedBlocks_eq_nil {first more : List Rule}
    (h : ∀ chain ∈ chains ⟨more⟩, chain ∈ chains ⟨first⟩) : addedBlocks first more = [] := by
  rw [← List.map_eq_nil_iff (f := (·.chain)), List.eq_nil_iff_forall_not_mem]
  intro chain hchain
  obtain ⟨hmore, hfirst⟩ := mem_chains_addedBlocks_iff.1 hchain
  exact hfirst (h chain hmore)

/-! ## Frames -/

/-- Whether the flattened selector of a block holds a selector of one of some rules that is out of
flow. -/
def HoldsOutOfFlow (rules : List Rule) (block : Block) : Prop :=
  ∃ rule ∈ rules, rule.outOfFlow = true ∧
    ∃ selector ∈ rule.selectors, selector.toList <:+: (Chain.flatten block.selector).toList

instance (rules : List Rule) (block : Block) : Decidable (HoldsOutOfFlow rules block) :=
  inferInstanceAs (Decidable (∃ rule ∈ rules, _ ∧ ∃ selector ∈ rule.selectors, _))

/-- **The frames of a longer sheet** are those of its first part, and those for the selectors that
are out of flow in the second one. -/
theorem boxed_append_iff {first more : List Rule} {options : Options} {block : Block} :
    Boxed ⟨first ++ more⟩ options block ↔
      Boxed ⟨first⟩ options block ∨ (options.frames = true ∧ HoldsOutOfFlow more block) := by
  constructor
  · rintro ⟨hframes, hout | ⟨rule, hrule, hout, hholds⟩⟩
    · exact Or.inl ⟨hframes, Or.inl hout⟩
    · rcases List.mem_append.1 hrule with hfirst | hmore
      · exact Or.inl ⟨hframes, Or.inr ⟨rule, hfirst, hout, hholds⟩⟩
      · exact Or.inr ⟨hframes, rule, hmore, hout, hholds⟩
  · rintro (⟨hframes, hout | ⟨rule, hrule, hout, hholds⟩⟩ | ⟨hframes, rule, hrule, hout, hholds⟩)
    · exact ⟨hframes, Or.inl hout⟩
    · exact ⟨hframes, Or.inr ⟨rule, List.mem_append_left _ hrule, hout, hholds⟩⟩
    · exact ⟨hframes, Or.inr ⟨rule, List.mem_append_right _ hrule, hout, hholds⟩⟩

/-- Rules whose selectors that are out of flow are registered already change no frame. -/
theorem boxed_append_iff_of_registered {first more : List Rule} {options : Options} {block : Block}
    (h : ∀ rule ∈ more, rule.outOfFlow = true → ∀ selector ∈ rule.selectors,
      ∃ other ∈ first, other.outOfFlow = true ∧ selector ∈ other.selectors) :
    Boxed ⟨first ++ more⟩ options block ↔ Boxed ⟨first⟩ options block := by
  rw [boxed_append_iff]
  constructor
  · rintro (hboxed | ⟨hframes, rule, hrule, hout, selector, hselector, hholds⟩)
    · exact hboxed
    · obtain ⟨other, hother, hotherOut, hmem⟩ := h rule hrule hout selector hselector
      exact boxed_of_registered hframes hother hotherOut hmem hholds
  · exact Or.inl

/-! ## Documents -/

/-- The text of a block in the document of a longer sheet. -/
theorem blockText_append (first more : List Rule) (options : Options) (block : Block) :
    blockText ⟨first ++ more⟩ options block =
      if Boxed ⟨first⟩ options block ∨ (options.frames = true ∧ HoldsOutOfFlow more block)
      then Frame.wrap block.fragment options else block.fragment := by
  simp only [blockText, boxed_append_iff]
  rfl

/-- **The document of a longer sheet** shows the blocks of its first part and the added ones behind
them. -/
theorem render_append (first more : List Rule) (options : Options) :
    render ⟨first ++ more⟩ options =
      opening options.href ++ (blockTexts ⟨first ++ more⟩ options (blocks ⟨first⟩) ++
        blockTexts ⟨first ++ more⟩ options (addedBlocks first more)) ++ closing := by
  rw [render_eq_blockTexts, ← blocks_eq_kept, blocks_append, List.map_append, String.join_append,
    blockTexts, blockTexts]

/-- A document without frames is the fragments of its blocks between the opening and the end. -/
theorem render_of_inline {options : Options} (sheet : Sheet) (h : options.frames = false) :
    render sheet options =
      opening options.href ++ String.join ((blocks sheet).map Block.fragment) ++ closing := by
  have hsame : options.withFrames false = options := by
    rw [Options.withFrames, ← h]
  rw [← render_withFrames_false, hsame]

/-- Rules without new chains and without new selectors that are out of flow leave the document as it
is. -/
theorem render_append_of_known {first more : List Rule} (options : Options)
    (hchains : ∀ chain ∈ chains ⟨more⟩, chain ∈ chains ⟨first⟩)
    (hregistered : ∀ rule ∈ more, rule.outOfFlow = true → ∀ selector ∈ rule.selectors,
      ∃ other ∈ first, other.outOfFlow = true ∧ selector ∈ other.selectors) :
    render ⟨first ++ more⟩ options = render ⟨first⟩ options := by
  have hblocks : blocks ⟨first ++ more⟩ = blocks ⟨first⟩ := by
    rw [blocks_append, addedBlocks_eq_nil hchains, List.append_nil]
  have hhtml : Block.html (registry ⟨first ++ more⟩ options) options =
      Block.html (registry ⟨first⟩ options) options := by
    funext block
    simp only [Block.html_eq, boxed_append_iff_of_registered hregistered]
  rw [render, render, hblocks, hhtml]

/-- The chains of some rules of a sheet are chains of the sheet. -/
theorem chains_subset {first more : List Rule} (h : ∀ rule ∈ more, rule ∈ first) :
    ∀ chain ∈ chains ⟨more⟩, chain ∈ chains ⟨first⟩ := by
  intro chain hchain
  obtain ⟨rule, hrule, hselector⟩ := mem_chains_entries_iff.1 hchain
  exact mem_chains_entries_iff.2 ⟨rule, h rule hrule, hselector⟩

/-- **Appending rules is incremental.** The blocks of the longer sheet are those of the first part,
and after them one for each chain of the second part that the first one does not have, in the order
in which these chains first occur there. The document shows the blocks of the first part with the
same fragments as before, and the added ones behind them. Without frames the body of the first part
is the beginning of the body of the whole. With frames a block of the first part stands in a frame
exactly if it did so before or its flattened selector holds a selector that is out of flow in the
second part. If the second part has no new chain and no new selector that is out of flow, in
particular if it repeats rules of the first part, the document stays the same. -/
theorem document_of_appended_rules (first more : List Rule) (options : Options) :
    (blocks ⟨first ++ more⟩ = blocks ⟨first⟩ ++ addedBlocks first more ∧
      ((addedBlocks first more).map (·.chain)).Nodup ∧
      ∀ chain, chain ∈ (addedBlocks first more).map (·.chain) ↔
        chain ∈ chains ⟨more⟩ ∧ chain ∉ chains ⟨first⟩) ∧
    (render ⟨first⟩ options = opening options.href ++
        String.join ((blocks ⟨first⟩).map fun block =>
          if Boxed ⟨first⟩ options block
          then Frame.wrap block.fragment options else block.fragment) ++ closing ∧
      render ⟨first ++ more⟩ options = opening options.href ++
        (String.join ((blocks ⟨first⟩).map fun block =>
          if Boxed ⟨first⟩ options block ∨ (options.frames = true ∧ HoldsOutOfFlow more block)
          then Frame.wrap block.fragment options else block.fragment) ++
        blockTexts ⟨first ++ more⟩ options (addedBlocks first more)) ++ closing) ∧
    (options.frames = false → ∃ begun added,
      begun = String.join ((blocks ⟨first⟩).map Block.fragment) ∧
      added = String.join ((addedBlocks first more).map Block.fragment) ∧
      render ⟨first⟩ options = opening options.href ++ begun ++ closing ∧
      render ⟨first ++ more⟩ options = opening options.href ++ (begun ++ added) ++ closing) ∧
    (options.frames = true → ∀ block ∈ blocks ⟨first⟩,
      (ShownInFrame ⟨first ++ more⟩ options block ↔
        ShownInFrame ⟨first⟩ options block ∨ HoldsOutOfFlow more block)) ∧
    ((∀ chain ∈ chains ⟨more⟩, chain ∈ chains ⟨first⟩) →
      (∀ rule ∈ more, rule.outOfFlow = true → ∀ selector ∈ rule.selectors,
        ∃ other ∈ first, other.outOfFlow = true ∧ selector ∈ other.selectors) →
      render ⟨first ++ more⟩ options = render ⟨first⟩ options) ∧
    ((∀ rule ∈ more, rule ∈ first) →
      render ⟨first ++ more⟩ options = render ⟨first⟩ options) := by
  refine ⟨⟨blocks_append first more, nodup_chains_addedBlocks first more,
    fun _ => mem_chains_addedBlocks_iff⟩, ⟨?old, ?grown⟩, ?inline, ?framed,
    render_append_of_known options, ?repeated⟩
  case old =>
    rw [render_eq_blockTexts, ← blocks_eq_kept]
    rfl
  case grown =>
    simp only [render_append, ← blockText_append]
    rfl
  case inline =>
    intro hinline
    refine ⟨_, _, rfl, rfl, render_of_inline ⟨first⟩ hinline, ?_⟩
    rw [render_of_inline _ hinline, blocks_append, List.map_append, String.join_append]
  case framed =>
    intro hframes block hblock
    have hgrown : block ∈ blocks ⟨first ++ more⟩ := by
      rw [blocks_append]
      exact List.mem_append_left _ hblock
    rw [shownInFrame_iff, shownInFrame_iff, boxed_append_iff]
    simp only [hframes, hblock, hgrown, true_and]
  case repeated =>
    intro hrepeated
    apply render_append_of_known options (chains_subset hrepeated)
    intro rule hrule hout selector hselector
    exact ⟨rule, hrepeated rule hrule, hout, hselector⟩

/-- An item of a navigation bar. -/
def navigationItem : List Rule := [⟨[".nav .item"], [⟨"color", "red", false⟩]⟩]

/-- A navigation bar that stays at the edge of the page. -/
def stickyNavigation : List Rule := [⟨[".nav"], [⟨"position", "sticky", false⟩]⟩]

/-- The rule of the bar puts the item before it into a frame, adds a block, and changes nothing when
it is repeated. -/
theorem document_of_stickyNavigation :
    (∃ block ∈ blocks ⟨navigationItem⟩,
      ¬ ShownInFrame ⟨navigationItem⟩ { href := "style.css" } block ∧
      ShownInFrame ⟨navigationItem ++ stickyNavigation⟩ { href := "style.css" } block) ∧
    (∃ begun added,
      begun = String.join ((blocks ⟨navigationItem⟩).map Block.fragment) ∧
      added = String.join ((addedBlocks navigationItem stickyNavigation).map Block.fragment) ∧
      render ⟨navigationItem⟩ { href := "style.css", frames := false } =
        opening "style.css" ++ begun ++ closing ∧
      render ⟨navigationItem ++ stickyNavigation⟩ { href := "style.css", frames := false } =
        opening "style.css" ++ (begun ++ added) ++ closing) ∧
    render ⟨(navigationItem ++ stickyNavigation) ++ stickyNavigation⟩ { href := "style.css" } =
      render ⟨navigationItem ++ stickyNavigation⟩ { href := "style.css" } ∧
    render ⟨stickyNavigation ++ stickyNavigation⟩ { href := "style.css" } =
      render ⟨stickyNavigation⟩ { href := "style.css" } := by
  obtain ⟨-, -, -, hframes, -, -⟩ :=
    document_of_appended_rules navigationItem stickyNavigation { href := "style.css" }
  obtain ⟨-, -, hinline, -, -, -⟩ :=
    document_of_appended_rules navigationItem stickyNavigation
      { href := "style.css", frames := false }
  obtain ⟨-, -, -, -, hknown, -⟩ :=
    document_of_appended_rules (navigationItem ++ stickyNavigation) stickyNavigation
      { href := "style.css" }
  obtain ⟨-, -, -, -, -, hrepeated⟩ :=
    document_of_appended_rules stickyNavigation stickyNavigation { href := "style.css" }
  have hitem : ∃ block ∈ blocks ⟨navigationItem⟩,
      ¬ Boxed ⟨navigationItem⟩ { href := "style.css" } block ∧
      HoldsOutOfFlow stickyNavigation block := by
    decide +kernel
  obtain ⟨block, hblock, hunboxed, hholds⟩ := hitem
  refine ⟨⟨block, hblock, ?_, ?_⟩, hinline rfl, hknown (by decide +kernel) (by decide +kernel),
    hrepeated (by decide)⟩
  · rw [shownInFrame_iff]
    exact fun hshown => hunboxed hshown.2
  · exact (hframes rfl block hblock).2 (Or.inr hholds)

end SelectorPreview.Document
