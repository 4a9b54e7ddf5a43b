import SelectorPreview.Proofs.Framing
/-!
# The document as a whole

The document is its opening, one text for each kept selector of the sheet, and its end. Which
selectors are kept and which blocks are boxed is told by the sheet alone, so that this describes
the document without the loops that make it. What a document shows of a block is the text between
the texts of the blocks before and behind it.

* `render_eq_blockTexts`, `render_split` : the document block by block, and around one block;
* `shows_iff`, `shownInFrame_iff` : the text that stands for a block in the document;
* `render_shows_first_occurrences` : the blocks of a document are the first occurrences of the
  chains.
-/

namespace SelectorPreview.Document

/-! ## Block by block -/

/-- The text of a block: the placeholders of its chain around the selector list of its rule, in a
frame if the block is boxed. -/
def blockText (sheet : Sheet) (options : Options) (block : Block) : String :=
  let fragment := Placeholder.drawChain (Chain.segments block.chain) block.rule.label
  if Boxed sheet options block then Frame.wrap fragment options else fragment

/-- The document of a sheet, block by block. -/
theorem render_eq_blockTexts (sheet : Sheet) (options : Options) :
    render sheet options =
      opening options.href ++ String.join ((kept sheet).map (blockText sheet options)) ++
        closing := by
  have htexts : Block.html (registry sheet options) options = blockText sheet options := by
    funext block
    exact Block.html_eq sheet options block
  rw [render, blocks_eq_kept, htexts]

/-- **The document shows the first occurrence of each chain.** It is the opening, the texts of the
kept selectors in order, and the end; no two of them have the same chain, and the chains shown are
exactly those that selectors of the sheet have. -/
theorem render_shows_first_occurrences (sheet : Sheet) (options : Options) :
    render sheet options =
        opening options.href ++ String.join ((kept sheet).map (blockText sheet options)) ++
          closing ∧
      ((kept sheet).map (·.chain)).Nodup ∧
      ∀ chain, chain ∈ (kept sheet).map (·.chain) ↔
        ∃ rule ∈ sheet.rules, ∃ selector ∈ rule.selectors,
          Chain.ofSelector? selector = some chain :=
  ⟨render_eq_blockTexts sheet options, nodup_chains_kept sheet, fun _ => mem_chains_kept_iff⟩

/-! ## Around one block -/

/-- The texts of some blocks of a sheet after one another. -/
def blockTexts (sheet : Sheet) (options : Options) (some : List Block) : String :=
  String.join (some.map (blockText sheet options))

/-- A document with a text between the texts of some blocks of a sheet. -/
def around (sheet : Sheet) (options : Options) (before : List Block) (text : String)
    (after : List Block) : String :=
  opening options.href ++
    (blockTexts sheet options before ++ text ++ blockTexts sheet options after) ++ closing

/-- Whether the document of a sheet shows a block as a text: the text stands in the document between
those of the blocks before and behind it. -/
def Shows (sheet : Sheet) (options : Options) (block : Block) (text : String) : Prop :=
  ∃ before after, blocks sheet = before ++ block :: after ∧
    render sheet options = around sheet options before text after

/-- Whether the document of a sheet shows a block in a frame. -/
def ShownInFrame (sheet : Sheet) (options : Options) (block : Block) : Prop :=
  Shows sheet options block (Frame.wrap block.fragment options)

section Around

variable {sheet : Sheet} {options : Options} {block : Block} {text : String}

/-- **The document around one block.** -/
theorem render_split {before after : List Block} (h : blocks sheet = before ++ block :: after) :
    render sheet options = around sheet options before (blockText sheet options block) after := by
  rw [render_eq_blockTexts, ← blocks_eq_kept, h, List.map_append, List.map_cons,
    String.join_append, String.join_cons]
  simp only [around, blockTexts, String.append_assoc]

/-- A document is around one text at most. -/
theorem around_inj {before after : List Block} {other : String} :
    around sheet options before text after = around sheet options before other after ↔
      text = other := by
  rw [around, around, String.append_left_inj, String.append_right_inj, String.append_left_inj,
    String.append_right_inj]

/-- **What a document shows of a block** is the text of the block, if it has the block. -/
theorem shows_iff :
    Shows sheet options block text ↔
      block ∈ blocks sheet ∧ text = blockText sheet options block := by
  constructor
  · rintro ⟨before, after, hblocks, hrender⟩
    rw [render_split hblocks, around_inj] at hrender
    refine ⟨?_, hrender.symm⟩
    rw [hblocks]
    exact List.mem_append_right _ List.mem_cons_self
  · rintro ⟨hblock, rfl⟩
    obtain ⟨before, after, hblocks⟩ := List.append_of_mem hblock
    exact ⟨before, after, hblocks, render_split hblocks⟩

end Around

/-! ## Frames in the document -/

/-- Escaping makes no text shorter. -/
theorem length_le_length_escapeList (s : List Char) :
    s.length ≤ (Markup.escapeList s).length := by
  induction s with
  | nil => exact Nat.le_refl 0
  | cons c rest ih =>
    have hpos : 0 < (Markup.escapeChar c).length := by
      unfold Markup.escapeChar
      split <;> simp
    have hsplit : Markup.escapeList (c :: rest) =
        Markup.escapeChar c ++ Markup.escapeList rest := by
      simp [Markup.escapeList]
    rw [hsplit, List.length_append, List.length_cons]
    omega

/-- A frame is longer than the fragment in it. -/
theorem length_lt_length_wrap (fragment : String) (options : Options) :
    fragment.toList.length < (Frame.wrap fragment options).toList.length := by
  have hescape := length_le_length_escapeList fragment.toList
  have hend : 0 < "\"></iframe><br/>\n".toList.length := by
    rw [String.toList_ofList]
    exact Nat.succ_pos _
  unfold Frame.wrap
  rw [String.toList_append, String.toList_append, Markup.toList_escape, List.length_append,
    List.length_append]
  omega

/-- The text of a block is a frame if the block is boxed. -/
theorem blockText_eq_wrap_iff {sheet : Sheet} {options : Options} {block : Block} :
    Frame.wrap block.fragment options = blockText sheet options block ↔
      Boxed sheet options block := by
  show Frame.wrap block.fragment options =
    (if Boxed sheet options block then Frame.wrap block.fragment options else block.fragment) ↔ _
  constructor
  · intro h
    by_contra hboxed
    rw [if_neg hboxed] at h
    have hlength := length_lt_length_wrap block.fragment options
    rw [h] at hlength
    exact Nat.lt_irrefl _ hlength
  · intro hboxed
    rw [if_pos hboxed]

/-- The blocks that are shown in frames are the boxed ones. -/
theorem shownInFrame_iff {sheet : Sheet} {options : Options} {block : Block} :
    ShownInFrame sheet options block ↔ block ∈ blocks sheet ∧ Boxed sheet options block := by
  rw [ShownInFrame, shows_iff, blockText_eq_wrap_iff]

end SelectorPreview.Document
