import Mathlib.Data.List.Forall2
import SelectorPreview.Proofs.Attribute
import SelectorPreview.Proofs.Framing
/-!
# Switching frames on and off

The same sheet is drawn with frames and without. Both documents have the same fragments in the same
order; with frames, some of them stand in a frame, from whose page they can be read back. The
switch changes nothing else, and nothing at all for a sheet in which no rule is out of flow.
-/

namespace SelectorPreview.Document

/-- Without frames the document is its fragments between the opening and the end. -/
theorem render_withFrames_false (sheet : Sheet) (options : Options) :
    render sheet (options.withFrames false) =
      opening options.href ++ String.join ((blocks sheet).map Block.fragment) ++ closing := by
  have hhtml : Block.html (registry sheet (options.withFrames false)) (options.withFrames false) =
      Block.fragment := by
    funext block
    rw [Block.html_eq, if_neg]
    rintro ⟨hframes, -⟩
    exact absurd hframes (by simp [Options.withFrames])
  rw [render, hhtml]
  rfl

/-- With frames a block is its fragment, or this fragment in a frame that gives it back. -/
theorem html_withFrames_true (sheet : Sheet) (options : Options) (block : Block) :
    let text := block.html (registry sheet (options.withFrames true)) (options.withFrames true)
    text = block.fragment ∨
      (text = Frame.wrap block.fragment options ∧
        Frame.content? options text = some block.fragment) := by
  intro text
  have htext : text = if Boxed sheet (options.withFrames true) block
      then Frame.wrap block.fragment (options.withFrames true) else block.fragment :=
    Block.html_eq sheet (options.withFrames true) block
  by_cases hboxed : Boxed sheet (options.withFrames true) block
  · rw [if_pos hboxed] at htext
    right
    rw [htext]
    exact ⟨rfl, Frame.content?_wrap block.fragment options⟩
  · left
    rw [htext, if_neg hboxed]

/-- Without rules that are out of flow no block is boxed. -/
theorem not_boxed_of_inFlow {sheet : Sheet} (options : Options) {block : Block}
    (hflow : ∀ rule ∈ sheet.rules, rule.outOfFlow = false) (hblock : block ∈ blocks sheet) :
    ¬ Boxed sheet options block := by
  rintro ⟨-, hout | ⟨rule, hrule, hout, -⟩⟩
  · rw [blocks_eq_kept] at hblock
    obtain ⟨-, before, after, hentries, -⟩ := mem_kept_iff.1 hblock
    have hentry : (⟨block.rule, block.selector⟩ : Entry) ∈ entries sheet := by
      simp [hentries]
    rw [hflow _ (mem_entries_iff.1 hentry).1] at hout
    cases hout
  · rw [hflow rule hrule] at hout
    cases hout

/-- **Framed and inline documents agree.** There is one list of fragments, one for each kept
selector. Without frames the document shows these; with frames it shows each of them as it is, or in
a frame whose `srcdoc`, decoded once and without the head of its page, is the fragment again. If no
rule is out of flow, the two documents are the same. -/
theorem framed_and_inline_agree (sheet : Sheet) (options : Options) :
    (∃ fragments shown : List String,
      fragments = (kept sheet).map Block.fragment ∧
      render sheet (options.withFrames false) =
        opening options.href ++ String.join fragments ++ closing ∧
      render sheet (options.withFrames true) =
        opening options.href ++ String.join shown ++ closing ∧
      List.Forall₂ (fun fragment text => text = fragment ∨
        (text = Frame.wrap fragment options ∧ Frame.content? options text = some fragment))
        fragments shown) ∧
    ((∀ rule ∈ sheet.rules, rule.outOfFlow = false) →
      render sheet (options.withFrames true) = render sheet (options.withFrames false)) := by
  constructor
  · refine ⟨_, (blocks sheet).map (Block.html (registry sheet (options.withFrames true))
      (options.withFrames true)), rfl, ?_, rfl, ?_⟩
    · rw [render_withFrames_false, blocks_eq_kept]
    · rw [blocks_eq_kept, List.forall₂_map_left_iff, List.forall₂_map_right_iff, List.forall₂_same]
      intro block _
      exact html_withFrames_true sheet options block
  · intro hflow
    have hhtml : ∀ block ∈ blocks sheet,
        block.html (registry sheet (options.withFrames true)) (options.withFrames true) =
          block.fragment := by
      intro block hblock
      rw [Block.html_eq, if_neg (not_boxed_of_inFlow _ hflow hblock)]
    rw [render_withFrames_false, render, List.map_congr_left hhtml]
    rfl

/-- A sheet with a single card, which is in the flow. -/
def cardSheet : Sheet := ⟨[⟨[".card"], [⟨"color", "red", false⟩]⟩]⟩

/-- Frames change nothing about a card. -/
theorem render_cardSheet :
    (∀ rule ∈ cardSheet.rules, rule.outOfFlow = false) ∧
      render cardSheet (Options.withFrames { href := "style.css" } true) =
        render cardSheet (Options.withFrames { href := "style.css" } false) := by
  have hflow : ∀ rule ∈ cardSheet.rules, rule.outOfFlow = false := by decide +kernel
  exact ⟨hflow, (framed_and_inline_agree cardSheet { href := "style.css" }).2 hflow⟩

end SelectorPreview.Document
