import SelectorPreview.Proofs.Flattening
import SelectorPreview.Proofs.Registry
/-!
# Which registered selectors count

A registered selector is looked for as it is written, but in a flattened text, where combinators are
spaces and nothing follows the first cut. So a selector with a combinator or a cut is never found, and
a registry acts through its other selectors only. If none of these holds a blank, they are found in
the segments of the chain, and all selectors with one chain get the same answer.

* `isFlat_of_infix_flatten` : which selectors can stand in a flattened text;
* `matchesText_flatten` : the other ones can be left out of the registry;
* `matchesText_flatten_by_segments` : the answer told by the segments of the chain.
-/

namespace SelectorPreview

namespace Chain

open Text

/-! ## Texts without combinators and cuts -/

/-- Whether a selector holds neither combinators nor cuts. -/
def isFlat (selector : String) : Bool :=
  selector.toList.all fun c => ! isCombinator c && ! isCut c

/-- A selector is flat if none of its characters is a combinator or a cut. -/
theorem isFlat_iff {selector : String} :
    isFlat selector = true ↔
      ∀ c ∈ selector.toList, isCombinator c = false ∧ isCut c = false := by
  simp [isFlat]

/-- A flattened character is no combinator. -/
theorem isCombinator_flatChar (c : Char) : isCombinator (flatChar c) = false := by
  unfold flatChar
  split
  · decide
  · rename_i h
    simpa using h

/-- A flattened text holds neither combinators nor cuts. -/
theorem unmarked_of_mem_flattenList {s : List Char} {c : Char} (h : c ∈ flattenList s) :
    isCombinator c = false ∧ isCut c = false := by
  have hcut : isCut c = false := by
    simpa using List.mem_takeWhile_imp h
  have hflat : c ∈ s.map flatChar := List.takeWhile_subset _ h
  obtain ⟨d, -, rfl⟩ := List.mem_map.1 hflat
  exact ⟨isCombinator_flatChar d, hcut⟩

/-- **Only flat selectors stand in a flattened text.** -/
theorem isFlat_of_infix_flatten {selector text : String}
    (h : selector.toList <:+: (flatten text).toList) : isFlat selector = true := by
  rw [isFlat_iff]
  intro c hc
  have hmem : c ∈ (flatten text).toList := h.subset hc
  rw [flatten, String.toList_ofList] at hmem
  exact unmarked_of_mem_flattenList hmem

/-- A flat selector without blanks is a single compound. -/
theorem isPlain_of_isFlat {selector : String} (hflat : isFlat selector = true)
    (hblank : ∀ c ∈ selector.toList, isBlank c = false) : IsPlain selector := by
  intro c hc
  exact ⟨hblank c hc, isFlat_iff.1 hflat c hc⟩

end Chain

namespace Frame.Registry

open Text

/-! ## The selectors that count -/

/-- The registry with those of its selectors only that hold neither combinators nor cuts. -/
def flatOnly (registry : Registry) : Registry := ⟨registry.selectors.filter Chain.isFlat⟩

/-- The selectors that are left are the flat ones. -/
theorem mem_flatOnly_iff {registry : Registry} {selector : String} :
    selector ∈ registry.flatOnly.selectors ↔
      selector ∈ registry.selectors ∧ Chain.isFlat selector = true :=
  List.mem_filter

/-- **A flattened text matches by flat selectors only.** -/
theorem matchesText_flatten (registry : Registry) (text : String) :
    registry.matchesText (Chain.flatten text) =
      registry.flatOnly.matchesText (Chain.flatten text) := by
  rw [Bool.eq_iff_iff, matchesText_iff, matchesText_iff]
  constructor
  · rintro ⟨selector, hselector, hpiece⟩
    exact ⟨selector, mem_flatOnly_iff.2 ⟨hselector, Chain.isFlat_of_infix_flatten hpiece⟩, hpiece⟩
  · rintro ⟨selector, hselector, hpiece⟩
    exact ⟨selector, (mem_flatOnly_iff.1 hselector).1, hpiece⟩

/-- The answer to a selector is told by the segments of its chain if no flat selector holds a blank.
-/
theorem matchesText_flatten_iff_segment {registry : Registry}
    (hblank : ∀ selector ∈ registry.flatOnly.selectors, ∀ c ∈ selector.toList, isBlank c = false)
    {text chain : String} (hchain : Chain.ofSelector? text = some chain) :
    registry.matchesText (Chain.flatten text) = true ↔
      ∃ selector ∈ registry.flatOnly.selectors, ∃ segment ∈ Chain.segments chain,
        selector.toList <:+: segment.toList := by
  have hplain : ∀ selector ∈ registry.flatOnly.selectors, Chain.IsPlain selector :=
    fun selector hselector =>
      Chain.isPlain_of_isFlat (mem_flatOnly_iff.1 hselector).2 (hblank selector hselector)
  rw [matchesText_flatten, matchesText_iff]
  constructor
  · rintro ⟨selector, hselector, hpiece⟩
    exact ⟨selector, hselector,
      (Chain.plain_infix_flatten_iff (hplain selector hselector) hchain).1 hpiece⟩
  · rintro ⟨selector, hselector, hsegment⟩
    exact ⟨selector, hselector,
      (Chain.plain_infix_flatten_iff (hplain selector hselector) hchain).2 hsegment⟩

/-- **Registered selectors act on flattened texts through the flat ones among them.** If none of these
holds a blank, a selector that has a chain matches exactly if one of them stands in a segment of the
chain. So selectors with the same chain match both or neither, however they are spelled. -/
theorem matchesText_flatten_by_segments (registry : Registry) :
    (∀ text, registry.matchesText (Chain.flatten text) =
      registry.flatOnly.matchesText (Chain.flatten text)) ∧
    ((∀ selector ∈ registry.flatOnly.selectors, ∀ c ∈ selector.toList, isBlank c = false) →
      (∀ text chain, Chain.ofSelector? text = some chain →
        (registry.matchesText (Chain.flatten text) = true ↔
          ∃ selector ∈ registry.flatOnly.selectors, ∃ segment ∈ Chain.segments chain,
            selector.toList <:+: segment.toList)) ∧
      ∀ text other chain, Chain.ofSelector? text = some chain →
        Chain.ofSelector? other = some chain →
        registry.matchesText (Chain.flatten text) =
          registry.matchesText (Chain.flatten other)) := by
  refine ⟨matchesText_flatten registry, fun hblank => ⟨?_, ?_⟩⟩
  · intro text chain hchain
    exact matchesText_flatten_iff_segment hblank hchain
  · intro text other chain hchain hother
    rw [Bool.eq_iff_iff, matchesText_flatten_iff_segment hblank hchain,
      matchesText_flatten_iff_segment hblank hother]

/-- A navigation bar, a child selector and a state of a tip. -/
def barAndChild : Registry := registerAll {} [".nav", ".menu > li", ".tip:hover"]

/-- The bar is found in an item of another bar, in both spellings of it, and the child selector is not
found in its own flattened text. -/
theorem matches_barAndChild :
    (∀ selector ∈ barAndChild.flatOnly.selectors, ∀ c ∈ selector.toList, isBlank c = false) ∧
      Chain.ofSelector? "ul.navigation>.item" = some "ul.navigation .item" ∧
      Chain.ofSelector? "ul.navigation  .item:hover" = some "ul.navigation .item" ∧
      barAndChild.matchesText (Chain.flatten "ul.navigation>.item") = true ∧
      barAndChild.matchesText (Chain.flatten "ul.navigation  .item:hover") = true ∧
      barAndChild.matchesText (Chain.flatten ".menu > li") = false := by
  have hblank : ∀ selector ∈ barAndChild.flatOnly.selectors, ∀ c ∈ selector.toList,
      isBlank c = false := by
    have hall : barAndChild.flatOnly.selectors.all (·.toList.all (! isBlank ·)) = true := by
      decide +kernel
    simpa using hall
  have hchild : Chain.ofSelector? "ul.navigation>.item" = some "ul.navigation .item" := by
    decide +kernel
  have hhover : Chain.ofSelector? "ul.navigation  .item:hover" = some "ul.navigation .item" := by
    decide +kernel
  obtain ⟨hflat, hsegments⟩ := matchesText_flatten_by_segments barAndChild
  obtain ⟨htold, hsame⟩ := hsegments hblank
  have hfound : barAndChild.matchesText (Chain.flatten "ul.navigation>.item") = true :=
    (htold _ _ hchild).2 ⟨".nav", by decide +kernel, "ul.navigation", by decide +kernel,
      "ul".toList, "igation".toList, by decide⟩
  refine ⟨hblank, hchild, hhover, hfound, ?_, ?_⟩
  · rw [← hsame _ _ _ hchild hhover, hfound]
  · rw [hflat]
    decide +kernel

end Frame.Registry

end SelectorPreview
