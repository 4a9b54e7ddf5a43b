import SelectorPreview.Proofs.FirstOccurrence
import SelectorPreview.Proofs.Registry
/-!
# The order of registration

A registry only grows at its end, and only by selectors that it does not hold yet. So after any
selectors it lists their first occurrences, and what it has once matched it goes on matching. The
registry of a sheet is one that has been given the selectors of the rules out of flow, in source
order; more of them may be registered later.

* `selectors_registerAll` : a registry lists the first occurrences of what it was given;
* `prefix_registerAll`, `matchesText_registerAll` : later registries go on from earlier ones;
* `registerAll_lists_first_occurrences` : both, for the registry of a sheet and for an empty one.
-/

namespace SelectorPreview.Frame.Registry

open Text

/-! ## One selector -/

/-- Registering a selector that is there already changes nothing. -/
theorem register_of_mem {registry : Registry} {selector : String}
    (h : selector ∈ registry.selectors) : registry.register selector = registry := by
  rw [register, if_pos (List.contains_iff_mem.2 h)]

/-- Another selector is put at the end. -/
theorem selectors_register_of_not_mem {registry : Registry} {selector : String}
    (h : selector ∉ registry.selectors) :
    (registry.register selector).selectors = registry.selectors ++ [selector] := by
  rw [register, if_neg fun hthere => h (List.contains_iff_mem.1 hthere)]

/-- Registering a selector leaves those that are there in front. -/
theorem prefix_register (registry : Registry) (selector : String) :
    registry.selectors <+: (registry.register selector).selectors := by
  by_cases h : selector ∈ registry.selectors
  · simp only [register_of_mem h, List.prefix_refl]
  · rw [selectors_register_of_not_mem h]
    exact List.prefix_append _ _

/-! ## Selectors one after another -/

/-- Selectors behind others are registered after these. -/
theorem registerAll_append (registry : Registry) (calls more : List String) :
    registry.registerAll (calls ++ more) = (registry.registerAll calls).registerAll more :=
  List.foldl_append

/-- **A registry only grows at its end.** -/
theorem prefix_registerAll (registry : Registry) (calls : List String) :
    registry.selectors <+: (registry.registerAll calls).selectors := by
  induction calls generalizing registry with
  | nil => exact List.prefix_refl _
  | cons selector rest ih => exact (prefix_register registry selector).trans (ih _)

/-- What matches a registry still does so after more selectors. -/
theorem matchesText_registerAll {registry : Registry} {text : String} (calls : List String)
    (h : registry.matchesText text = true) :
    (registry.registerAll calls).matchesText text = true := by
  rw [matchesText_iff] at h ⊢
  obtain ⟨selector, hselector, hpiece⟩ := h
  exact ⟨selector, (prefix_registerAll registry calls).subset hselector, hpiece⟩

/-- A registry that was empty holds the selectors that it was given. -/
theorem mem_registerAll_empty_iff {given : List String} {selector : String} :
    selector ∈ (registerAll {} given).selectors ↔ selector ∈ given := by
  rw [mem_registerAll_iff]
  simp only [List.not_mem_nil, false_or]

/-- **A registry lists the first occurrences** of the selectors that it was given. -/
theorem selectors_registerAll (given : List String) :
    (registerAll {} given).selectors = (firsts some given).map Prod.snd := by
  -- By induction from the end: the last selector meets the registry of those before it.
  induction given using List.reverseRecOn with
  | nil => rfl
  | append_singleton given selector ih =>
    have hkeys : given.filterMap some = given := List.filterMap_some
    rw [registerAll_append]
    show ((registerAll {} given).register selector).selectors = _
    by_cases h : selector ∈ given
    · rw [register_of_mem (mem_registerAll_empty_iff.2 h),
        firsts_concat_of_mem rfl (by rwa [hkeys]), ih]
    · rw [selectors_register_of_not_mem fun hthere => h (mem_registerAll_empty_iff.1 hthere),
        firsts_concat_of_not_mem rfl (by rwa [hkeys]), ih, List.map_append]
      rfl

/-! ## Registries of sheets -/

/-- The selectors of the rules of a sheet that are out of flow, in source order and as often as they
are written. -/
def outOfFlowSelectors (sheet : Sheet) : List String :=
  (sheet.rules.filter (·.outOfFlow)).flatMap (·.selectors)

/-- Selectors that are registered after those of a sheet come behind them. -/
theorem registerAll_ofSheet (sheet : Sheet) (calls : List String) :
    (ofSheet sheet).registerAll calls = registerAll {} (outOfFlowSelectors sheet ++ calls) :=
  (registerAll_append {} (outOfFlowSelectors sheet) calls).symm

/-- A registry lists selectors: it holds each of them once and nothing else, and one before another
if its first occurrence among them comes first. -/
structure Lists (registry : Registry) (given : List String) : Prop where
  nodup : registry.selectors.Nodup
  mem_iff : ∀ selector, selector ∈ registry.selectors ↔ selector ∈ given
  order : registry.selectors.Pairwise fun selector other =>
    given.idxOf selector < given.idxOf other

/-- A registry that was empty lists what it was given. -/
theorem lists_registerAll (given : List String) : (registerAll {} given).Lists given := by
  refine ⟨?nodup, ?mem, ?order⟩
  case nodup =>
    rw [selectors_registerAll]
    exact nodup_keys_firsts some given
  case mem =>
    intro selector
    exact mem_registerAll_empty_iff
  case order =>
    have horder := pairwise_keys_firsts some given
    rwa [List.filterMap_some, ← selectors_registerAll] at horder

/-- **The registry lists first occurrences.** After any calls, a registry that was empty lists the
selectors of the calls, and the registry of a sheet those of the rules out of flow, wherever these
stand, and then those of the calls. Whatever a registry began with, later calls leave what it holds
in front and the texts that it matches matching, and a call for a selector that is there changes
nothing. -/
theorem registerAll_lists_first_occurrences (sheet : Sheet) (calls : List String) :
    (registerAll {} calls).Lists calls ∧
    ((ofSheet sheet).registerAll calls).Lists (outOfFlowSelectors sheet ++ calls) ∧
    (∀ selector, selector ∈ outOfFlowSelectors sheet ↔
      ∃ rule ∈ sheet.rules, rule.outOfFlow = true ∧ selector ∈ rule.selectors) ∧
    ∀ start : Registry,
      (∀ more, (start.registerAll calls).selectors <+:
        (start.registerAll (calls ++ more)).selectors) ∧
      (∀ selector ∈ (start.registerAll calls).selectors,
        start.registerAll (calls ++ [selector]) = start.registerAll calls) ∧
      ∀ text, (start.registerAll calls).matchesText text = true →
        ∀ more, (start.registerAll (calls ++ more)).matchesText text = true := by
  refine ⟨lists_registerAll calls, ?sheet, ?outOfFlow, fun start => ⟨?later, ?again, ?matching⟩⟩
  case sheet =>
    rw [registerAll_ofSheet]
    exact lists_registerAll _
  case outOfFlow =>
    intro selector
    rw [← mem_registerAll_empty_iff]
    exact mem_ofSheet_iff
  case later =>
    intro more
    rw [registerAll_append]
    exact prefix_registerAll _ more
  case again =>
    intro selector hselector
    rw [registerAll_append]
    exact register_of_mem hselector
  case matching =>
    intro text htext more
    rw [registerAll_append]
    exact matchesText_registerAll more htext

/-- Tips and pops that are out of flow, with repetitions and with a card in the flow between. -/
def tipsAndPops : Sheet :=
  ⟨[⟨[".tip", ".pop", ".tip"], [⟨"position", "absolute", false⟩]⟩,
    ⟨[".card"], [⟨"position", "relative", false⟩]⟩,
    ⟨[".pop", "header"], [⟨"position", "sticky", true⟩]⟩]⟩

/-- The card is registered behind the selectors of the sheet, and the pop not again; the arrow of a
tip matches before and after. -/
theorem lists_tipsAndPops :
    (((ofSheet tipsAndPops).registerAll [".card", ".pop"]).Lists
      [".tip", ".pop", ".tip", ".pop", "header", ".card", ".pop"]) ∧
    ((ofSheet tipsAndPops).registerAll ([".card", ".pop"] ++ [".pop"]) =
      (ofSheet tipsAndPops).registerAll [".card", ".pop"]) ∧
    ((ofSheet tipsAndPops).registerAll ([".card", ".pop"] ++ [".new"])).matchesText ".tip .arrow" =
      true := by
  obtain ⟨-, hlists, -, hlater⟩ :=
    registerAll_lists_first_occurrences tipsAndPops [".card", ".pop"]
  obtain ⟨-, hagain, hmatches⟩ := hlater (ofSheet tipsAndPops)
  exact ⟨hlists, hagain ".pop" (by decide), hmatches ".tip .arrow" (by decide +kernel) [".new"]⟩

end SelectorPreview.Frame.Registry
