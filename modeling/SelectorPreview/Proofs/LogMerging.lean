import SelectorPreview.Log.Filter
import SelectorPreview.Proofs.Lines
/-!
# Merging a log setting with the default threshold

A logger is set up with a default threshold and a setting. A level in the setting that stands alone
takes the place of the default, and a directive for some addresses leaves the default in place for
the others; the default itself decides nothing else. `Log.Lawful` says this of any logger, and
`logger_lawful` of the one that the directives of a setting are put in one after another.

* `foldl_insert` : the directives of a setting behind the default one;
* `threshold_cons` : the threshold of an address that directives for some addresses leave alone;
* `Lawful.shows_of_detail` : a default of more detail shows more.
-/

namespace SelectorPreview.Log

open Text

/-! ## What is relied on in a logger -/

/-- What a setting says, whatever default it meets. -/
structure Merged where
  /-- The level that takes the place of the default. -/
  bare : Option Threshold
  /-- The thresholds of the addresses that have one of their own. -/
  targeted : String → Option Threshold
  keeps : String → Bool
  warnings : String

/-- The threshold for an address. -/
def Merged.threshold (m : Merged) (default : Threshold) (address : String) : Threshold :=
  ((m.targeted address).or m.bare).getD default

/-- The logger of a setting with a default. -/
def Merged.logger (m : Merged) (default : Threshold) : Logger where
  warnings := m.warnings
  shows record :=
    (m.threshold default record.source.address).admits record.level && m.keeps record.text

/-- What is relied on in the way in which loggers are set up. -/
structure Lawful (logger : Threshold → Option String → Logger) : Prop where
  /-- Bare levels replace the default, and directives for addresses leave it to the others. -/
  merges : ∀ setting, ∃ m : Merged, ∀ default, logger default setting = m.logger default
  /-- The warnings about a setting are whole lines. -/
  closed_warnings : ∀ default setting, Closed (logger default setting).warnings

/-- A threshold shows no more than another one. -/
def Threshold.Within (s t : Threshold) : Prop :=
  ∀ level, s.admits level = true → t.admits level = true

/-- **A default of more detail shows more**, with the same warnings. -/
theorem Lawful.shows_of_within {logger : Threshold → Option String → Logger} (h : Lawful logger)
    {s t : Threshold} (hst : s.Within t) (setting : Option String) :
    (logger s setting).warnings = (logger t setting).warnings ∧
      ∀ record, (logger s setting).shows record = true →
        (logger t setting).shows record = true := by
  obtain ⟨m, hm⟩ := h.merges setting
  rw [hm, hm]
  refine ⟨rfl, fun record hshown => ?_⟩
  simp only [Merged.logger, Merged.threshold, Bool.and_eq_true] at hshown ⊢
  refine ⟨?_, hshown.2⟩
  -- The default counts only where the setting says nothing.
  cases hown : (m.targeted record.source.address).or m.bare with
  | none => exact hst _ (by simpa only [hown, Option.getD_none] using hshown.1)
  | some threshold => simpa only [hown, Option.getD_some] using hshown.1

/-! ## Directives behind a default -/

/-- The level of a list of directives that stands alone, the last one if there are several. -/
def bare? (directives : List Directive) : Option Threshold :=
  ((directives.filter (·.address.isNone)).getLast?).map (·.threshold)

/-- Whether all directives are for some addresses. -/
def AllTargeted (directives : List Directive) : Prop := ∀ d ∈ directives, d.address.isSome = true

namespace Directive

/-- A level that stands alone takes the place of the default. -/
theorem insert_bare {ds : List Directive} (h : AllTargeted ds) (s t : Threshold) :
    insert (⟨none, s⟩ :: ds) ⟨none, t⟩ = ⟨none, t⟩ :: ds := by
  have hkept : ∀ d ∈ ds, (if (d.address == none) = true then ⟨none, t⟩ else d) = d := by
    intro d hd
    have haddress := h d hd
    rw [if_neg]
    rw [beq_iff_eq]
    intro hnone
    rw [hnone] at haddress
    cases haddress
  unfold insert
  rw [if_pos (by simp), List.map_cons, List.map_congr_left hkept, List.map_id']
  rfl

/-- A directive for some addresses goes in behind the default. -/
theorem insert_targeted {d : Directive} (h : d.address.isSome = true) (s : Threshold)
    (ds : List Directive) : insert (⟨none, s⟩ :: ds) d = ⟨none, s⟩ :: insert ds d := by
  have hne : ((none : Option String) == d.address) = false := by
    cases haddress : d.address with
    | none => simp [haddress] at h
    | some start => rfl
  unfold insert
  rw [List.any_cons, List.map_cons, hne, Bool.false_or]
  split <;> rfl

/-- What is put in stands in the list, and all else was there before. -/
theorem mem_insert {ds : List Directive} {d e : Directive} (h : e ∈ insert ds d) :
    e ∈ ds ∨ e = d := by
  unfold insert at h
  split at h
  · obtain ⟨other, hother, rfl⟩ := List.mem_map.1 h
    split
    · exact Or.inr rfl
    · exact Or.inl hother
  · simpa using h

end Directive

/-- A directive for some addresses leaves all of them targeted. -/
theorem AllTargeted.insert {ds : List Directive} (h : AllTargeted ds) {d : Directive}
    (hd : d.address.isSome = true) : AllTargeted (Directive.insert ds d) := by
  intro e he
  rcases Directive.mem_insert he with he | rfl
  · exact h e he
  · exact hd

/-- **The directives of a setting behind the default one.** -/
theorem foldl_insert (directives : List Directive) {ds : List Directive} (h : AllTargeted ds)
    (default : Threshold) :
    directives.foldl Directive.insert (⟨none, default⟩ :: ds) =
      ⟨none, (bare? directives).getD default⟩ ::
        (directives.filter (·.address.isSome)).foldl Directive.insert ds := by
  induction directives generalizing ds default with
  | nil => rfl
  | cons d rest ih =>
    obtain ⟨address, threshold⟩ := d
    rw [List.foldl_cons]
    cases address with
    | none =>
      have hbare : (bare? (⟨none, threshold⟩ :: rest)).getD default =
          (bare? rest).getD threshold := by
        rw [bare?, bare?, List.filter_cons_of_pos (by rfl), List.getLast?_cons]
        cases (rest.filter (·.address.isNone)).getLast? <;> rfl
      rw [Directive.insert_bare h, ih h, hbare, List.filter_cons_of_neg (by simp)]
    | some start =>
      have hbare : bare? (⟨some start, threshold⟩ :: rest) = bare? rest := by
        rw [bare?, bare?, List.filter_cons_of_neg (by simp)]
      rw [Directive.insert_targeted rfl, ih (h.insert rfl), hbare,
        List.filter_cons_of_pos (by rfl), List.foldl_cons]

/-- The default directive gives way to every other one. -/
theorem foldl_longer_default (default : Threshold) (ds : List Directive) :
    ds.foldl Filter.longer (some ⟨none, default⟩) =
      some ((ds.foldl Filter.longer none).getD ⟨none, default⟩) := by
  have hsome : ∀ (l : List Directive) (best : Directive),
      (l.foldl Filter.longer (some best)).isSome = true := by
    intro l
    induction l with
    | nil => exact fun _ => rfl
    | cons d rest ih =>
      intro best
      rw [List.foldl_cons, Filter.longer]
      split
      · exact ih d
      · exact ih best
  cases ds with
  | nil => rfl
  | cons d rest =>
    have hfirst : Filter.longer (some ⟨none, default⟩) d = some d := by
      rw [Filter.longer, if_pos]
      exact Nat.zero_le _
    rw [List.foldl_cons, List.foldl_cons, hfirst]
    show rest.foldl Filter.longer (some d) = some ((rest.foldl Filter.longer (some d)).getD _)
    obtain ⟨best, hbest⟩ := Option.isSome_iff_exists.1 (hsome rest d)
    rw [hbest, Option.getD_some]

/-- **The threshold for an address behind a default**: that of the directives which apply to the
address, and the default if there are none. -/
theorem threshold_cons (default : Threshold) (ds : List Directive) (keeps : String → Bool)
    (address : String) :
    Filter.threshold ⟨⟨none, default⟩ :: ds, keeps⟩ address =
      (((ds.filter (·.applies address)).foldl Filter.longer none).map (·.threshold)).getD
        default := by
  have happlies : Directive.applies ⟨none, default⟩ address = true := rfl
  have hdefault : Filter.longer none ⟨none, default⟩ = some ⟨none, default⟩ := rfl
  rw [Filter.threshold]
  dsimp only
  rw [List.filter_cons, if_pos happlies, List.foldl_cons, hdefault, foldl_longer_default]
  cases (ds.filter (·.applies address)).foldl Filter.longer none <;> rfl

/-! ## The logger of the program -/

/-- What a setting says that has been read. -/
def Setting.merged (setting : Setting) : Merged where
  bare := bare? setting.directives
  targeted address :=
    ((((setting.directives.filter (·.address.isSome)).foldl Directive.insert []).filter
      (·.applies address)).foldl Filter.longer none).map (·.threshold)
  keeps := setting.keeps
  warnings := String.join (setting.problems.map Setting.warning)

/-- **The logger that the program sets up is lawful**, however patterns are read. -/
theorem logger_lawful (reader : PatternReader) : Lawful (logger reader) where
  merges := by
    intro text
    refine ⟨(Setting.ofText reader (text.getD "")).merged, fun default => ?_⟩
    generalize hsetting : Setting.ofText reader (text.getD "") = setting
    have hthreshold : ∀ address, (Filter.ofSetting default setting).threshold address =
        setting.merged.threshold default address := by
      intro address
      rw [Filter.ofSetting, foldl_insert _ (fun _ h => absurd h List.not_mem_nil), threshold_cons]
      simp only [Merged.threshold, Setting.merged]
      cases ((((setting.directives.filter (·.address.isSome)).foldl Directive.insert []).filter
        (·.applies address)).foldl Filter.longer none).map (·.threshold) <;> rfl
    have hshows : (Filter.ofSetting default setting).admits =
        (setting.merged.logger default).shows := by
      funext record
      rw [Filter.admits, hthreshold]
      rfl
    rw [logger, hsetting, hshows]
    rfl
  closed_warnings := by
    intro default text
    refine closed_join fun t ht => ?_
    obtain ⟨problem, -, rfl⟩ := List.mem_map.1 ht
    exact closed_append_of_eq ", ignoring it" (by decide)

end SelectorPreview.Log
