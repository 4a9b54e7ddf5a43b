import SelectorPreview.Proofs.Appending
import SelectorPreview.Proofs.DrawingPass
/-!
# The log as a trace of the document

What is logged about a sheet can be told from its rules: which selectors of a rule get a block is
decided by the chains of the selectors before them, and which segments are warned of by the segments
themselves. So the log can be read back: its lines that begin with a tab are the chains of the
blocks in document order, and apart from its first record it does not depend on the settings.

* `picks_eq_addedBlocks` : the blocks of a rule are those that it adds to the rules before it;
* `records_eq_trace` : the log, told by rules, chains and segments;
* `filterMap_tabbed?_records` : the chains that are read back from the log;
* `log_traces_document` : all of it, with the pass that makes document and log together.
-/

namespace SelectorPreview.Document

/-! ## What a log is to show -/

/-- The error of a segment that cannot be taken apart. -/
def segmentError? (segment : String) : Option PreviewError :=
  match Segment.parts segment with
  | .ok _ => none
  | .error fault => some (.invalidSegment segment fault.reason)

/-- The trace of a block: its chain behind a tab, then a warning for each of its segments that
cannot be taken apart, from the outermost one on. -/
def blockTrace (block : Block) : List Log.Record :=
  ⟨.debug, .document, "\t" ++ block.chain⟩ ::
    ((Chain.segments block.chain).filterMap segmentError?).map fun e =>
      ⟨.warn, .placeholder, e.message⟩

/-- The trace of a rule: its selector list, the rule in full, then its blocks. -/
def ruleTrace (rule : Rule) (blocks : List Block) : List Log.Record :=
  ⟨.debug, .document, "CSS Rule: " ++ rule.label⟩ :: ⟨.trace, .document, rule.listing⟩ ::
    blocks.flatMap blockTrace

/-- The record with the registered selectors. -/
def registryRecord (sheet : Sheet) (options : Options) : Log.Record :=
  ⟨.debug, .document,
    "Out-of-flow selectors: " ++ Text.quotedList (registry sheet options).selectors⟩

/-- The rest of a record that begins with a tab. -/
def tabbed? (record : Log.Record) : Option String :=
  match record.text.toList with
  | '\t' :: rest => some (String.ofList rest)
  | _ => none

/-! ## The blocks of a rule -/

/-- After some rules, the inner loop picks the blocks that one more rule adds to them. -/
theorem pickSelectors_eq_addedBlocks {before : List Rule} {seen : Chain.Seen}
    (h : Met (entries ⟨before⟩) seen) (rule : Rule) :
    (pickSelectors rule seen rule.selectors).1 = addedBlocks before [rule] ∧
      Met (entries ⟨before ++ [rule]⟩) (pickSelectors rule seen rule.selectors).2 := by
  obtain ⟨hpicks, hmet⟩ := pickSelectors_eq rule rule.selectors _ seen h
  have hone : entries ⟨[rule]⟩ = rule.selectors.map (⟨rule, ·⟩) := List.flatMap_singleton ..
  rw [← hone] at hpicks hmet
  rw [← entries_append] at hmet
  refine ⟨?_, hmet⟩
  -- The chains met stand for the entries before; what they have kept is on both sides.
  rw [keptOf_append] at hpicks
  exact (List.append_cancel_left hpicks).symm

/-- After some rules, the outer loop picks for each rule what it adds to the rules before it. -/
theorem pickRules_eq_addedBlocks (rules before : List Rule) (seen : Chain.Seen)
    (h : Met (entries ⟨before⟩) seen) :
    pickRules seen rules = (rules.zipIdx before.length).map fun (rule, place) =>
      (rule, addedBlocks ((before ++ rules).take place) [rule]) := by
  induction rules generalizing before seen with
  | nil => rfl
  | cons rule rest ih =>
    obtain ⟨hpicks, hmet⟩ := pickSelectors_eq_addedBlocks h rule
    -- For the other rules this one is among those before, so that their places stay the same.
    have hrest := ih (before ++ [rule]) _ hmet
    rw [List.length_append, List.length_singleton, List.append_assoc,
      List.singleton_append] at hrest
    show (rule, (pickSelectors rule seen rule.selectors).1) :: pickRules _ rest =
      (rule, addedBlocks ((before ++ rule :: rest).take before.length) [rule]) :: _
    rw [List.take_left, ← hpicks, hrest]

/-- **The blocks of a rule** are those that it adds to the rules before it. -/
theorem picks_eq_addedBlocks (sheet : Sheet) :
    picks sheet = sheet.rules.zipIdx.map fun (rule, place) =>
      (rule, addedBlocks (sheet.rules.take place) [rule]) :=
  pickRules_eq_addedBlocks sheet.rules [] {} met_nil

/-! ## The log -/

/-- A segment is warned of if it cannot be taken apart, with its error. -/
theorem warnings_eq (segment : String) :
    Placeholder.warnings segment =
      (segmentError? segment).toList.map fun e => ⟨.warn, .placeholder, e.message⟩ := by
  unfold Placeholder.warnings segmentError? Parts.ofSegment
  cases Segment.parts segment <;> rfl

/-- The records of a block are its trace. -/
theorem Block.records_eq_blockTrace (block : Block) : block.records = blockTrace block := by
  rw [Block.records, blockTrace]
  congr 1
  induction Chain.segments block.chain with
  | nil => rfl
  | cons segment rest ih =>
    rw [List.flatMap_cons, ih, warnings_eq]
    cases h : segmentError? segment with
    | none => rw [List.filterMap_cons_none h]; rfl
    | some e => rw [List.filterMap_cons_some h]; rfl

/-- The records of a rule with some blocks are its trace with these blocks. -/
theorem ruleRecords_eq_ruleTrace (rule : Rule) (blocks : List Block) :
    ruleRecords rule blocks = ruleTrace rule blocks := by
  rw [ruleRecords, ruleTrace, funext Block.records_eq_blockTrace]

/-- **The log told by the rules.** After the registered selectors come the traces of the rules, each
with the blocks that the rule adds to the rules before it. -/
theorem records_eq_trace (sheet : Sheet) (options : Options) :
    records sheet options = registryRecord sheet options ::
      sheet.rules.zipIdx.flatMap fun (rule, place) =>
        ruleTrace rule (addedBlocks (sheet.rules.take place) [rule]) := by
  rw [records, picks_eq_addedBlocks, List.flatMap_map, registryRecord]
  simp only [ruleRecords_eq_ruleTrace]

/-! ## Reading the log -/

/-- A text that begins with another character than a tab does not stand behind a tab. -/
theorem tabbed?_eq_none {level : Log.Level} {source : Log.Source} {first rest : String} {c : Char}
    (hfirst : first.toList.head? = some c) (hc : c ≠ '\t') :
    tabbed? ⟨level, source, first ++ rest⟩ = none := by
  obtain ⟨others, hothers⟩ := List.head?_eq_some_iff.1 hfirst
  unfold tabbed?
  rw [String.toList_append, hothers, List.cons_append]
  split
  · rename_i heq
    exact absurd (List.cons.inj heq).1 hc
  · rfl

/-- A warning about a segment does not begin with a tab. -/
theorem tabbed?_message_of_segmentError? {segment : String} {e : PreviewError}
    (h : segmentError? segment = some e) : tabbed? ⟨.warn, .placeholder, e.message⟩ = none := by
  unfold segmentError? at h
  cases hparts : Segment.parts segment with
  | ok parts =>
    rw [hparts] at h
    cases h
  | error fault =>
    rw [hparts] at h
    obtain rfl := Option.some.inj h
    show tabbed? ⟨.warn, .placeholder,
      "Invalid selector segment '" ++ segment ++ "': " ++ fault.reason⟩ = none
    simp only [String.append_assoc]
    exact tabbed?_eq_none (c := 'I') (by simp) (by decide)

/-- In the trace of a block only the first record begins with a tab. -/
theorem filterMap_tabbed?_blockTrace (block : Block) :
    (blockTrace block).filterMap tabbed? = [block.chain] := by
  have hchain : tabbed? ⟨.debug, .document, "\t" ++ block.chain⟩ = some block.chain := by
    simp [tabbed?]
  rw [blockTrace, List.filterMap_cons_some hchain, List.filterMap_map, List.cons_eq_cons,
    List.filterMap_eq_nil_iff]
  refine ⟨rfl, ?_⟩
  intro e he
  obtain ⟨segment, -, herror⟩ := List.mem_filterMap.1 he
  exact tabbed?_message_of_segmentError? herror

/-- In the trace of a rule only the chains of its blocks stand behind a tab. -/
theorem filterMap_tabbed?_ruleTrace (rule : Rule) (blocks : List Block) :
    (ruleTrace rule blocks).filterMap tabbed? = blocks.map (·.chain) := by
  have hlabel : tabbed? ⟨.debug, .document, "CSS Rule: " ++ rule.label⟩ = none :=
    tabbed?_eq_none (c := 'C') (by simp) (by decide)
  have hlisting : tabbed? ⟨.trace, .document, rule.listing⟩ = none := by
    simp only [Rule.listing, String.append_assoc]
    exact tabbed?_eq_none (c := 'S') (by simp) (by decide)
  rw [ruleTrace, List.filterMap_cons_none hlabel, List.filterMap_cons_none hlisting,
    List.filterMap_flatMap]
  simp only [filterMap_tabbed?_blockTrace, ← List.map_eq_flatMap]

/-- **The chains behind a tab** are those of the blocks, in document order. -/
theorem filterMap_tabbed?_records (sheet : Sheet) (options : Options) :
    (records sheet options).filterMap tabbed? = (blocks sheet).map (·.chain) := by
  have hregistry : tabbed? (registryRecord sheet options) = none :=
    tabbed?_eq_none (c := 'O') (by simp) (by decide)
  rw [records, ← registryRecord, List.filterMap_cons_none hregistry, List.filterMap_flatMap, blocks,
    List.map_flatMap]
  simp only [ruleRecords_eq_ruleTrace, filterMap_tabbed?_ruleTrace]

/-- **The log is an exact trace of the document.** The pass that draws the document logs these
records: the registered selectors, then for each rule its selector list and the rule in full, and
for each block that the rule adds to the rules before it the chain and a warning for each segment
that cannot be taken apart. The records that begin with a tab list the chains of the blocks in
order, and the settings do not matter to the log but for its first record. -/
theorem log_traces_document (sheet : Sheet) (options : Options) :
    (Pass.drawDocument sheet options).run {} =
        ((), ⟨render sheet options, records sheet options⟩) ∧
      records sheet options = registryRecord sheet options ::
        (sheet.rules.zipIdx.flatMap fun (rule, place) =>
          ruleTrace rule (addedBlocks (sheet.rules.take place) [rule])) ∧
      (records sheet options).filterMap tabbed? = (blocks sheet).map (·.chain) ∧
      ∀ frames, (records sheet (options.withFrames frames)).tail = (records sheet options).tail :=
  ⟨Pass.run_drawDocument sheet options, records_eq_trace sheet options,
    filterMap_tabbed?_records sheet options, fun _ => rfl⟩

end SelectorPreview.Document
