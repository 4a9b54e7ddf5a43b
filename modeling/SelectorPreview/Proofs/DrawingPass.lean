import SelectorPreview.Proofs.Selection
/-!
# Drawing and logging in one pass

The document of a sheet and the log about it can be made in one pass: it goes through the rules and
their selectors with the chains met so far, draws the block of each new chain segment by segment,
into the document or into a buffer for a frame, and logs where it is. `Writes` says what a pass adds
to the text and to the log, whatever has been written before it.

* `Writes.bind`, `writes_buffered` : what passes add one after another, and with a buffer;
* `writes_drawChain`, `writes_drawBlock` : drawing a chain warns of each of its segments once;
* `writes_drawSelectors`, `writes_drawRules` : what the two loops add;
* `run_drawDocument` : the pass makes the document and its records.
-/

namespace SelectorPreview

open Markup

/-! ## Passes -/

/-- What a pass has written so far. -/
structure Written where
  text : String := ""
  log : List Log.Record := []

/-- A pass adds to what has been written. -/
abbrev Pass := StateM Written

namespace Pass

/-- Writes at the end of the text. -/
def write (text : String) : Pass Unit :=
  modify fun done => { done with text := done.text ++ text }

/-- Writes at the end of the log. -/
def note (record : Log.Record) : Pass Unit :=
  modify fun done => { done with log := done.log ++ [record] }

/-- Gives the text of a pass instead of writing it; its records go to the log. -/
def buffered (pass : Pass Unit) : Pass String := do
  -- Only the text is put aside; the log goes on.
  let before ← getModify fun done => { done with text := "" }
  pass
  let inner ← getModify fun done => { done with text := before.text }
  pure inner.text

/-- A pass gives a result, and adds a text and records to what has been written. -/
def Writes {α : Type} (pass : Pass α) (result : α) (text : String) (log : List Log.Record) : Prop :=
  ∀ done : Written, pass.run done = (result, ⟨done.text ++ text, done.log ++ log⟩)

section

variable {α β : Type}

/-- A result alone adds nothing. -/
theorem writes_pure (a : α) : Writes (pure a) a "" [] := by
  intro done
  show (a, done) = _
  simp

/-- A text and records may be told in another way. -/
theorem Writes.of_eq {pass : Pass α} {a : α} {s t : String} {l m : List Log.Record}
    (h : Writes pass a s l) (htext : s = t) (hlog : l = m) : Writes pass a t m := by
  rwa [← htext, ← hlog]

/-- What a pass adds comes before what is added after it. -/
theorem Writes.bind {first : Pass α} {next : α → Pass β} {a : α} {b : β} {s t : String}
    {l m : List Log.Record} (hfirst : Writes first a s l) (hnext : Writes (next a) b t m) :
    Writes (first >>= next) b (s ++ t) (l ++ m) := by
  intro done
  rw [StateT.run_bind, hfirst done]
  show (next a).run _ = _
  rw [hnext, String.append_assoc, List.append_assoc]

/-- Writing a text adds it. -/
theorem writes_write (text : String) : Writes (write text) () text [] := by
  intro done
  show ((), (⟨done.text ++ text, done.log⟩ : Written)) = _
  rw [List.append_nil]

/-- Noting a record adds it. -/
theorem writes_note (record : Log.Record) : Writes (note record) () "" [record] := by
  intro done
  show ((), (⟨done.text, done.log ++ [record]⟩ : Written)) = _
  rw [String.append_empty]

/-- With a buffer only the records are added, and the text is the result. -/
theorem writes_buffered {pass : Pass Unit} {text : String} {log : List Log.Record}
    (h : Writes pass () text log) : Writes (buffered pass) text "" log := by
  intro done
  have hinner : pass.run ⟨"", done.log⟩ = ((), ⟨"" ++ text, done.log ++ log⟩) := h _
  show (let (_, inner) := pass.run ⟨"", done.log⟩
    (inner.text, (⟨done.text, inner.log⟩ : Written))) = _
  rw [hinner, String.empty_append, String.append_empty]

end

/-! ## Drawing a block -/

/-- The placeholder of a segment, with a warning if it cannot be taken apart. -/
def classify (segment : String) : Pass Placeholder :=
  match Parts.ofSegment segment with
  | .ok parts => pure ⟨Placeholder.kindOf segment.toList parts, parts⟩
  | .error e => do
    note ⟨.warn, .placeholder, e.message⟩
    pure ⟨Placeholder.kindOf segment.toList {}, {}⟩

/-- Opens the first segment, draws the others around the label, and closes it. -/
def drawChain : List String → String → Pass Unit
  | [], label => write (escape label)
  | segment :: rest, label => do
    let p ← classify segment
    write p.opening
    drawChain rest label
    write (p.closing segment)

/-- Draws a block, with a buffer if it stands in a frame. -/
def drawBlock (registry : Frame.Registry) (options : Options) (block : Document.Block) :
    Pass Unit := do
  note ⟨.debug, .document, "\t" ++ block.chain⟩
  if block.framed registry options then do
    let fragment ← buffered (drawChain (Chain.segments block.chain) block.rule.label)
    write (Frame.wrap fragment options)
  else
    drawChain (Chain.segments block.chain) block.rule.label

/-- Classifying a segment warns if it cannot be taken apart. -/
theorem writes_classify (segment : String) :
    Writes (classify segment) (Placeholder.ofSegment segment) ""
      (Placeholder.warnings segment) := by
  unfold classify Placeholder.ofSegment Placeholder.warnings
  cases Parts.ofSegment segment with
  | ok parts => exact writes_pure _
  | error e =>
    dsimp only
    exact Writes.of_eq (.bind (writes_note _) (writes_pure _)) rfl rfl

/-- Drawing a chain warns of its segments from the outermost one on, of each as often as it occurs.
-/
theorem writes_drawChain (segments : List String) (label : String) :
    Writes (drawChain segments label) () (Placeholder.drawChain segments label)
      (segments.flatMap Placeholder.warnings) := by
  induction segments with
  | nil => exact writes_write _
  | cons segment rest ih =>
    unfold drawChain
    refine Writes.of_eq (.bind (writes_classify segment) (.bind (writes_write _)
      (.bind ih (writes_write _)))) ?_ ?_
    · rw [Placeholder.drawChain, String.empty_append, String.append_assoc]
    · rw [List.nil_append, List.append_nil, List.flatMap_cons]

/-- A block is drawn with its records, in a frame or not. -/
theorem writes_drawBlock (registry : Frame.Registry) (options : Options) (block : Document.Block) :
    Writes (drawBlock registry options block) () (block.html registry options) block.records := by
  have hchain : Writes (drawChain (Chain.segments block.chain) block.rule.label) () block.fragment
      ((Chain.segments block.chain).flatMap Placeholder.warnings) := writes_drawChain _ _
  unfold drawBlock Document.Block.html
  -- The frame takes the text of the chain as a whole, the records come out of it one by one.
  split
  · refine Writes.of_eq (.bind (writes_note _) (.bind (writes_buffered hchain)
      (writes_write _))) ?_ ?_
    · rw [String.empty_append, String.empty_append]
    · rw [List.append_nil]
      rfl
  · refine Writes.of_eq (.bind (writes_note _) hchain) ?_ rfl
    rw [String.empty_append]

/-! ## Drawing a document -/

/-- Draws the selectors of a rule whose chains have not been met, and gives the chains met then. -/
def drawSelectors (registry : Frame.Registry) (options : Options) (rule : Rule) :
    Chain.Seen → List String → Pass Chain.Seen
  | seen, [] => pure seen
  | seen, selector :: rest =>
    match Chain.ofSelector? selector with
    | none => drawSelectors registry options rule seen rest
    | some chain =>
      if seen.contains chain then drawSelectors registry options rule seen rest
      else do
        drawBlock registry options ⟨rule, selector, chain⟩
        drawSelectors registry options rule (seen.insert chain) rest

/-- Logs each rule and draws its selectors. -/
def drawRules (registry : Frame.Registry) (options : Options) : Chain.Seen → List Rule → Pass Unit
  | _, [] => pure ()
  | seen, rule :: rest => do
    note ⟨.debug, .document, "CSS Rule: " ++ rule.label⟩
    note ⟨.trace, .document, rule.listing⟩
    let after ← drawSelectors registry options rule seen rule.selectors
    drawRules registry options after rest

/-- Draws the document of a sheet. -/
def drawDocument (sheet : Sheet) (options : Options) : Pass Unit := do
  write (Document.opening options.href)
  let registry := Document.registry sheet options
  note ⟨.debug, .document, "Out-of-flow selectors: " ++ Text.quotedList registry.selectors⟩
  drawRules registry options {} sheet.rules
  write Document.closing

section Loops

variable (registry : Frame.Registry) (options : Options)

/-- **The inner loop** draws the selectors that are picked, and a selector that is passed over
leaves no trace. -/
theorem writes_drawSelectors (rule : Rule) (seen : Chain.Seen) (selectors : List String) :
    Writes (drawSelectors registry options rule seen selectors)
      (Document.pickSelectors rule seen selectors).2
      (String.join ((Document.pickSelectors rule seen selectors).1.map
        (Document.Block.html registry options)))
      ((Document.pickSelectors rule seen selectors).1.flatMap Document.Block.records) := by
  induction selectors generalizing seen with
  | nil => exact writes_pure seen
  | cons selector rest ih =>
    rw [drawSelectors, Document.pickSelectors]
    cases Chain.ofSelector? selector with
    | none => exact ih seen
    | some chain =>
      by_cases hseen : seen.contains chain = true
      · simp only [hseen, if_true]
        exact ih seen
      · simp only [hseen, Bool.false_eq_true, if_false]
        refine Writes.of_eq (.bind (writes_drawBlock registry options ⟨rule, selector, chain⟩)
          (ih (seen.insert chain))) ?_ ?_
        · rw [List.map_cons, String.join_cons]
        · rw [List.flatMap_cons]

/-- **The outer loop** logs every rule and draws its blocks. -/
theorem writes_drawRules (seen : Chain.Seen) (rules : List Rule) :
    Writes (drawRules registry options seen rules) ()
      (String.join (((Document.pickRules seen rules).flatMap (·.2)).map
        (Document.Block.html registry options)))
      ((Document.pickRules seen rules).flatMap fun (rule, blocks) =>
        Document.ruleRecords rule blocks) := by
  induction rules generalizing seen with
  | nil => exact writes_pure ()
  | cons rule rest ih =>
    rw [drawRules, Document.pickRules]
    refine Writes.of_eq (.bind (writes_note _) (.bind (writes_note _)
      (.bind (writes_drawSelectors registry options rule seen rule.selectors) (ih _)))) ?_ ?_
    · rw [String.empty_append, String.empty_append, List.flatMap_cons, List.map_append,
        String.join_append]
    · rw [List.flatMap_cons]
      rfl

end Loops

/-- **One pass makes the document and the log.** -/
theorem run_drawDocument (sheet : Sheet) (options : Options) :
    (drawDocument sheet options).run {} =
      ((), ⟨Document.render sheet options, Document.records sheet options⟩) := by
  have hrules := writes_drawRules (Document.registry sheet options) options {} sheet.rules
  have hall : Writes (drawDocument sheet options) () (Document.render sheet options)
      (Document.records sheet options) := by
    unfold drawDocument
    refine Writes.of_eq (.bind (writes_write _) (.bind (writes_note _)
      (.bind hrules (writes_write _)))) ?_ ?_
    · rw [String.empty_append, ← String.append_assoc]
      rfl
    · rw [List.nil_append, List.append_nil]
      rfl
  refine (hall {}).trans ?_
  rw [String.empty_append, List.nil_append]

end Pass

end SelectorPreview
