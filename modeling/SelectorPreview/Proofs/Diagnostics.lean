import SelectorPreview.Proofs.Delivery
import SelectorPreview.Proofs.LogMerging
/-!
# Diagnostics do not influence a run

A run collects its records whether they are shown or not, and it reads, writes and prints without a
look at the log. `Course` is a run without its logger: what it delivers, the records that it has to
show, and the error at its end. What the logger decides is which of the records are shown.

* `carryOut_eq_outcome` : a run follows a course that is told without the logger;
* `lines_stderr_sublist` : a course shows more lines in more detail;
* `run_unchanged_by_diagnostics` : two runs that differ in their log only.
-/

namespace SelectorPreview.Program

open CommandLine Text

/-! ## The course of a run -/

/-- A run without its logger: its result, the records that it has to show, the text of the error
that ends it, if any, and the state that it leaves. -/
structure Course (σ : Type) where
  exitStatus : UInt8
  stdout : String
  records : List Log.Record
  ending : String
  state : σ

/-- The outcome of a course under a logger. -/
def Course.outcome {σ : Type} (course : Course σ) (logger : Log.Logger) : Outcome × σ :=
  (⟨course.exitStatus, course.stdout,
    logger.warnings ++ logger.shown course.records ++ course.ending⟩, course.state)

/-- The course of a run without a preview. -/
def Course.ofError {σ : Type} (e : PreviewError) (s : σ) : Course σ :=
  ⟨1, "", [startRecord], "Error generating preview: " ++ e.message ++ "\n", s⟩

/-- The course of a run that has tried to deliver the document. -/
def Course.ofDelivery {σ : Type} (stdout : String) (records extra : List Log.Record) :
    Except FileError Unit × σ → Course σ
  | (.ok (), s) => ⟨0, stdout, records ++ extra, "", s⟩
  | (.error e, s) => ⟨1, stdout, records, (PreviewError.unwritable e.reason).message ++ "\n", s⟩

/-- Two runs are asked for the same preview, in the same place. -/
structure SameRequest (arguments other : Arguments) : Prop where
  sheet : arguments.sheet = other.sheet
  output : arguments.output = other.output
  noFrames : arguments.noFrames = other.noFrames

section Followed

variable {σ File : Type} (tools : Tools) (disk : Disk File (StateM σ)) (s : σ)

/-- Runs that are asked for the same preview make the same one. -/
theorem SameRequest.requested_eq {arguments other : Arguments} (h : SameRequest arguments other)
    (css : String) : requested tools arguments css = requested tools other css := by
  rw [requested, requested, h.sheet, h.noFrames]

/-- The course of a run that carries out some arguments. -/
def courseOf (arguments : Arguments) : Course σ :=
  match (disk.read arguments.sheet).run s with
  | (.error e, s₁) => .ofError (.unreadable arguments.sheet e.reason) s₁
  | (.ok css, s₁) =>
    match requested tools arguments css with
    | .error e => .ofError e s₁
    | .ok preview =>
      let records := startRecord :: preview.records
      match arguments.output with
      | none => .ofDelivery preview.html records [] ((disk.print preview.html).run s₁)
      | some path =>
        .ofDelivery "" records [writtenRecord path] ((disk.write path preview.html).run s₁)

/-- The log up to the delivery shows the records, behind the warnings about its setting. -/
theorem madeText_eq (arguments : Arguments) (setting : Option String) (preview : Preview) :
    madeText tools arguments setting preview = (loggerOf tools arguments setting).warnings ++
      (loggerOf tools arguments setting).shown (startRecord :: preview.records) := by
  rw [madeText, startText, String.append_assoc, ← Log.shown_append]
  rfl

/-- A run without a preview follows its course. -/
theorem afterError_eq (arguments : Arguments) (setting : Option String) (e : PreviewError) :
    (afterError tools arguments setting e, s) =
      (Course.ofError e s).outcome (loggerOf tools arguments setting) := by
  rw [afterError, startText, Course.outcome, Course.ofError]
  simp only [String.append_assoc]

/-- A run that has tried to print the document follows its course. -/
theorem afterPrinting_eq (arguments : Arguments) (setting : Option String) (preview : Preview)
    (result : Except FileError Unit) :
    (afterPrinting tools arguments setting preview result, s) =
      (Course.ofDelivery preview.html (startRecord :: preview.records) [] (result, s)).outcome
        (loggerOf tools arguments setting) := by
  cases result with
  | error e =>
    rw [afterPrinting, madeText_eq, Course.outcome, Course.ofDelivery, String.append_assoc]
  | ok =>
    rw [afterPrinting, madeText_eq, Course.outcome, Course.ofDelivery, String.append_empty,
      List.append_nil]

/-- A run that has tried to write the document follows its course. -/
theorem afterWriting_eq (arguments : Arguments) (setting : Option String) (preview : Preview)
    (path : String) (result : Except FileError Unit) :
    (afterWriting tools arguments setting preview path result, s) =
      (Course.ofDelivery "" (startRecord :: preview.records) [writtenRecord path]
        (result, s)).outcome (loggerOf tools arguments setting) := by
  cases result with
  | error e =>
    rw [afterWriting, madeText_eq, Course.outcome, Course.ofDelivery, String.append_assoc]
  | ok =>
    rw [afterWriting, madeText_eq, Course.outcome, Course.ofDelivery, String.append_empty,
      Log.shown_append, String.append_assoc]

/-- **A run follows its course**, and shows of the records what its logger lets through. -/
theorem carryOut_eq_outcome (arguments : Arguments) (setting : Option String) :
    (carryOut tools disk arguments setting).run s =
      (courseOf tools disk s arguments).outcome (loggerOf tools arguments setting) := by
  -- The cases are the ends of a run; which one it is depends on the disk and not on the log.
  unfold courseOf
  rcases hread : (disk.read arguments.sheet).run s with ⟨e | css, s₁⟩
  · rw [carryOut_of_unreadable tools setting hread, afterError_eq]
  dsimp only
  rcases hmake : requested tools arguments css with e | preview
  · rw [carryOut_of_invalid tools setting hread hmake, afterError_eq]
  dsimp only
  rcases hout : arguments.output with _ | path
  · dsimp only
    rcases hprint : (disk.print preview.html).run s₁ with ⟨result, s₂⟩
    rw [carryOut_of_print tools setting hread hmake hout hprint, afterPrinting_eq]
  · dsimp only
    rcases hwrite : (disk.write path preview.html).run s₁ with ⟨result, s₂⟩
    rw [carryOut_of_write tools setting hread hmake hout hwrite, afterWriting_eq]

/-- Runs that are asked for the same preview have the same course. -/
theorem SameRequest.courseOf_eq {arguments other : Arguments} (h : SameRequest arguments other) :
    courseOf tools disk s arguments = courseOf tools disk s other := by
  unfold courseOf
  simp only [h.sheet, h.output, h.requested_eq]

end Followed

/-! ## Loggers of different detail -/

/-- The verbose option stands for more detail. -/
theorem defaultThreshold_within : (defaultThreshold false).Within (defaultThreshold true) := by
  intro level
  cases level <;> decide

/-- A course shows the lines of its quiet run in the verbose one as well, in the same order. -/
theorem lines_stderr_sublist {σ : Type} {logger : Log.Threshold → Option String → Log.Logger}
    (hlogger : Log.Lawful logger) (course : Course σ) (setting : Option String) :
    (lines (course.outcome (logger (defaultThreshold false) setting)).1.stderr).Sublist
      (lines (course.outcome (logger (defaultThreshold true) setting)).1.stderr) := by
  obtain ⟨hwarnings, hshows⟩ := hlogger.shows_of_within defaultThreshold_within setting
  have hclosed : ∀ verbose, Closed ((logger (defaultThreshold verbose) setting).warnings ++
      (logger (defaultThreshold verbose) setting).shown course.records) :=
    fun verbose => (hlogger.closed_warnings _ _).append (Log.closed_shown _ _)
  have hrecords : (course.records.filter (logger (defaultThreshold false) setting).shows).Sublist
      (course.records.filter (logger (defaultThreshold true) setting).shows) :=
    List.monotone_filter_right course.records hshows
  -- The warnings before the records and the ending after them are the same in both runs.
  unfold Course.outcome
  dsimp only
  rw [lines_append (hclosed false), lines_append (hclosed true),
    lines_append (hlogger.closed_warnings _ _), lines_append (hlogger.closed_warnings _ _),
    Log.lines_shown, Log.lines_shown, hwarnings]
  exact ((hrecords.flatMap _).append_left _).append_right _

/-- **Diagnostics do not influence a run.** Two runs on the same disk that are to read the same
sheet, write the same output file and draw frames or not alike have the same exit status and
standard output, and leave the same behind, whatever is logged. With the same log setting, the lines
on standard error of a run that is not verbose stand in this order among those of a verbose one. -/
theorem run_unchanged_by_diagnostics {σ File : Type} (tools : Tools)
    (hlogger : Log.Lawful tools.logger) (disk : Disk File (StateM σ)) (s : σ)
    (argv argv' : List String) (setting setting' : Option String) (arguments arguments' : Arguments)
    (hparse : tools.parse (expand argv) = .ok arguments)
    (hparse' : tools.parse (expand argv') = .ok arguments')
    (hsheet : arguments.sheet = arguments'.sheet) (houtput : arguments.output = arguments'.output)
    (hframes : arguments.noFrames = arguments'.noFrames) :
    let result := (runWith tools disk argv setting).run s
    let result' := (runWith tools disk argv' setting').run s
    (result.1.exitStatus = result'.1.exitStatus ∧ result.1.stdout = result'.1.stdout ∧
      result.2 = result'.2) ∧
    (arguments.verbose = false → arguments'.verbose = true → setting = setting' →
      (lines result.1.stderr).Sublist (lines result'.1.stderr)) := by
  intro result result'
  have hsame : SameRequest arguments arguments' := ⟨hsheet, houtput, hframes⟩
  have hresult : result =
      (courseOf tools disk s arguments).outcome (loggerOf tools arguments setting) := by
    rw [← carryOut_eq_outcome, ← runWith_of_ok setting hparse]
  have hresult' : result' =
      (courseOf tools disk s arguments).outcome (loggerOf tools arguments' setting') := by
    rw [hsame.courseOf_eq, ← carryOut_eq_outcome, ← runWith_of_ok setting' hparse']
  rw [hresult, hresult']
  refine ⟨⟨rfl, rfl, rfl⟩, ?_⟩
  rintro hquiet hverbose rfl
  rw [loggerOf, loggerOf, hquiet, hverbose]
  exact lines_stderr_sublist hlogger _ setting

/-- On a directory with one style sheet, the verbose option and different log settings lead to the
same document, and under a setting for one part of the program the verbose run only adds lines. -/
theorem diagnostics_oneSheet :
    (runOn {} ["csspreview", "a.css"] (some "off") oneSheet).1.stdout =
        (runOn {} ["csspreview", "-v", "a.css"] (some "csspreview_lib=trace") oneSheet).1.stdout ∧
      (runOn {} ["csspreview", "a.css", "-o", "a.css"] none oneSheet).2 =
        (runOn {} ["csspreview", "-voa.css", "a.css"] (some "trace") oneSheet).2 ∧
      List.Sublist
        (lines (runOn fullDisk ["csspreview", "a.css"] (some "csspreview=warn/e")
          oneSheet).1.stderr)
        (lines (runOn fullDisk ["csspreview", "--verbose", "a.css"] (some "csspreview=warn/e")
          oneSheet).1.stderr) := by
  have hrun := fun refusals => run_unchanged_by_diagnostics ownTools
    (Log.logger_lawful Log.plainPattern) (FileSystem.diskUnder refusals) oneSheet
  refine ⟨?printed, ?written, ?shown⟩
  case printed =>
    exact (hrun {} ["csspreview", "a.css"] ["csspreview", "-v", "a.css"] _ _ { sheet := "a.css" }
      { sheet := "a.css", verbose := true } rfl rfl rfl rfl rfl).1.2.1
  case written =>
    exact (hrun {} ["csspreview", "a.css", "-o", "a.css"] ["csspreview", "-voa.css", "a.css"] _ _
      ontoItself { ontoItself with verbose := true } rfl rfl rfl rfl rfl).1.2.2
  case shown =>
    exact (hrun fullDisk ["csspreview", "a.css"] ["csspreview", "--verbose", "a.css"] _ _
      { sheet := "a.css" } { sheet := "a.css", verbose := true } rfl rfl rfl rfl rfl).2 rfl rfl rfl

end SelectorPreview.Program
