import SelectorPreview.Program
import SelectorPreview.Proofs.Files
/-!
# What a run delivers

A run reads the style sheet, makes the document and delivers it, in this order, and ends at the
first step that fails. Nothing is written before the document is complete, so the file of the style
sheet can be the one that is written. From the moment on at which the output file is opened, a
failure costs what stood there before.

* `carryOut_of_unreadable`, `carryOut_of_invalid`, `carryOut_of_print`, `carryOut_of_write` : the
  ends of a run, over any disk;
* `run_delivers_or_fails` : on a lawful disk, a run delivers the document once or fails, and what it
  has changed then;
* `delivery_not_all_or_nothing` : a run that fails late does not leave everything as it was.
-/

namespace SelectorPreview.Program

open CommandLine

/-! ## The ends of a run -/

/-- The preview that is asked for of the text of a style sheet. -/
def requested (tools : Tools) (arguments : Arguments) (css : String) :
    Except PreviewError Preview :=
  Preview.make tools.reader css
    (Options.withFrames { href := arguments.sheet } (!arguments.noFrames))

/-- The logger of a run. -/
def loggerOf (tools : Tools) (arguments : Arguments) (setting : Option String) : Log.Logger :=
  tools.logger (defaultThreshold arguments.verbose) setting

/-- The log of a run before the style sheet is read. -/
def startText (tools : Tools) (arguments : Arguments) (setting : Option String) : String :=
  (loggerOf tools arguments setting).warnings ++
    (loggerOf tools arguments setting).shown [startRecord]

/-- The log of a run up to the delivery of the document. -/
def madeText (tools : Tools) (arguments : Arguments) (setting : Option String)
    (preview : Preview) : String :=
  startText tools arguments setting ++ (loggerOf tools arguments setting).shown preview.records

/-- The outcome of a run without a preview. -/
def afterError (tools : Tools) (arguments : Arguments) (setting : Option String)
    (e : PreviewError) : Outcome :=
  ⟨1, "", startText tools arguments setting ++ "Error generating preview: " ++ e.message ++ "\n"⟩

/-- The outcome of a run that has tried to print the document. -/
def afterPrinting (tools : Tools) (arguments : Arguments) (setting : Option String)
    (preview : Preview) : Except FileError Unit → Outcome
  | .ok () => ⟨0, preview.html, madeText tools arguments setting preview⟩
  | .error e => ⟨1, preview.html, madeText tools arguments setting preview ++
      (PreviewError.unwritable e.reason).message ++ "\n"⟩

/-- The outcome of a run that has tried to write the document to a file. -/
def afterWriting (tools : Tools) (arguments : Arguments) (setting : Option String)
    (preview : Preview) (path : String) : Except FileError Unit → Outcome
  | .ok () => ⟨0, "", madeText tools arguments setting preview ++
      (loggerOf tools arguments setting).shown [writtenRecord path]⟩
  | .error e => ⟨1, "", madeText tools arguments setting preview ++
      (PreviewError.unwritable e.reason).message ++ "\n"⟩

section Ends

variable {σ File : Type} {disk : Disk File (StateM σ)} {s s₁ s₂ s₃ : σ}

/-- An action that follows goes on from where the first one has ended. -/
theorem run_bind {α β : Type} {first : StateM σ α} {a : α} (h : first.run s = (a, s₁))
    (next : α → StateM σ β) : (first >>= next).run s = (next a).run s₁ := by
  rw [StateT.run_bind, h]
  rfl

/-- Where no file can be opened, writing fails. -/
theorem run_write_of_error {path text : String} {e : FileError}
    (h : (disk.create path).run s = (.error e, s₁)) :
    (disk.write path text).run s = (.error e, s₁) :=
  run_bind h _

/-- What has been opened is written to. -/
theorem run_write_of_ok {path text : String} {file : File} {result : Except FileError Unit}
    (h : (disk.create path).run s = (.ok file, s₁))
    (hfill : (disk.fill file text).run s₁ = (result, s₂)) :
    (disk.write path text).run s = (result, s₂) :=
  (run_bind h _).trans hfill

/-- The preview of a file that can be read is the one of its text. -/
theorem run_makeOfFile_of_ok {reader : SheetReader} {path css : String} (options : Options)
    (h : (disk.read path).run s = (.ok css, s₁)) :
    (Preview.makeOfFile reader disk path options).run s =
      (Preview.make reader css options, s₁) := by
  have hload : (Preview.load disk path).run s = (.ok css, s₁) := run_bind h _
  exact run_bind hload _

/-- The error of a file that cannot be read names the file and the cause. -/
theorem run_makeOfFile_of_error {reader : SheetReader} {path : String} {e : FileError}
    (options : Options) (h : (disk.read path).run s = (.error e, s₁)) :
    (Preview.makeOfFile reader disk path options).run s =
      (.error (.unreadable path e.reason), s₁) := by
  have hload : (Preview.load disk path).run s = (.error (.unreadable path e.reason), s₁) :=
    run_bind h _
  exact run_bind hload _

variable (tools : Tools) {arguments : Arguments} (setting : Option String) {css path : String}

/-- Without a style sheet the run ends with the error of reading it. -/
theorem carryOut_of_unreadable {e : FileError}
    (hread : (disk.read arguments.sheet).run s = (.error e, s₁)) :
    (carryOut tools disk arguments setting).run s =
      (afterError tools arguments setting (.unreadable arguments.sheet e.reason), s₁) := by
  unfold carryOut
  exact run_bind (run_makeOfFile_of_error _ hread) _

variable (hread : (disk.read arguments.sheet).run s = (.ok css, s₁))

include hread

/-- A style sheet that is not valid ends the run with its error. -/
theorem carryOut_of_invalid {e : PreviewError} (hmake : requested tools arguments css = .error e) :
    (carryOut tools disk arguments setting).run s =
      (afterError tools arguments setting e, s₁) := by
  unfold carryOut
  refine (run_bind (run_makeOfFile_of_ok _ hread) _).trans ?_
  change Preview.make tools.reader css (options arguments) = .error e at hmake
  rw [hmake]
  rfl

variable {preview : Preview} (hmake : requested tools arguments css = .ok preview)

include hmake

/-- Without an output file the document is printed, and the result decides on the end. -/
theorem carryOut_of_print {result : Except FileError Unit} (hout : arguments.output = none)
    (hprint : (disk.print preview.html).run s₁ = (result, s₂)) :
    (carryOut tools disk arguments setting).run s =
      (afterPrinting tools arguments setting preview result, s₂) := by
  unfold carryOut
  refine (run_bind (run_makeOfFile_of_ok _ hread) _).trans ?_
  change Preview.make tools.reader css (options arguments) = .ok preview at hmake
  rw [hmake]
  dsimp only
  rw [hout]
  refine (run_bind hprint _).trans ?_
  cases result <;> rfl

/-- With an output file nothing is printed, and the result of writing decides on the end. -/
theorem carryOut_of_write {result : Except FileError Unit} (hout : arguments.output = some path)
    (hwrite : (disk.write path preview.html).run s₁ = (result, s₂)) :
    (carryOut tools disk arguments setting).run s =
      (afterWriting tools arguments setting preview path result, s₂) := by
  unfold carryOut
  refine (run_bind (run_makeOfFile_of_ok _ hread) _).trans ?_
  change Preview.make tools.reader css (options arguments) = .ok preview at hmake
  rw [hmake]
  dsimp only
  rw [hout]
  refine (run_bind hwrite _).trans ?_
  cases result <;> rfl

end Ends

/-! ## Runs on a lawful disk -/

/-- A run ended with an error, which is the last thing that it tells. -/
structure Failed (e : PreviewError) (outcome : Outcome) : Prop where
  exitStatus : outcome.exitStatus = 1
  stderr : ∃ before, outcome.stderr = before ++ e.message ++ "\n"

/-- A run ended with an error, printed nothing and changed nothing. -/
structure Undelivered {σ File Spot : Type} (view : View σ File Spot) (s : σ) (e : PreviewError)
    (result : Outcome × σ) : Prop where
  failed : Failed e result.1
  stdout : result.1.stdout = ""
  same : view.Same s result.2

/-- A run without a preview fails. -/
theorem failed_afterError (tools : Tools) (arguments : Arguments) (setting : Option String)
    (e : PreviewError) : Failed e (afterError tools arguments setting e) := ⟨rfl, _, rfl⟩

section Runs

variable {σ File Spot : Type} {tools : Tools} {disk : Disk File (StateM σ)}
  {view : View σ File Spot} {argv : List String} {arguments : Arguments}
  (setting : Option String) {s s₁ : σ}

/-- Arguments that can be read are carried out. -/
theorem runWith_of_ok (hparse : tools.parse (expand argv) = .ok arguments) :
    runWith tools disk argv setting = carryOut tools disk arguments setting := by
  rw [runWith, hparse]

/-- Arguments that cannot be read end the run with status 2, and at most something is printed. -/
theorem refused_of_error (hdisk : disk.Lawful view) {refusal : Refusal}
    (hparse : tools.parse (expand argv) = .error refusal) :
    ((runWith tools disk argv setting).run s).1.exitStatus = 2 ∧
      view.SameBut view.stdout s ((runWith tools disk argv setting).run s).2 := by
  have hrun : runWith tools disk argv setting = refuse disk refusal := by
    rw [runWith, hparse]
  rw [hrun, refuse]
  split
  · rcases hprint : (disk.print refusal.text).run s with ⟨printed, s₁⟩
    rw [run_bind hprint]
    exact ⟨rfl, hdisk.print_other hprint⟩
  · exact ⟨rfl, fun _ _ => rfl⟩

end Runs

/-- **A run delivers the document once, or fails.** Arguments that cannot be read end it with status
2, and no file changes. A style sheet that cannot be read or is not valid ends it with status 1;
nothing is printed and nothing changes. In all other cases there is a document, made of the entire
content of the style sheet file. Without an output file the document is printed, and no file
changes: if this fails, the status is 1, and a beginning of the document has been printed. With an
output file nothing is printed: if the file cannot be opened, the status is 1 and nothing changes.
If it can, no other file changes, and the document becomes the entire content of the file, a plain
or a new one; if writing breaks off, the status is 1, and a beginning of the document is all that
the file holds. With status 1 the error is told last, whatever is logged. -/
theorem run_delivers_or_fails {σ File Spot : Type} (tools : Tools) (disk : Disk File (StateM σ))
    (view : View σ File Spot) (hdisk : disk.Lawful view) (argv : List String)
    (setting : Option String) (s : σ) :
    let result := (runWith tools disk argv setting).run s
    (∀ refusal, tools.parse (expand argv) = .error refusal →
      result.1.exitStatus = 2 ∧ view.SameBut view.stdout s result.2) ∧
    ∀ arguments, tools.parse (expand argv) = .ok arguments →
      (∀ e s₁, (disk.read arguments.sheet).run s = (.error e, s₁) →
        Undelivered view s (.unreadable arguments.sheet e.reason) result) ∧
      ∀ css s₁, (disk.read arguments.sheet).run s = (.ok css, s₁) →
        (∀ spot, view.leads s arguments.sheet = some spot → view.Plain s spot →
          view.content s spot = some css.toUTF8) ∧
        (∀ e, requested tools arguments css = .error e → Undelivered view s e result) ∧
        ∀ preview, requested tools arguments css = .ok preview →
          (arguments.output = none →
            (∀ s₂, (disk.print preview.html).run s₁ = (.ok (), s₂) →
              result.1.exitStatus = 0 ∧ result.1.stdout = preview.html ∧
                view.Printed (· = preview.html.toUTF8) s result.2) ∧
            ∀ e s₂, (disk.print preview.html).run s₁ = (.error e, s₂) →
              Failed (.unwritable e.reason) result.1 ∧
                view.Printed (IsPart preview.html) s result.2) ∧
          ∀ path, arguments.output = some path →
            (∀ e s₂, (disk.create path).run s₁ = (.error e, s₂) →
              Undelivered view s (.unwritable e.reason) result) ∧
            ∀ file s₂, (disk.create path).run s₁ = (.ok file, s₂) →
              result.1.stdout = "" ∧
              (∀ s₃, (disk.fill file preview.html).run s₂ = (.ok (), s₃) →
                result.1.exitStatus = 0 ∧
                  view.Filled path (· = preview.html.toUTF8) s result.2) ∧
              ∀ e s₃, (disk.fill file preview.html).run s₂ = (.error e, s₃) →
                Failed (.unwritable e.reason) result.1 ∧
                  view.Filled path (IsPart preview.html) s result.2 := by
  intro result
  refine ⟨fun refusal hparse => refused_of_error setting hdisk hparse,
    fun arguments hparse => ?_⟩
  have hresult : result = (carryOut tools disk arguments setting).run s := by
    rw [← runWith_of_ok setting hparse]
  rw [hresult]
  refine ⟨?unreadable, fun css s₁ hread => ⟨?content, ?invalid, fun preview hmake =>
    ⟨fun hout => ⟨?printed, ?unprinted⟩, fun path hout => ⟨?unopened,
      fun file s₂ hcreate => ⟨?silent, ?written, ?unwritten⟩⟩⟩⟩⟩
  case unreadable =>
    intro e s₁ hread
    rw [carryOut_of_unreadable tools setting hread]
    exact ⟨failed_afterError .., rfl, hdisk.read_same hread⟩
  case content =>
    intro spot hleads hplain
    exact hdisk.read_text hread hleads hplain
  case invalid =>
    intro e hmake
    rw [carryOut_of_invalid tools setting hread hmake]
    exact ⟨failed_afterError .., rfl, hdisk.read_same hread⟩
  case printed =>
    intro s₂ hprint
    rw [carryOut_of_print tools setting hread hmake hout hprint]
    exact ⟨rfl, rfl, hdisk.printed_of_ok (hdisk.read_same hread) hprint⟩
  case unprinted =>
    intro e s₂ hprint
    rw [carryOut_of_print tools setting hread hmake hout hprint]
    exact ⟨⟨rfl, _, rfl⟩, hdisk.printed_of_error (hdisk.read_same hread) hprint⟩
  case unopened =>
    intro e s₂ hcreate
    rw [carryOut_of_write tools setting hread hmake hout (run_write_of_error hcreate)]
    have hsame := hdisk.read_same hread
    have hstill := hdisk.create_same hcreate
    exact ⟨⟨rfl, _, rfl⟩, rfl, hsame.trans hstill⟩
  case silent =>
    rcases hfill : (disk.fill file preview.html).run s₂ with ⟨filling, s₃⟩
    rw [carryOut_of_write tools setting hread hmake hout (run_write_of_ok hcreate hfill)]
    cases filling <;> rfl
  case written =>
    intro s₃ hfill
    rw [carryOut_of_write tools setting hread hmake hout (run_write_of_ok hcreate hfill)]
    exact ⟨rfl, hdisk.filled_of_ok (hdisk.read_same hread) hcreate hfill⟩
  case unwritten =>
    intro e s₃ hfill
    rw [carryOut_of_write tools setting hread hmake hout (run_write_of_ok hcreate hfill)]
    exact ⟨⟨rfl, _, rfl⟩, hdisk.filled_of_error (hdisk.read_same hread) hcreate hfill⟩

/-! ## A directory with one style sheet -/

/-- A directory with one style sheet. -/
def oneSheet : FileSystem := ⟨[(["a.css"], .file ".a{color:red}".toUTF8)]⟩

/-- The preview of the style sheet. -/
def sheetPreview : Preview := Preview.ofText ".a{color:red}" { href := "a.css" }

/-- What a system says that has no room left. -/
def noRoom : FileError := .other "No space left on device (os error 28)"

/-- A system that opens files but has no room for what is written to them. -/
def fullDisk : FileSystem.Refusals where
  fill _ _ _ := some (noRoom, 0)

/-- The tools of the program with a reader that takes no style sheet. -/
def strictTools : Tools :=
  { ownTools with reader := fun _ => .error ⟨"Unexpected end of input", some (0, 3)⟩ }

/-- The arguments that ask for the preview in the place of the style sheet. -/
def ontoItself : Arguments := { sheet := "a.css", output := some "a.css" }

/-- The style sheet can be read, whatever is refused to be written. -/
theorem read_oneSheet (refusals : FileSystem.Refusals)
    (h : refusals.read oneSheet "a.css" = none) :
    ((FileSystem.diskUnder refusals).read "a.css").run oneSheet =
      (.ok ".a{color:red}", oneSheet) := by
  rw [FileSystem.run_read_diskUnder, h]
  rfl

/-- All ends of a run: without an operand, without a style sheet, with a style sheet that is not
valid, with a directory for the output file, on standard output, in the place of the style sheet,
and there again without room for it. -/
theorem run_delivers_or_fails_oneSheet :
    (let result := runOn {} ["csspreview"] none oneSheet
     result.1.exitStatus = 2 ∧
        FileSystem.view.SameBut FileSystem.standardOutput oneSheet result.2) ∧
    Undelivered FileSystem.view oneSheet (.unreadable "b.css" FileError.notFound.reason)
      (runOn {} ["csspreview", "b.css", "-o", "a.css"] none oneSheet) ∧
    Undelivered FileSystem.view oneSheet (.invalidSheet "Unexpected end of input" 1 3)
      ((runWith strictTools FileSystem.disk ["csspreview", "a.css"] none).run oneSheet) ∧
    Undelivered FileSystem.view oneSheet (.unwritable FileError.isDirectory.reason)
      (runOn {} ["csspreview", "a.css", "-o", "."] none oneSheet) ∧
    (let result := runOn {} ["csspreview", "a.css"] none oneSheet
     result.1.exitStatus = 0 ∧ result.1.stdout = sheetPreview.html ∧
        FileSystem.view.Printed (· = sheetPreview.html.toUTF8) oneSheet result.2) ∧
    (let result := runOn {} ["csspreview", "-o", "a.css", "--", "a.css"] none oneSheet
     result.1.exitStatus = 0 ∧
        FileSystem.view.Filled "a.css" (· = sheetPreview.html.toUTF8) oneSheet result.2) ∧
    (let result := runOn fullDisk ["csspreview", "a.css", "-o", "a.css"] (some "off") oneSheet
     Failed (.unwritable noRoom.reason) result.1 ∧
        FileSystem.view.Filled "a.css" (IsPart sheetPreview.html) oneSheet result.2) := by
  have hrun := fun refusals argv setting => run_delivers_or_fails ownTools
    (FileSystem.diskUnder refusals) FileSystem.view (FileSystem.lawful_diskUnder refusals) argv
    setting oneSheet
  refine ⟨?noOperand, ?noSheet, ?invalid, ?directory, ?printed, ?written, ?full⟩
  case noOperand =>
    exact (hrun {} ["csspreview"] none).1 UsageError.missingOperand.refusal rfl
  case noSheet =>
    exact ((hrun {} ["csspreview", "b.css", "-o", "a.css"] none).2
      { sheet := "b.css", output := some "a.css" } rfl).1 .notFound oneSheet rfl
  case invalid =>
    have hread := (run_delivers_or_fails strictTools FileSystem.disk FileSystem.view
      (FileSystem.lawful_diskUnder {}) ["csspreview", "a.css"] none oneSheet).2
      { sheet := "a.css" } rfl
    exact (hread.2 _ _ (read_oneSheet {} rfl)).2.1 _ rfl
  case directory =>
    have hread := (hrun {} ["csspreview", "a.css", "-o", "."] none).2
      { sheet := "a.css", output := some "." } rfl
    exact (((hread.2 _ _ (read_oneSheet {} rfl)).2.2 sheetPreview rfl).2 "." rfl).1
      .isDirectory oneSheet rfl
  case printed =>
    have hread := (hrun {} ["csspreview", "a.css"] none).2 { sheet := "a.css" } rfl
    exact ((hread.2 _ _ (read_oneSheet {} rfl)).2.2 sheetPreview rfl).1 rfl |>.1 _ rfl
  case written =>
    have hread := (hrun {} ["csspreview", "-o", "a.css", "--", "a.css"] none).2 ontoItself rfl
    exact (((hread.2 _ _ (read_oneSheet {} rfl)).2.2 sheetPreview rfl).2 "a.css" rfl).2 _ _ rfl
      |>.2.1 _ rfl
  case full =>
    have hread :=
      (hrun fullDisk ["csspreview", "a.css", "-o", "a.css"] (some "off")).2 ontoItself rfl
    exact (((hread.2 _ _ (read_oneSheet fullDisk rfl)).2.2 sheetPreview rfl).2 "a.css" rfl).2
      _ _ rfl |>.2.2 _ _ rfl

/-- **A run can end in between.** With a device for the output file, the run succeeds, and the
document is nowhere; without room for it, the run fails, and what the output file held is lost. -/
theorem delivery_not_all_or_nothing :
    sheetPreview.html ≠ "" ∧
    (let result := runOn {} ["csspreview", "a.css", "-o", "/dev/null"] none oneSheet
     result.1.exitStatus = 0 ∧ result.1.stdout = "" ∧ result.2 = oneSheet ∧
        result.2.read "/dev/null" = .ok "") ∧
    (let result := runOn fullDisk ["csspreview", "a.css", "-o", "a.css"] none oneSheet
     result.1.exitStatus = 1 ∧ oneSheet.read "a.css" = .ok ".a{color:red}" ∧
        result.2.read "a.css" = .ok "") ∧
    (let result := runOn fullDisk ["csspreview", "a.css"] none oneSheet
     result.1.exitStatus = 1) := by
  refine ⟨?document, ?device, ?full, ?unprinted⟩
  case document =>
    decide +kernel
  case device =>
    have hwrite : (FileSystem.disk.write "/dev/null" sheetPreview.html).run oneSheet =
        (.ok (), oneSheet) := rfl
    have hrun : runOn {} ["csspreview", "a.css", "-o", "/dev/null"] none oneSheet = _ :=
      carryOut_of_write ownTools none (read_oneSheet {} rfl) rfl rfl hwrite
    rw [hrun]
    exact ⟨rfl, rfl, rfl, rfl⟩
  case full =>
    have hfill : ((FileSystem.diskUnder fullDisk).fill ["a.css"] sheetPreview.html).run
        (oneSheet.emptied ["a.css"]) =
        (.error noRoom, (oneSheet.emptied ["a.css"]).extended ["a.css"] .empty) := by
      rw [← ByteArray.extract_same (b := sheetPreview.html.toUTF8) (i := 0)]
      exact FileSystem.run_fillUnder fullDisk (oneSheet.emptied ["a.css"]) _ _
    have hrun : runOn fullDisk ["csspreview", "a.css", "-o", "a.css"] none oneSheet = _ :=
      carryOut_of_write ownTools none (read_oneSheet fullDisk rfl) rfl rfl
        (run_write_of_ok rfl hfill)
    rw [hrun]
    exact ⟨rfl, rfl, rfl⟩
  case unprinted =>
    have hrun : runOn fullDisk ["csspreview", "a.css"] none oneSheet = _ :=
      carryOut_of_print ownTools none (read_oneSheet fullDisk rfl) rfl rfl rfl
    rw [hrun]
    exact rfl

end SelectorPreview.Program
