import SelectorPreview.CommandLine
import SelectorPreview.FileSystem
import SelectorPreview.Log.Filter
import SelectorPreview.Preview
/-!
# The program

A run reads the style sheet that the arguments name, makes its preview and delivers the document to
standard output or to a file. Usage errors and the help text end it with status 2, and style sheets
and files that cannot be read or written with status 1.

The program is built on a reader of arguments, a reader of style sheets and a logger, which are its
`Tools`. `runWith` is a run with any tools, `run` one with those of the program itself.
-/

namespace SelectorPreview.Program

open CommandLine

/-- What the program is built on. -/
structure Tools where
  /-- Reads the arguments, the first of which is the name of the program. -/
  parse : List String → Except Refusal Arguments
  /-- Reads style sheets. -/
  reader : SheetReader
  /-- Sets up the logger with a default threshold and the log setting, if there is one. -/
  logger : Log.Threshold → Option String → Log.Logger

/-- The tools of the program itself. -/
def ownTools : Tools where
  parse arguments := (CommandLine.parse arguments).mapError UsageError.refusal
  reader := Css.reader
  logger := Log.logger Log.plainPattern

/-- How a run ends, and what it hands to standard output and to standard error. -/
structure Outcome where
  exitStatus : UInt8
  stdout : String
  stderr : String

/-- The greatest detail that is shown without a log setting. -/
def defaultThreshold (verbose : Bool) : Log.Threshold :=
  if verbose then .upTo .debug else .upTo .info

/-- The record at the start of a run. -/
def startRecord : Log.Record := ⟨.info, .command, "Generating HTML preview. Please wait..."⟩

/-- The record of a file that has been written. -/
def writtenRecord (path : String) : Log.Record :=
  ⟨.info, .command, "Wrote HTML to " ++ path ++ "."⟩

/-- The settings of the preview that the arguments ask for. -/
def options (arguments : Arguments) : Options :=
  { href := arguments.sheet, frames := !arguments.noFrames }

section Run

variable {File : Type} {m : Type → Type} [Monad m] (tools : Tools) (disk : Disk File m)

/-- Says why arguments are not carried out. Whether that can be printed makes no difference. -/
def refuse (refusal : Refusal) : m Outcome :=
  if refusal.printed then do
    let _ ← disk.print refusal.text
    pure ⟨2, refusal.text, ""⟩
  else pure ⟨2, "", refusal.text⟩

/-- Carries out arguments that have been read. -/
def carryOut (arguments : Arguments) (setting : Option String) : m Outcome := do
  let logger := tools.logger (defaultThreshold arguments.verbose) setting
  let started := logger.warnings ++ logger.shown [startRecord]
  match ← Preview.makeOfFile tools.reader disk arguments.sheet (options arguments) with
  | .error e =>
    pure ⟨1, "", started ++ "Error generating preview: " ++ e.message ++ "\n"⟩
  | .ok preview =>
    let made := started ++ logger.shown preview.records
    match arguments.output with
    | none =>
      match ← disk.print preview.html with
      | .ok () => pure ⟨0, preview.html, made⟩
      | .error e =>
        pure ⟨1, preview.html, made ++ (PreviewError.unwritable e.reason).message ++ "\n"⟩
    | some path =>
      match ← disk.write path preview.html with
      | .ok () => pure ⟨0, "", made ++ logger.shown [writtenRecord path]⟩
      | .error e =>
        pure ⟨1, "", made ++ (PreviewError.unwritable e.reason).message ++ "\n"⟩

/-- Runs the program on its arguments, the first of which is its own name. -/
def runWith (arguments : List String) (setting : Option String) : m Outcome :=
  match tools.parse (expand arguments) with
  | .error refusal => refuse disk refusal
  | .ok arguments => carryOut tools disk arguments setting

/-- Runs the program with its own tools. -/
def run (arguments : List String) (setting : Option String) : m Outcome :=
  runWith ownTools disk arguments setting

end Run

/-- A run on a tree of files, and the tree that it leaves. -/
def runOn (refusals : FileSystem.Refusals) (arguments : List String) (setting : Option String)
    (fs : FileSystem) : Outcome × FileSystem :=
  (run (FileSystem.diskUnder refusals) arguments setting).run fs

end SelectorPreview.Program
