import SelectorPreview.Document
import SelectorPreview.Error
import SelectorPreview.Disk
import SelectorPreview.Css.Reading
/-!
# From a style sheet to its preview

`make` reads a style sheet and makes its document; `makeOfFile` takes the text from a disk. Both are
told how style sheets are read; `ofText` and `ofFile` use the reader of the program itself.
-/

namespace SelectorPreview

/-- The error of a style sheet that cannot be read. Lines are counted from one here, and a fault
without a position is at line and column zero. -/
def SheetFault.error (fault : SheetFault) : PreviewError :=
  match fault.position with
  | some (line, column) => .invalidSheet fault.reason (line + 1) column
  | none => .invalidSheet fault.reason 0 0

/-- A preview document, and what was logged while it was made. -/
structure Preview where
  html : String
  records : List Log.Record

namespace Preview

/-- The record of a warning. -/
def warningRecord (warning : Option String) : Log.Record :=
  ⟨.warn, .sheet, "Ignoring invalid CSS:" ++ warning.elim "" (" " ++ ·)⟩

/-- The record of something that cannot be written as text. -/
def unprintableRecord : Unprintable → Log.Record
  | .selector reason => ⟨.warn, .sheet, "Skipping unprintable selector: " ++ reason⟩
  | .value property reason =>
    ⟨.warn, .sheet, "Skipping unprintable value for '" ++ property ++ "': " ++ reason⟩

/-- The records of a style sheet that has been read. -/
def readingRecords (reading : SheetReading) : List Log.Record :=
  reading.warnings.map warningRecord ++ reading.unprintable.map unprintableRecord

/-- The preview of a style sheet that has been read. -/
def ofReading (reading : SheetReading) (options : Options) : Preview where
  html := Document.render reading.sheet options
  records := readingRecords reading ++ Document.records reading.sheet options

/-- The preview of a style sheet given as text. -/
def make (reader : SheetReader) (css : String) (options : Options) : Except PreviewError Preview :=
  match reader css with
  | .ok reading => .ok (ofReading reading options)
  | .error fault => .error fault.error

/-- The preview of a style sheet given as text, by the reader of the program. -/
def ofText (css : String) (options : Options) : Preview := ofReading (Css.read css) options

section File

variable {File : Type} {m : Type → Type} [Monad m]

/-- The text of a style sheet file. -/
def load (disk : Disk File m) (path : String) : m (Except PreviewError String) := do
  match ← disk.read path with
  | .ok css => pure (.ok css)
  | .error e => pure (.error (.unreadable path e.reason))

/-- The preview of a style sheet file. -/
def makeOfFile (reader : SheetReader) (disk : Disk File m) (path : String) (options : Options) :
    m (Except PreviewError Preview) := do
  match ← load disk path with
  | .ok css => pure (make reader css options)
  | .error e => pure (.error e)

/-- The preview of a style sheet file, by the reader of the program. -/
def ofFile (disk : Disk File m) (path : String) (options : Options) :
    m (Except PreviewError Preview) :=
  makeOfFile Css.reader disk path options

end File

end Preview

end SelectorPreview
