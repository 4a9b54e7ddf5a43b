/-!
# What the program needs of the outside

`Disk` lists the actions by which the program meets the files and the standard output of the system
that it runs on. Each of them can fail, and says so with a cause.
-/

namespace SelectorPreview

/-- Why a file could not be read or written. -/
inductive FileError where
  | notFound
  | notDirectory
  | isDirectory
  | nameTooLong
  | notText
  | nameHoldsNul
  /-- Any other cause, in the words of the system. -/
  | other (reason : String)
  deriving DecidableEq

/-- The wording of a file error. -/
def FileError.reason : FileError → String
  | notFound => "No such file or directory (os error 2)"
  | notDirectory => "Not a directory (os error 20)"
  | isDirectory => "Is a directory (os error 21)"
  | nameTooLong => "File name too long (os error 36)"
  | notText => "stream did not contain valid UTF-8"
  | nameHoldsNul => "file name contained an unexpected NUL byte"
  | other reason => reason

/-- Reading, writing and printing, as actions of `m`; `File` is what an opened file is known by. -/
structure Disk (File : Type) (m : Type → Type) where
  /-- The text of the file at a path. -/
  read : String → m (Except FileError String)
  /-- Opens the file at a path for a new text. The file is made if it is not there, and emptied if
  it is. -/
  create : String → m (Except FileError File)
  /-- Writes a text to an opened file. A failure can leave a part of the text behind. -/
  fill : File → String → m (Except FileError Unit)
  /-- Writes a text to standard output. A failure can leave a part of the text there. -/
  print : String → m (Except FileError Unit)

/-- Gives the file at a path a text. -/
def Disk.write {File : Type} {m : Type → Type} [Monad m] (disk : Disk File m)
    (path text : String) : m (Except FileError Unit) := do
  match ← disk.create path with
  | .ok file => disk.fill file text
  | .error e => pure (.error e)

end SelectorPreview
