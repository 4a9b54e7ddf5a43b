import SelectorPreview.Program
/-!
# The command line

Runs the program on the arguments of the process, with its files and its log setting.
-/

namespace SelectorPreview.CommandLine

/-- The cause that the system gives for a failure on a file. -/
def cause : IO.Error → FileError
  | .noFileOrDirectory .. => .notFound
  | .inappropriateType _ code _ => if code == 21 then .isDirectory else .notDirectory
  | .invalidArgument _ code reason =>
    if code == 36 || code == 0 - 36 then .nameTooLong else .other reason
  | e => .other (toString e)

/-- Carries out an action that can fail. -/
def attempt {α : Type} (action : IO α) : IO (Except FileError α) := do
  match ← action.toBaseIO with
  | .ok a => return .ok a
  | .error e => return .error (cause e)

/-- Carries out an action on the file at a path. -/
def onFile {α : Type} (path : String) (action : IO α) : IO (Except FileError α) :=
  if path.toList.contains '\x00' then return .error .nameHoldsNul else attempt action

/-- The files and the standard output of the system. -/
def systemDisk : Disk IO.FS.Handle IO where
  read path := do
    match ← onFile path (IO.FS.readBinFile path) with
    | .ok bytes => return ((String.fromUTF8? bytes).elim (.error .notText) .ok)
    | .error e => return .error e
  create path := onFile path (IO.FS.Handle.mk path .write)
  fill file text := attempt do
    file.putStr text
    file.flush
  print text := attempt do
    let stdout ← IO.getStdout
    stdout.putStr text
    stdout.flush

end SelectorPreview.CommandLine

/-- Runs the program and ends with its exit status. -/
def main (arguments : List String) : IO UInt32 := do
  let setting ← IO.getEnv "RUST_LOG"
  let outcome ← SelectorPreview.Program.run SelectorPreview.CommandLine.systemDisk
    ("csspreview" :: arguments) setting
  IO.eprint outcome.stderr
  return outcome.exitStatus.toUInt32
