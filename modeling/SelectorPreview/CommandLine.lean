/-!
# The command line

The program takes one operand, the style sheet, and three options: `-o FILE` or `--output-file
FILE`, `-v` or `--verbose`, and `--no-frames`, for which `-nf` may be written as well. Arguments are
read from left to right; after `--` all of them are operands.

The value of `-o` may be the next argument. Whether it is there, and whether it is the only one, is
looked at when the reader is done with the option, that is before the next known option or operand
and at the end.
-/

namespace SelectorPreview.CommandLine

/-- What the arguments ask for. -/
structure Arguments where
  /-- The style sheet to read. -/
  sheet : String
  /-- The file to write; the document goes to standard output if there is none. -/
  output : Option String := none
  verbose : Bool := false
  noFrames : Bool := false
  deriving DecidableEq

/-- Why the arguments are not carried out. -/
inductive UsageError where
  /-- There is no style sheet. -/
  | missingOperand
  /-- An option is not known, or there is a second operand. -/
  | unknownArgument
  /-- An option is given twice. -/
  | repeatedOption
  /-- The option for the output file has no value, or an empty one. -/
  | invalidValue
  /-- A value is given to an option that takes none. -/
  | unexpectedValue
  /-- The help text is asked for. -/
  | help
  deriving DecidableEq

/-- Spells out `-nf`, wherever it stands. -/
def expand (arguments : List String) : List String :=
  arguments.map fun argument => if argument == "-nf" then "--no-frames" else argument

/-! ## Reading -/

/-- The option for the output file, between its name and the moment it is settled. -/
inductive Pending where
  /-- The value may be the next argument. -/
  | awaiting
  /-- The value has been read. -/
  | value (path : String)
  deriving DecidableEq

/-- What has been read so far. -/
structure Reading where
  sheet : Option String := none
  output : Option String := none
  verbose : Bool := false
  noFrames : Bool := false
  pending : Option Pending := none

namespace Reading

/-- Gives the output file its value. -/
def setOutput (r : Reading) (path : String) : Except UsageError Reading :=
  if r.output.isSome then .error .repeatedOption
  else if path.isEmpty then .error .invalidValue
  else .ok { r with output := some path, pending := none }

/-- Finishes the option that is being read. -/
def settle (r : Reading) : Except UsageError Reading :=
  match r.pending with
  | none => .ok r
  | some .awaiting => .error .invalidValue
  | some (.value path) => r.setOutput path

/-- Switches the messages about every rule on. -/
def setVerbose (r : Reading) : Except UsageError Reading := do
  let r ← r.settle
  if r.verbose then .error .repeatedOption else .ok { r with verbose := true }

/-- Switches the frames off. -/
def setNoFrames (r : Reading) : Except UsageError Reading := do
  let r ← r.settle
  if r.noFrames then .error .repeatedOption else .ok { r with noFrames := true }

/-- Meets the request for help. -/
def askHelp (r : Reading) : Except UsageError Reading := do
  let _ ← r.settle
  .error .help

/-- Reads the option for the output file, with a value that is attached to it or without. -/
def startOutput (r : Reading) (attached : Option String) : Except UsageError Reading := do
  let r ← r.settle
  match attached with
  | some path => r.setOutput path
  | none => .ok { r with pending := some .awaiting }

/-- Reads an operand. -/
def addOperand (r : Reading) (operand : String) : Except UsageError Reading :=
  if r.sheet.isSome then .error .unknownArgument
  else do
    let r ← r.settle
    .ok { r with sheet := some operand }

/-- Reads the letters of an argument such as `-vo`. -/
def letters (r : Reading) : List Char → Except UsageError Reading
  | [] => .ok r
  | 'v' :: rest => do
    let r ← r.setVerbose
    letters r rest
  | 'h' :: _ => r.askHelp
  | 'o' :: rest =>
    match rest with
    | [] => r.startOutput none
    | '=' :: value => r.startOutput (some (String.ofList value))
    | value => r.startOutput (some (String.ofList value))
  | _ :: _ => .error .unknownArgument

/-- Reads an option by its long name, with the value after `=` if there is one. -/
def longOption (r : Reading) (name : String) (attached : Option String) :
    Except UsageError Reading :=
  match name, attached with
  | "output-file", value => r.startOutput value
  | "verbose", none => r.setVerbose
  | "no-frames", none => r.setNoFrames
  | "help", none => r.askHelp
  | "verbose", some _ => .error .unexpectedValue
  | "no-frames", some _ => .error .unexpectedValue
  | "help", some _ => .error .unexpectedValue
  | _, _ => .error .unknownArgument

/-- Splits a long option at its first `=`. -/
def splitLong (s : List Char) : String × Option String :=
  let name := String.ofList (s.takeWhile (· != '='))
  match s.dropWhile (· != '=') with
  | [] => (name, none)
  | _ :: value => (name, some (String.ofList value))

/-- Reads an argument that stands before `--`. -/
def argument (r : Reading) (text : String) : Except UsageError Reading :=
  match text.toList with
  | '-' :: '-' :: long =>
    let (name, attached) := splitLong long
    r.longOption name attached
  | '-' :: c :: rest => r.letters (c :: rest)
  | _ =>
    match r.pending with
    | some .awaiting => .ok { r with pending := some (.value text) }
    | _ => r.addOperand text

/-- Reads the arguments; `operandsOnly` tells that `--` has been met. -/
def arguments (r : Reading) (operandsOnly : Bool) : List String → Except UsageError Reading
  | [] => .ok r
  | text :: rest =>
    if operandsOnly then do
      let r ← r.addOperand text
      arguments r true rest
    else if text == "--" then arguments r true rest
    else do
      let r ← r.argument text
      arguments r false rest

end Reading

/-- Reads the arguments of the program, the first of which is its own name. -/
def parse (arguments : List String) : Except UsageError Arguments := do
  let r ← Reading.arguments {} false (arguments.drop 1)
  let r ← r.settle
  match r.sheet with
  | none => .error .missingOperand
  | some sheet =>
    .ok { sheet := sheet, output := r.output, verbose := r.verbose, noFrames := r.noFrames }

/-! ## Messages -/

/-- How the program is used. -/
def usage : String := "Usage: csspreview [OPTIONS] <CSS_FILE>\n"

/-- Where to look for help. -/
def helpHint : String := "For more information, try '--help'.\n"

/-- The help text. -/
def helpText : String :=
  "Generate an HTML page previewing every selector of a CSS file\n\n" ++
  usage ++ "\nOptions:\n" ++
  "  -o, --output-file <OUTPUT>  HTML preview file name (default: standard output)\n" ++
  "  -v, --verbose               Print every rule and selector while generating\n" ++
  "      --no-frames             Do not wrap elements in an iframe (short form: -nf)\n" ++
  "  -h, --help                  Print help\n"

/-- The wording of a usage error. It does not name the argument. -/
def UsageError.message : UsageError → String
  | missingOperand =>
    "error: the following required arguments were not provided:\n  <CSS_FILE>\n\n" ++
      "Usage: csspreview <CSS_FILE>\n\n" ++ helpHint
  | unknownArgument => "error: unexpected argument found\n\n" ++ usage ++ "\n" ++ helpHint
  | repeatedOption =>
    "error: the argument cannot be used multiple times\n\n" ++ usage ++ "\n" ++ helpHint
  | invalidValue =>
    "error: a value is required for '--output-file <OUTPUT>' but none was supplied\n\n" ++ helpHint
  | unexpectedValue =>
    "error: unexpected value found; no more were expected\n\n" ++ usage ++ "\n" ++ helpHint
  | help => helpText

/-- What is said instead of carrying arguments out. -/
structure Refusal where
  text : String
  /-- Whether it goes to standard output, and not to standard error. -/
  printed : Bool
  deriving DecidableEq

/-- What is said about a usage error. The help text is asked for, so it is printed. -/
def UsageError.refusal (e : UsageError) : Refusal := ⟨e.message, e == .help⟩

end SelectorPreview.CommandLine
