/-!
# Log records

Each record has a level, the part of the program that it comes from, and a text. A logger tells
which records are shown.
-/

namespace SelectorPreview.Log

/-- The levels of a record, gravest first. -/
inductive Level where
  | error
  | warn
  | info
  | debug
  | trace
  deriving DecidableEq

/-- The name of a level. -/
def Level.name : Level → String
  | error => "ERROR"
  | warn => "WARN"
  | info => "INFO"
  | debug => "DEBUG"
  | trace => "TRACE"

/-- How much detail a level stands for. -/
def Level.rank : Level → Nat
  | error => 1
  | warn => 2
  | info => 3
  | debug => 4
  | trace => 5

/-- The parts of the program that write records. -/
inductive Source where
  /-- The command itself. -/
  | command
  /-- The reading of style sheets. -/
  | sheet
  /-- The assembly of the document. -/
  | document
  /-- The drawing of placeholders. -/
  | placeholder
  deriving DecidableEq

/-- The address by which a log setting selects a part of the program. -/
def Source.address : Source → String
  | command => "csspreview"
  | sheet => "csspreview_lib::style::preview_css"
  | document => "csspreview_lib::preview_generate::css_preview"
  | placeholder => "csspreview_lib::render::placeholder"

/-- One record. -/
structure Record where
  level : Level
  source : Source
  text : String
  deriving DecidableEq

/-- A logger that has been set up: what it says about its setting, and which records it shows. -/
structure Logger where
  warnings : String
  shows : Record → Bool

/-- The records that a logger shows, each on a line of its own. -/
def Logger.shown (logger : Logger) (records : List Record) : String :=
  String.join ((records.filter logger.shows).map (·.text ++ "\n"))

end SelectorPreview.Log
