import SelectorPreview.Log
import SelectorPreview.Text.Ascii
import SelectorPreview.Text.Blank
import SelectorPreview.Text.Infix
/-!
# Which records are shown

A log setting is a list of directives separated by commas. Each gives the greatest level of detail
that is shown, for all addresses or for those with a given beginning; of the directives that apply
to an address the one with the longest beginning counts. Behind a slash there can be a pattern,
which only keeps the records that match it.

* `Setting.ofText` : a setting that has been read, and what is wrong with it;
* `logger` : the logger of a setting, in which the directives of the setting go in with a default.
-/

namespace SelectorPreview.Log

open Text

/-- The greatest detail that is shown: nothing at all, or records up to a level. -/
inductive Threshold where
  | off
  | upTo (level : Level)
  deriving DecidableEq

/-- The levels by name. -/
def Threshold.ofName? (name : String) : Option Threshold :=
  [("off", off), ("error", upTo .error), ("warn", upTo .warn), ("info", upTo .info),
    ("debug", upTo .debug), ("trace", upTo .trace)].lookup (lowerString name)

/-- Whether records of a level are shown. -/
def Threshold.admits : Threshold → Level → Bool
  | off, _ => false
  | upTo greatest, level => level.rank ≤ greatest.rank

/-- A threshold for the addresses that begin with a text, or for all addresses. -/
structure Directive where
  address : Option String
  threshold : Threshold
  deriving DecidableEq

namespace Directive

/-- Whether a directive speaks of an address. -/
def applies (d : Directive) (address : String) : Bool :=
  match d.address with
  | none => true
  | some start => start.toList.isPrefixOf address.toList

/-- The length of the beginning that a directive asks for. -/
def weight (d : Directive) : Nat :=
  match d.address with
  | none => 0
  | some start => start.utf8ByteSize

/-- Puts a directive into a list, in the place of one for the same addresses if there is any. -/
def insert (directives : List Directive) (d : Directive) : List Directive :=
  if directives.any (·.address == d.address) then
    directives.map fun other => if other.address == d.address then d else other
  else directives ++ [d]

end Directive

/-- Directives, and which texts of records are shown at all. -/
structure Filter where
  directives : List Directive
  keeps : String → Bool := fun _ => true

namespace Filter

/-- Of two directives the one with the longer beginning, the later one if they are equally long. -/
def longer (best : Option Directive) (d : Directive) : Option Directive :=
  match best with
  | none => some d
  | some other => if other.weight ≤ d.weight then some d else best

/-- The threshold for an address. -/
def threshold (filter : Filter) (address : String) : Threshold :=
  match (filter.directives.filter (·.applies address)).foldl longer none with
  | none => .off
  | some d => d.threshold

/-- Whether a record is shown. -/
def admits (filter : Filter) (record : Record) : Bool :=
  (filter.threshold record.source.address).admits record.level && filter.keeps record.text

end Filter

/-! ## Reading a setting -/

/-- How the pattern of a setting is read: as a condition on the texts of records, or not at all,
with the reason. -/
abbrev PatternReader := String → Except String (String → Bool)

/-- Takes a pattern as a text that a record has to hold. -/
def plainPattern : PatternReader := fun pattern => .ok fun text => containsText text pattern

/-- A text without the blanks at its two ends. -/
def trimmed (s : List Char) : String := String.ofList (trim s)

/-- The directive of one entry of a setting, or the part of it that makes no sense. -/
def Directive.ofEntry (entry : String) : Except String Directive :=
  match (entry.toList.splitOnP (· == '=')) with
  | [only] =>
    match Threshold.ofName? (String.ofList only) with
    | some threshold => .ok ⟨none, threshold⟩
    | none => .ok ⟨some (String.ofList only), .upTo .trace⟩
  | [address, level] =>
    let level := trimmed level
    if level.isEmpty then .ok ⟨some (String.ofList address), .upTo .trace⟩
    else
      match Threshold.ofName? level with
      | some threshold => .ok ⟨some (String.ofList address), threshold⟩
      | none => .error level
  | _ => .error entry

/-- A setting that has been read. -/
structure Setting where
  directives : List Directive := []
  keeps : String → Bool := fun _ => true
  /-- What is wrong with the setting. -/
  problems : List String := []

namespace Setting

/-- The wording for a part of a setting that makes no sense. -/
def badPart (part : String) : String := "invalid logging spec '" ++ part ++ "'"

/-- The setting with one more entry. -/
def add (setting : Setting) (entry : String) : Setting :=
  match Directive.ofEntry entry with
  | .ok d => { setting with directives := setting.directives ++ [d] }
  | .error part => { setting with problems := setting.problems ++ [badPart part] }

/-- The setting with a pattern. -/
def withPattern (setting : Setting) (reader : PatternReader) (pattern : String) : Setting :=
  match reader pattern with
  | .ok keeps => { setting with keeps := keeps }
  | .error reason =>
    { setting with problems := setting.problems ++ ["invalid regex filter - " ++ reason] }

/-- Reads a setting. -/
def ofText (reader : PatternReader) (text : String) : Setting :=
  match text.toList.splitOnP (· == '/') with
  | [] => {}
  | entries :: patterns =>
    let entries := ((entries.splitOnP (· == ',')).map trimmed).filter (! ·.isEmpty)
    match patterns with
    | [] => entries.foldl add {}
    | [pattern] => (entries.foldl add {}).withPattern reader (String.ofList pattern)
    | _ => { problems := [badPart text ++ " (too many '/'s)"] }

/-- The warning about something that is wrong with a setting. -/
def warning (problem : String) : String := "warning: " ++ problem ++ ", ignoring it\n"

end Setting

/-- The filter with a default threshold, in which the directives of a setting are put. -/
def Filter.ofSetting (default : Threshold) (setting : Setting) : Filter where
  directives := setting.directives.foldl Directive.insert [⟨none, default⟩]
  keeps := setting.keeps

/-- The logger with a default threshold and a setting, if there is one. -/
def logger (reader : PatternReader) (default : Threshold) (text : Option String) : Logger :=
  let setting := Setting.ofText reader (text.getD "")
  { warnings := String.join (setting.problems.map Setting.warning)
    shows := (Filter.ofSetting default setting).admits }

end SelectorPreview.Log
