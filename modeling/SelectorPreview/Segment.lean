import SelectorPreview.Error
/-!
# Segments of a chain

A segment is one compound such as `div#main.big`: a tag, then names that are each marked as a class
or as an identifier. `Parts.ofSegment` takes a segment apart; it refuses empty names and the
characters that could break out of a quoted attribute value, and reports the first offence.
-/

namespace SelectorPreview

/-- A segment taken apart: its tag, and its classes and identifiers in order. -/
structure Parts where
  /-- The tag is empty in a segment that begins with a mark. -/
  tag : String := ""
  classes : List String := []
  ids : List String := []
  deriving DecidableEq

namespace Segment

/-! ## Reading -/

/-- What a name in a segment is marked as. -/
inductive Mark where
  | className
  | identifier
  deriving DecidableEq

/-- The mark that a character sets. -/
def Mark.ofChar? : Char → Option Mark
  | '.' => some .className
  | '#' => some .identifier
  | _ => none

/-- The characters that cannot stand in a tag or an attribute value. -/
def isForbidden (c : Char) : Bool := c == '"' || c == '<' || c == '>' || c == '&'

/-- An offence in a segment. -/
inductive Fault where
  /-- A character that cannot stand in a tag or an attribute value. -/
  | forbidden (c : Char)
  /-- A mark without a name. -/
  | emptyName
  deriving DecidableEq

/-- The wording of an offence. -/
def Fault.reason : Fault → String
  | forbidden c => "'" ++ String.ofList [c] ++ "' cannot appear in a tag or attribute"
  | emptyName => "empty class or id name"

/-- A name together with its mark; the tag is the name that has none. -/
abbrev Piece := Option Mark × List Char

/-- Ends a name: only the tag may be empty. -/
def finish (mark : Option Mark) (name : List Char) : Except Fault Piece :=
  if mark.isSome && name.isEmpty then .error .emptyName else .ok (mark, name)

/-- Reads the names of a segment. `mark` and `letters` are the mark of the name being read and its
letters so far, last one first. -/
def pieces (mark : Option Mark) (letters : List Char) : List Char → Except Fault (List Piece)
  | [] => (finish mark letters.reverse).map ([·])
  | c :: rest =>
    match Mark.ofChar? c with
    | some next => do
      let piece ← finish mark letters.reverse
      let others ← pieces (some next) [] rest
      pure (piece :: others)
    | none => if isForbidden c then .error (.forbidden c) else pieces mark (c :: letters) rest

/-- The names that carry one mark, in order. -/
def named (mark : Option Mark) (names : List Piece) : List String :=
  (names.filter (·.1 == mark)).map (String.ofList ·.2)

/-- Takes a segment apart, or gives its first offence in reading order. -/
def parts (segment : String) : Except Fault Parts := do
  let names ← pieces none [] segment.toList
  pure {
    tag := "".intercalate (named none names)
    classes := named (some .className) names
    ids := named (some .identifier) names }

end Segment

namespace Parts

/-- Takes a segment apart; an offence names the whole segment. -/
def ofSegment (segment : String) : Except PreviewError Parts :=
  match Segment.parts segment with
  | .ok parts => .ok parts
  | .error fault => .error (.invalidSegment segment fault.reason)

/-! ## Attributes -/

/-- One attribute with a list of names as its value; nothing for an empty list. -/
def namesAttribute (name : String) (values : List String) : List String :=
  if values.isEmpty then [] else [name ++ "=\"" ++ " ".intercalate values ++ "\""]

/-- The attributes of an element that has these classes and identifiers. -/
def attributes (parts : Parts) : String :=
  " ".intercalate (namesAttribute "class" parts.classes ++ namesAttribute "id" parts.ids)

end Parts

end SelectorPreview
