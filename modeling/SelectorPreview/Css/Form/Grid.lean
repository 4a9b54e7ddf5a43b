import SelectorPreview.Css.Term
import SelectorPreview.Css.Value
/-!
# Forms of grids

The tracks of a grid with the names of the lines between them, its named areas, and the lines that a
box in it reaches from and to.

* `Tracks.text`, `Template.text` : tracks and templates as they are written;
* `Form.grids` : the forms of the properties of grids.
-/

namespace SelectorPreview.Css

open Text

/-! ## Tracks -/

/-- The tracks of a grid. There is one more list of names than there are tracks, since lines stand
on both sides of every track. -/
structure Tracks where
  names : List (List String)
  sizes : List String
  /-- Whether some of the tracks are repeated. -/
  repeats : Bool := false

namespace Tracks

/-- The names of a line; none without brackets. -/
def lineNames : Reader (List String) := Reader.one fun
  | .block .square contents => Reader.whole? (Reader.many Reader.freeName) contents
  | _ => none

/-- A share of the room that is left. -/
def share : Form := Reader.one fun
  | .token (.dimension n unit) =>
    if lowerString unit == "fr" && !Single.isNegative n.value then
      some (Single.beforeUnit n.value ++ "fr")
    else none
  | _ => none

/-- The breadth of a track that does not depend on the room that is left. -/
def fixed : Form :=
  Form.ofTerm Term.lengthPercentage <|> Form.keyword ["auto", "min-content", "max-content"]

/-- The breadth of a track. -/
def breadth : Form := share <|> fixed

/-- The size of a track. -/
def size : Form :=
  breadth <|>
    Form.callOf "minmax" (do
      let least ← fixed
      Reader.comma
      let most ← breadth
      pure (listed [least, most])) <|>
    Form.callOf "fit-content" (Form.ofTerm Term.lengthPercentage)

/-- Names of lines and sizes of tracks in turns. -/
def inTurns (size : Reader α) : Reader (List (List String) × List α) := do
  let pairs ← Reader.many (do
    let names := (← optional lineNames).getD []
    pure (names, ← size))
  let last := (← optional lineNames).getD []
  pure (pairs.map (·.1) ++ [last], pairs.map (·.2))

/-- The names of a line in brackets. -/
def namesText (names : List String) : String := "[" ++ " ".intercalate names ++ "]"

/-- Names and sizes in turns; a space stands before a size, except for a first one without names. -/
def turnsText (first : Bool) : List (List String) → List String → String
  | [], _ => ""
  | names :: rest, [] =>
    (if names.isEmpty then "" else namesText names) ++ turnsText false rest []
  | names :: rest, size :: sizes =>
    (if names.isEmpty then (if first then "" else " ") else namesText names ++ " ") ++ size ++
      turnsText false rest sizes

/-- Tracks that are repeated. -/
def repetition : Form :=
  Form.callOf "repeat" do
    let count ← Form.ofTerm Term.integer <|> Form.keyword ["auto-fill", "auto-fit"]
    Reader.comma
    let (names, sizes) ← inTurns size
    pure (count ++ ", " ++ turnsText true names sizes)

/-- The tracks of a grid, at least one. -/
def read : Reader Tracks := do
  let single : Reader (String × Bool) := (·, false) <$> size
  let repeated : Reader (String × Bool) := (·, true) <$> repetition
  let (names, sizes) ← inTurns (single <|> repeated)
  if sizes.isEmpty then failure
  pure { names, sizes := sizes.map (·.1), repeats := sizes.any (·.2) }

/-- The tracks of a grid as they are written. -/
def text (t : Tracks) : String := turnsText true t.names t.sizes

/-- `none`, or the tracks of a grid. -/
def orNone : Reader (Option Tracks) :=
  (fun _ => none) <$> Reader.word "none" <|> some <$> read

/-- The tracks that are added where a grid has none of its own. -/
def added : Reader (List String) := do
  let sizes ← Reader.many size
  pure (if sizes == ["auto"] then [] else sizes)

/-- Tracks that may be none, as they are written. -/
def textOrNone (t : Option Tracks) : String := (t.map text).getD "none"

end Tracks

/-! ## Areas -/

namespace Area

/-- Whether a character can stand in the name of an area. -/
def isNameChar (c : Char) : Bool :=
  c.isAlphanum || c == '_' || c == '-' || 0x80 ≤ c.toNat

/-- Whether a character stands between the names of areas. -/
def isGap (c : Char) : Bool := c == ' ' || c == '\n' || c == '\t' || c == '\r' || c == '\x0c'

/-- The areas of a row; dots stand for a cell without a name. -/
def cells? (cs : List Char) : Option (List String) :=
  match cs with
  | [] => some []
  | c :: rest =>
    if isGap c then cells? rest
    else if c == '.' then (cells? (rest.dropWhile (· == '.'))).map ("." :: ·)
    else if isNameChar c then
      (cells? (rest.dropWhile isNameChar)).map fun cells =>
        identifier (String.ofList (c :: rest.takeWhile isNameChar)) :: cells
    else none
termination_by cs.length
decreasing_by
  · exact Nat.lt_succ_self _
  · exact Nat.lt_succ_of_le (List.dropWhile_suffix _).length_le
  · exact Nat.lt_succ_of_le (List.dropWhile_suffix _).length_le

/-- The areas of a row, at least one. -/
def row : Reader (List String) := do
  match cells? (← Reader.string).toList with
  | some (first :: rest) => pure (first :: rest)
  | _ => failure

/-- A row of areas as it is written. -/
def rowText (cells : List String) : String := "\"" ++ " ".intercalate cells ++ "\""

/-- Whether all rows are equally long. -/
def areEven (rows : List (List String)) : Bool :=
  match rows with
  | [] => true
  | first :: rest => rest.all (·.length == first.length)

/-- The start of a new line under the start of a value. -/
def newLine (indent : Nat) : String := String.ofList ('\n' :: List.replicate indent ' ')

/-- The rows of areas, one to a line. -/
def form : Form :=
  Form.keyword ["none"] <|> do
    let rows ← Reader.many row
    if areEven rows then pure ((newLine 21).intercalate (rows.map rowText)) else failure

end Area

/-! ## Templates -/

/-- The rows, columns and areas of a grid. If there are areas, the rows are theirs. -/
structure Template where
  rows : Option Tracks
  columns : Option Tracks
  areas : List (List String) := []

namespace Template

/-- A row of areas with the names of the lines around it and its size. -/
structure Row where
  before : List String
  cells : List String
  size : String
  after : List String

/-- A row of areas. -/
def row : Reader Row := do
  let before := (← optional Tracks.lineNames).getD []
  let cells ← Area.row
  let size := (← optional Tracks.size).getD "auto"
  let after := (← optional Tracks.lineNames).getD []
  pure { before, cells, size, after }

/-- The names of all lines around rows; `before` and `last` stand before and after all of them. -/
def lineNames (before last : List String) : List Row → List (List String)
  | [] => [before ++ last]
  | r :: rest => (before ++ r.before) :: lineNames r.after last rest

/-- Rows of areas, and the columns after a slash. -/
def withAreas : Reader Template := do
  let rows ← Reader.repeated row
  let last := (← optional Tracks.lineNames).getD []
  if !Area.areEven (rows.map (·.cells)) then failure
  let columns ← optional (do Reader.slash; Tracks.read)
  if columns.any (·.repeats) then failure
  let tracks : Tracks := { names := lineNames [] last rows, sizes := rows.map (·.size) }
  pure ⟨some tracks, columns, rows.map (·.cells)⟩

/-- The template of a grid. -/
def read : Reader Template :=
  (do
    Reader.word "none"
    Reader.finished
    pure ⟨none, none, []⟩) <|>
  withAreas <|>
  (do
    let rows ← Tracks.orNone
    Reader.slash
    pure { rows, columns := ← Tracks.orNone })

/-- The names of a line between two rows: of two names one stands on each side of the new line. -/
def breakText (indent : Nat) : List String → String
  | [] => Area.newLine indent
  | [a, b] => " " ++ Tracks.namesText [a] ++ Area.newLine indent ++ Tracks.namesText [b] ++ " "
  | names => Area.newLine indent ++ Tracks.namesText names ++ " "

/-- Rows of areas with their sizes and the names of the lines after them. -/
def areasText (indent : Nat) : List (List String) → List String → List (List String) → String
  | cells :: rows, size :: sizes, names :: rest =>
    let line := Area.rowText cells ++ (if size == "auto" then "" else " " ++ size)
    line ++
      match rows with
      | [] => if names.isEmpty then "" else " " ++ Tracks.namesText names
      | _ => breakText indent names ++ areasText indent rows sizes rest
  | _, _, _ => ""

/-- A template as it is written; its lines after the first one begin under its start. -/
def text (indent : Nat) (t : Template) : String :=
  match t.rows, t.columns with
  | none, none => "none"
  | rows, columns =>
    match t.areas, rows with
    | [], _ => Tracks.textOrNone rows ++ " / " ++ Tracks.textOrNone columns
    | areas, some rows =>
      let first :=
        match rows.names with
        | [] => ""
        | [] :: _ => ""
        | names :: _ => Tracks.namesText names ++ " "
      let last :=
        match columns with
        | some columns => Area.newLine indent ++ "/ " ++ columns.text
        | none => ""
      first ++ areasText indent areas rows.sizes (rows.names.drop 1) ++ last
    | _, none => ""

end Template

/-! ## Flow -/

namespace Form

/-- The order in which the cells of a grid are filled. -/
def autoFlow : Form := do
  match ← Reader.keyword ["row", "column", "dense"] with
  | "dense" => do
    let direction ← optional (Reader.keyword ["row", "column"])
    pure (direction.getD "row" ++ " dense")
  | direction => do
    let dense ← Reader.hasWord "dense"
    pure (direction ++ if dense then " dense" else "")

/-- The mark of a grid that fills itself, and whether it leaves no gaps. -/
def autoFlowMark : Reader Bool :=
  (do Reader.word "auto-flow"; Reader.hasWord "dense") <|>
  (do Reader.word "dense"; Reader.word "auto-flow"; pure true)

/-- The mark of a grid that fills itself, and the tracks that it adds. -/
def filling : Reader (Bool × List String) := do
  let dense ← autoFlowMark
  pure (dense, ← Tracks.added)

/-- The mark of a grid that fills itself as it is written. -/
def fillingText (dense : Bool) (added : List String) : String :=
  spaced ("auto-flow" :: textUnless (!dense) "dense" :: added)

/-- The rows of a grid, and columns that it adds itself. -/
def fillColumns : Form := do
  let rows ← Tracks.orNone
  Reader.slash
  let (dense, added) ← filling
  pure (Tracks.textOrNone rows ++ " / " ++ fillingText dense added)

/-- The columns of a grid, and rows that it adds itself. -/
def fillRows : Form := do
  let (dense, added) ← filling
  Reader.slash
  let columns ← Tracks.orNone
  if dense || !added.isEmpty then
    pure (fillingText dense added ++ " / " ++ Tracks.textOrNone columns)
  else pure (Template.text 6 { rows := none, columns })

/-- A grid. -/
def grid : Form := Template.text 6 <$> Template.read <|> fillColumns <|> fillRows

end Form

/-! ## Lines -/

/-- A line of a grid. -/
inductive Line where
  | auto
  | area (name : String)
  | numbered (index : Int) (name : Option String)
  | span (index : Int) (name : Option String)
  deriving DecidableEq

namespace Line

/-- The number of a line, which is not zero. -/
def index : Reader Int := do
  let n ← Reader.integer
  if n == 0 then failure else pure n

/-- A number that is not zero with a name, or only one of them. -/
def parts : Reader (Option Int × Option String) :=
  (do
    let n ← index
    pure (some n, ← optional Reader.freeName)) <|>
  (do
    let name ← Reader.freeName
    match ← optional Reader.integer with
    | some n => if n == 0 then failure else pure (some n, some name)
    | none => pure (none, some name))

/-- A line. -/
def read : Reader Line :=
  (fun _ => auto) <$> Reader.word "auto" <|>
  (do
    Reader.word "span"
    let (n, name) ← parts
    pure (span (n.getD 1) name)) <|>
  (do
    match ← parts with
    | (some n, name) => pure (numbered n name)
    | (none, some name) => pure (area name)
    | _ => failure)

/-- A line as it is written. -/
def text : Line → String
  | auto => "auto"
  | area name => name
  | numbered n name => spaced [signedDecimal n, name.getD ""]
  | span n name =>
    spaced ["span", textUnless (n == 1 && name.isSome) (signedDecimal n), name.getD ""]

/-- The line that faces a line if it is not given. -/
def facing : Line → Line
  | area name => area name
  | _ => auto

/-- A line, after a slash, or what it is without. -/
def after (default : Line) : Reader Line := do
  pure ((← optional (do Reader.slash; read)).getD default)

/-- The two lines that a box reaches from and to. -/
def placement : Form := do
  let start ← read
  let last ← after start.facing
  pure (" / ".intercalate (start.text :: if last = start.facing then [] else [last.text]))

/-- The four lines around a box. -/
def around : Form := do
  let rowStart ← read
  let columnStart ← after rowStart.facing
  let rowEnd ← after rowStart.facing
  let columnEnd ← after columnStart.facing
  let lines :=
    if columnEnd ≠ columnStart.facing then [columnStart, rowEnd, columnEnd]
    else if rowEnd ≠ rowStart.facing then [columnStart, rowEnd]
    else if columnStart ≠ rowStart.facing then [columnStart]
    else []
  pure (" / ".intercalate ((rowStart :: lines).map text))

end Line

/-! ## The properties -/

/-- The forms of the properties of grids. -/
def Form.grids : Table :=
  [(["grid-template-columns", "grid-template-rows"], Tracks.textOrNone <$> Tracks.orNone),
    (["grid-auto-columns", "grid-auto-rows"],
      (fun sizes => if sizes.isEmpty then "auto" else spaced sizes) <$> Tracks.added),
    (["grid-auto-flow"], autoFlow),
    (["grid-template-areas"], Area.form),
    (["grid-template"], Template.text 15 <$> Template.read),
    (["grid"], grid),
    (["grid-row-start", "grid-row-end", "grid-column-start", "grid-column-end"],
      Line.text <$> Line.read),
    (["grid-row", "grid-column"], Line.placement),
    (["grid-area"], Line.around)]

end SelectorPreview.Css
