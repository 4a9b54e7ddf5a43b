import SelectorPreview.Css.Term
/-!
# Positions

A position in a box is given by a part across it and a part down it. A part is the center, a length
from the left or the top, or a side with or without a length from that side. The parts may come in
either order as long as they can be told apart.

* `Position.read` : the position at the start of a value;
* `Position.text` : a position in its shortest form.
-/

namespace SelectorPreview.Css

/-- A part of a position, along one direction. -/
inductive Place where
  | center
  | length (l : Calculation)
  | side (name : String) (offset : Option Calculation)
  deriving BEq

/-- A part across and a part down. -/
structure Position where
  x : Place
  y : Place
  deriving BEq

namespace Place

/-- The sides from left to right. -/
def acrossSides : List String := ["left", "right"]

/-- The sides from top to bottom. -/
def downSides : List String := ["top", "bottom"]

/-- The center, as a word. -/
def centerWord : Reader Place := do
  Reader.word "center"
  pure center

/-- A part of a position, by the names of the sides in its direction. -/
def read (sides : List String) : Reader Place :=
  centerWord <|> length <$> Reader.lengthPercentage <|> do
    let name ← Reader.keyword sides
    pure (side name (← optional Reader.lengthPercentage))

/-- A part as it is written by itself. -/
def text : Place → String
  | center => "center"
  | length l => l.text
  | side name offset => spaced [name, (offset.map Calculation.text).getD ""]

/-- Whether a part is in the middle. -/
def isCenter : Place → Bool
  | center => true
  | length (.measure (.percentage part)) => part == 0.5
  | _ => false

/-- Whether a part is no length at all. -/
def isZero : Place → Bool
  | length l => l.isZero
  | _ => false

/-- The side itself, if a part is one. -/
def bareSide? : Place → Option String
  | side name none => some name
  | _ => none

/-- Where a side is, as a length from the left or the top. -/
def ofSide (name : String) : Calculation :=
  if name == "left" || name == "top" then .zero else .measure (.percentage 1)

/-- The length from the left or the top, if it is known. -/
def fromStart? : Place → Option Calculation
  | center => some (.measure (.percentage 0.5))
  | length l => some (if l.isZero then .zero else l)
  | side name offset =>
    if name == "left" || name == "top" then
      match offset with
      | some l => some (if l.isZero then .zero else l)
      | none => some .zero
    else none

end Place

namespace Position

/-- The middle of a box. -/
def center : Position := ⟨.center, .center⟩

/-- The corner at the top left, in percent. -/
def start : Position :=
  let none := Place.length (.measure (.percentage 0))
  ⟨none, none⟩

/-- Whether a position is in the middle of the box. -/
def isCenter (p : Position) : Bool := p.x.isCenter && p.y.isCenter

/-- Whether a position is no length away from the corner at the top left. -/
def isZero (p : Position) : Bool := p.x.isZero && p.y.isZero

/-! ## Reading -/

/-- What follows the center as the first part. -/
def afterCenter : Reader Position :=
  (fun y => ⟨.center, y⟩) <$> Place.read Place.downSides <|> do
    let x ← optional (Place.read Place.acrossSides)
    pure ⟨x.getD .center, .center⟩

/-- What follows a length as the first part. -/
def afterLength (l : Calculation) : Reader Position := do
  let side : Reader Place := (.side · none) <$> Reader.keyword Place.downSides
  let length : Reader Place := .length <$> Reader.lengthPercentage
  let y ← optional (side <|> length <|> Place.centerWord)
  pure ⟨.length l, y.getD .center⟩

/-- What follows a side across as the first part. A length after it that no side down follows is the
part down. -/
def afterSide (name : String) (offset : Option Calculation) : Reader Position :=
  (fun y => ⟨.side name offset, y⟩) <$> Place.centerWord <|>
  (do
    let down ← Reader.keyword Place.downSides
    pure ⟨.side name offset, .side down (← optional Reader.lengthPercentage)⟩) <|>
  pure ⟨.side name none, (offset.map Place.length).getD .center⟩

/-- A position that begins with its part across. -/
def acrossFirst : Reader Position := do
  match ← Place.read Place.acrossSides with
  | .center => afterCenter
  | .length l => afterLength l
  | .side name offset => afterSide name offset

/-- A position that begins with a side down. -/
def downFirst : Reader Position := do
  let down ← Reader.keyword Place.downSides
  let both : Reader Position := do
    let offset ← optional Reader.lengthPercentage
    let side : Reader Place := do
      let name ← Reader.keyword Place.acrossSides
      pure (.side name (← optional Reader.lengthPercentage))
    pure ⟨← side <|> Place.centerWord, .side down offset⟩
  both <|> pure ⟨.center, .side down none⟩

/-- A position. -/
def read : Reader Position := acrossFirst <|> downFirst

/-! ## Writing -/

/-- The text of two lengths, or of two parts if one of them is not a length. -/
def bothText (p : Position) : String :=
  match p.x.fromStart?, p.y.fromStart? with
  | some x, some y => x.text ++ " " ++ y.text
  | _, _ => p.x.text ++ " " ++ p.y.text

/-- A position in its shortest form. -/
def text (p : Position) : String :=
  match p.x with
  | .side "right" (some l) =>
    match p.y with
    | .length down => "right " ++ l.text ++ " top " ++ down.text
    | y => if y.isCenter then "right " ++ l.text ++ " center" else bothText p
  | x =>
    if p.isCenter then x.text
    else if p.y.isCenter then
      match x with
      | .length l => l.text
      | x => (x.bareSide?.map fun name => (Place.ofSide name).text).getD (bothText p)
    else
      match x, p.y.bareSide? with
      | .side name none, some down =>
        (Place.ofSide name).text ++ " " ++ (Place.ofSide down).text
      | x, some down => if x.isCenter then down else bothText p
      | .length l, none =>
        match p.y with
        | .side "bottom" (some down) => "left " ++ l.text ++ " bottom " ++ down.text
        | _ => bothText p
      | _, none => bothText p

/-- A position after the word `at`. -/
def afterAt : Reader Position := do
  Reader.word "at"
  read

end Position

end SelectorPreview.Css
