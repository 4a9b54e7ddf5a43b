import SelectorPreview.Css.Color.Reading
import SelectorPreview.Text.Decimal
/-!
# Terms of values

A term is the smallest part of a value: a word, an amount or a colour. Terms are compared as what
they are, not by their text, since a length of zero is written the same in every unit.

* `Form` : a reader of the values of a property that gives them as they are written;
* `Sides` : a term for each of four sides, written as few as tell them all.
-/

namespace SelectorPreview.Css

open Text

/-- A part of a value. -/
inductive Term where
  /-- A word, or anything else that is known by its text alone. -/
  | word (text : String)
  | amount (c : Calculation)
  | color (c : Color)
  deriving BEq

/-- A reader of values that gives them as they are written. -/
abbrev Form := Reader String

/-! ## Texts -/

/-- The texts that are not empty, with spaces between them. -/
def spaced (texts : List String) : String := " ".intercalate (texts.filter (! ·.isEmpty))

/-- Texts with commas between them. -/
def listed (texts : List String) : String := ", ".intercalate texts

/-- A text, unless it is left out. -/
def textUnless (left : Bool) (text : String) : String := if left then "" else text

namespace Term

/-- A term as it is written. -/
def text : Term → String
  | word text => text
  | amount c => c.text
  | color c => c.text

/-- A plain number. -/
def ofNumber (n : Float32) : Term := amount (.number n)

/-- A part of the whole. -/
def ofPart (part : Float32) : Term := amount (.measure (.percentage part))

/-- Whether a term is a length of zero, outside of any calculation. -/
def isZeroLength : Term → Bool
  | amount (.measure (.length value _)) => value == 0
  | _ => false

/-- Whether a term is a percentage of zero, outside of any calculation. -/
def isZeroPart : Term → Bool
  | amount (.measure (.percentage part)) => part == 0
  | _ => false

/-- Whether a term is zero in whatever unit. -/
def isZero : Term → Bool
  | amount c => c.isZero
  | _ => false

/-! ## Readers -/

/-- One of some keywords. -/
def keyword (words : List String) : Reader Term := word <$> Reader.keyword words

/-- A length; a number counts as pixels. -/
def length : Reader Term := amount <$> Reader.length

/-- A length or a percentage. -/
def lengthPercentage : Reader Term := amount <$> Reader.lengthPercentage

/-- A length, a percentage or `auto`. -/
def lengthOrAuto : Reader Term := keyword ["auto"] <|> lengthPercentage

/-- A number. -/
def number : Reader Term := ofNumber <$> Reader.number

/-- A percentage. -/
def percentage : Reader Term := ofPart <$> Reader.percentage

/-- A number or a percentage. -/
def numberOrPercentage : Reader Term := number <|> percentage

/-- A number, or a length with its unit. -/
def lengthOrNumber : Reader Term := number <|> length

/-- A whole number. -/
def integer : Reader Term := (fun n => word (signedDecimal n)) <$> Reader.integer

/-- A duration. -/
def duration : Reader Term := amount <$> Reader.calculation .duration

/-- An angle. -/
def angle : Reader Term := amount <$> Reader.angle

/-- A colour. -/
def ofColor : Reader Term := color <$> Reader.color

end Term

/-! ## Four sides -/

/-- A term for each side. -/
structure Sides where
  top : Term
  right : Term
  bottom : Term
  left : Term
  deriving BEq

namespace Sides

/-- The same term on all sides. -/
def all (t : Term) : Sides := ⟨t, t, t, t⟩

/-- One to four terms; a side that is missing is like the one that it faces. -/
def read (r : Reader Term) : Reader Sides := do
  let top ← r
  let right := (← optional r).getD top
  let bottom := (← optional r).getD top
  let left := (← optional r).getD right
  pure ⟨top, right, bottom, left⟩

/-- As few terms as tell all sides. -/
def text (s : Sides) : String :=
  let parts :=
    if s.left != s.right then [s.top, s.right, s.bottom, s.left]
    else if s.bottom != s.top then [s.top, s.right, s.bottom]
    else if s.right != s.top then [s.top, s.right]
    else [s.top]
  " ".intercalate (parts.map Term.text)

end Sides

/-! ## Common forms -/

/-- Two terms, the second one only if it differs. -/
def pairText (a b : Term) : String := if a == b then a.text else a.text ++ " " ++ b.text

namespace Form

/-- A single term. -/
def ofTerm (r : Reader Term) : Form := Term.text <$> r

/-- One of some keywords. -/
def keyword (words : List String) : Form := Reader.keyword words

/-- A plain number. -/
def plainNumber : Form := Single.text <$> Reader.number

/-- One or two terms. -/
def pairOf (r : Reader Term) : Form := do
  let (a, b) ← Reader.pair r
  pure (pairText a b)

/-- Terms for four sides. -/
def sidesOf (r : Reader Term) : Form := Sides.text <$> Sides.read r

/-- Values with commas between them. -/
def listOf (r : Form) : Form := listed <$> Reader.commaList r

/-- A function of some name whose arguments have a form. -/
def callOf (name : String) (arguments : Form) : Form :=
  (fun text => name ++ "(" ++ text ++ ")") <$> Reader.call name arguments

/-- A value as it is written, if it has the form. -/
def text? (form : Form) (cs : List Component) : Option String := Reader.whole? form cs

/-- Forms, each with the names of the properties that have it. -/
abbrev Table := List (List String × Form)

end Form

end SelectorPreview.Css
