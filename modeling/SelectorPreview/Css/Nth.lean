import SelectorPreview.Css.Component
import SelectorPreview.Text.Decimal
/-!
# Positions in a list

`a n + b` stands for the positions `a * n + b` where `n` counts from zero. It is read from a number,
from the words `odd` and `even`, or from a few tokens, of which the first may hold several of its
parts, and it is written in its shortest form.
-/

namespace SelectorPreview.Css

open Text

/-- The positions `step * n + offset`. -/
structure Nth where
  step : Int
  offset : Int
  deriving DecidableEq

namespace Nth

/-! ## Reading -/

/-- A number without a sign. -/
def unsigned? : Component → Option Int
  | .token (.number n) => if n.signed then none else n.count?
  | _ => none

/-- The offset `n-3` in a name, after its letter. -/
def dashedOffset? (letters : List Char) : Option Int :=
  match letters with
  | c :: '-' :: digits =>
    if (c == 'n' || c == 'N') && !digits.isEmpty && digits.all Char.isDigit then
      some (-(Nat.min (Scan.digitsValue digits) (Number.countLimit + 1) : Nat))
    else none
  | _ => none

/-- The offset that ends the positions, whose sign has been read. -/
def offsetAfterSign (step : Int) (negative : Bool) : List Component → Option Nth
  | [c] => (unsigned? c).map fun b => ⟨step, if negative then -b else b⟩
  | _ => none

/-- The offset that ends the positions, if there is one. -/
def offsetAfterStep (step : Int) : List Component → Option Nth
  | [] => some ⟨step, 0⟩
  | .token (.delim '+') :: rest => offsetAfterSign step false rest
  | .token (.delim '-') :: rest => offsetAfterSign step true rest
  | [.token (.number n)] => if n.signed then n.count?.map (⟨step, ·⟩) else none
  | _ => none

/-- The positions whose step has been read up to its letter; the letter and what is attached to it
are the end of a name. -/
def afterStep (step : Int) (letters : List Char) (rest : List Component) : Option Nth :=
  match lower letters with
  | ['n'] => offsetAfterStep step rest
  | ['n', '-'] => offsetAfterSign step true rest
  | _ => if rest.isEmpty then (dashedOffset? letters).map (⟨step, ·⟩) else none

/-- The positions that a name begins. -/
def ofName? (name : String) (rest : List Component) : Option Nth :=
  match lowerString name with
  | "even" => if rest.isEmpty then some ⟨2, 0⟩ else none
  | "odd" => if rest.isEmpty then some ⟨2, 1⟩ else none
  | _ =>
    match name.toList with
    | '-' :: letters => afterStep (-1) letters rest
    | letters => afterStep 1 letters rest

/-- The positions that components without blanks stand for. -/
def ofSignificant? : List Component → Option Nth
  | [.token (.number n)] => n.count?.map (⟨0, ·⟩)
  | .token (.dimension n unit) :: rest =>
    n.count?.bind fun step => afterStep step unit.toList rest
  | .token (.ident name) :: rest => ofName? name rest
  | _ => none

/-- The positions that components stand for. A plus sign may stand right before the name that begins
them. -/
def ofComponents? (cs : List Component) : Option Nth :=
  match cs.dropWhile (·.isBlank) with
  | .token (.delim '+') :: rest =>
    match rest.dropWhile (·.isComment) with
    | .token (.ident name) :: rest =>
      if name.toList.head? == some '-' then none
      else afterStep 1 name.toList (significant rest)
    | _ => none
  | rest => ofSignificant? (significant rest)

/-! ## Writing -/

/-- A number with its sign. -/
def signed (n : Int) : String := (if n < 0 then "-" else "+") ++ decimal n.natAbs

/-- The positions in their shortest form. -/
def text (n : Nth) : String :=
  if n.step == 2 && n.offset == 1 then "odd"
  else if n.step == 0 then signedDecimal n.offset
  else
    let step := if n.step == 1 then "" else if n.step == -1 then "-" else signedDecimal n.step
    step ++ "n" ++ (if n.offset == 0 then "" else signed n.offset)

end Nth

end SelectorPreview.Css
