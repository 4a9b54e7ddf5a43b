import SelectorPreview.Css.Block
import SelectorPreview.Css.Color
import SelectorPreview.Css.Query
/-!
# Registered custom properties

A custom property is registered with the form of its values, with a switch that tells whether
elements inherit it, and with an initial value. The form is a list of alternatives: kinds of values,
one or several of them, and words. If every value is allowed there need be no initial value.

Main definition: `Registration.isComplete`, whether a block registers a property.
-/

namespace SelectorPreview.Css

open Text

/-- A kind of values of a registered property. -/
inductive ValueKind where
  | length
  | number
  | percentage
  | lengthPercentage
  | string
  | color
  | image
  | url
  | integer
  | angle
  | time
  | resolution
  | transform
  | transformList
  | anyName
  | word (text : String)

/-- How many values there may be. -/
inductive Repetition where
  | one
  | spaced
  | separated

/-- An alternative of the form of values. -/
structure Alternative where
  kind : ValueKind
  repetition : Repetition

/-- The form of the values of a registered property. -/
inductive ValueForm where
  | any
  | oneOf (alternatives : List Alternative)

namespace ValueKind

/-- The kinds by the names that stand between angle brackets. -/
def byName : List (String × ValueKind) :=
  [("length", .length), ("number", .number), ("percentage", .percentage),
    ("length-percentage", .lengthPercentage), ("string", .string), ("color", .color),
    ("image", .image), ("url", .url), ("integer", .integer), ("angle", .angle), ("time", .time),
    ("resolution", .resolution), ("transform-function", .transform),
    ("transform-list", .transformList), ("custom-ident", .anyName)]

/-- Whether a component is an address. -/
def isUrl : Component → Bool
  | .token (.url _) => true
  | .function name arguments => name == "url" && (Value.urlCall? arguments).isSome
  | _ => false

/-- Whether a component is a function. -/
def isFunction : Component → Bool
  | .function _ _ => true
  | _ => false

/-- Whether a component is a string. -/
def isString : Component → Bool
  | .token (.string _) => true
  | _ => false

/-- Whether a component stands for a calculation of a kind. -/
def isCalculation (kind : Calculation.Kind) (c : Component) : Bool :=
  (Calculation.ofComponent? kind c).isSome

/-- Whether a component is a value of a kind. -/
def admits (kind : ValueKind) (c : Component) : Bool :=
  match kind with
  | length => isCalculation .length c
  | number => isCalculation .number c
  | percentage => isCalculation .percentage c
  | lengthPercentage => isCalculation .lengthPercentage c
  | string => isString c
  | color => (Color.ofComponent? c).isSome
  | image => isUrl c || isFunction c
  | url => isUrl c
  | integer => Query.isInteger c
  | angle => isCalculation .angle c
  | time => isCalculation .duration c
  | resolution => Query.isResolution c
  | transform => isFunction c
  | transformList => isFunction c
  | anyName => Query.isAnyWord c
  | word text =>
    match c with
    | .token (.ident name) => name == text
    | _ => false

end ValueKind

namespace Alternative

/-- Whether a character can begin a word. -/
def startsWord (c : Char) : Bool := c.isAlpha || c == '_' || 0x80 ≤ c.toNat

/-- Whether a character can stand in a word. -/
def continuesWord (c : Char) : Bool := startsWord c || c.isDigit || c == '-'

/-- Whether a character is one of the blanks between alternatives. -/
def isGap (c : Char) : Bool := c == ' ' || c == '\n' || c == '\t' || c == '\r' || c == '\x0c'

/-- The kind at the start of a text, and what follows it. -/
def kind? : List Char → Option (ValueKind × List Char)
  | [] => none
  | c :: rest =>
    if c == '<' then
      match rest.dropWhile (· != '>') with
      | [] => none
      | _ :: more =>
        (ValueKind.byName.lookup (lowerString (String.ofList (rest.takeWhile (· != '>'))))).map
          (·, more)
    else if startsWord c then
      some (.word (String.ofList (c :: rest.takeWhile continuesWord)), rest.dropWhile continuesWord)
    else none

/-- The mark of repetition after a kind, and what follows it. -/
def repetitionAfter (kind : ValueKind) (text : List Char) : Repetition × List Char :=
  match kind, text with
  | .transformList, _ => (.one, text)
  | _, '+' :: rest => (.spaced, rest)
  | _, '#' :: rest => (.separated, rest)
  | _, _ => (.one, text)

/-- The alternative that a text is. -/
def ofText? (text : List Char) : Option Alternative := do
  let (kind, rest) ← kind? (text.dropWhile isGap)
  let (repetition, rest) := repetitionAfter kind rest
  if rest.all isGap then some ⟨kind, repetition⟩ else none

/-- Whether values with one of them at least, and with nothing between them, are of a kind. -/
def areSpaced (kind : ValueKind) (cs : List Component) : Bool :=
  !cs.isEmpty && cs.all kind.admits

/-- Whether values with commas between them are of a kind. -/
def areSeparated (kind : ValueKind) (cs : List Component) : Bool :=
  (cs.splitOnP (·.isComma)).all fun piece =>
    match piece with
    | [c] => kind.admits c
    | _ => false

/-- Whether an alternative admits components that are not blank. After a single value anything may
follow. -/
def admits (a : Alternative) (cs : List Component) : Bool :=
  match a.repetition with
  | .one => cs.head?.any a.kind.admits
  | .spaced => areSpaced a.kind cs
  | .separated => areSeparated a.kind cs

end Alternative

namespace ValueForm

/-- The form of values that a text describes. -/
def ofText? (text : String) : Option ValueForm :=
  let chars := ((text.toList.dropWhile Alternative.isGap).reverse.dropWhile
    Alternative.isGap).reverse
  if chars == ['*'] then some any
  else ((chars.splitOn '|').mapM Alternative.ofText?).map oneOf

/-- Whether an initial value fits a form. -/
def fits : ValueForm → Option (List Component) → Bool
  | any, _ => true
  | oneOf _, none => false
  | oneOf alternatives, some value => alternatives.any (·.admits (significant value))

end ValueForm

/-- What is known about a property that is being registered. -/
structure Registration where
  form : Option ValueForm := none
  inherits : Option Bool := none
  initial : Option (List Component) := none

namespace Registration

/-- The form of values that a component describes. -/
def form? (value : List Component) : Option ValueForm :=
  match significant value with
  | [.token (.string text)] => ValueForm.ofText? text
  | _ => none

/-- The setting of a switch. -/
def switch? (value : List Component) : Option Bool :=
  match significant value with
  | [.token (.ident word)] =>
    match lowerString word with
    | "true" => some true
    | "false" => some false
    | _ => none
  | _ => none

/-- Takes in an item; nothing but the three settings is allowed. -/
def add (r : Registration) : Item → Option Registration
  | .declaration name value =>
    match lowerString name with
    | "syntax" => (form? value).map fun form => { r with form := some form }
    | "inherits" => (switch? value).map fun on => { r with inherits := some on }
    | "initial-value" => some { r with initial := some value }
    | _ => none
  | _ => none

/-- Whether a block registers a property. -/
def isComplete (block : List Component) : Bool :=
  match (Item.list block).foldlM add {} with
  | some { form := some form, inherits := some _, initial := initial } => form.fits initial
  | _ => false

end Registration

end SelectorPreview.Css
