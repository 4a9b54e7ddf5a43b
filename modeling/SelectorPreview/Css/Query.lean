import SelectorPreview.Css.Attempt
import SelectorPreview.Css.Value
/-!
# Conditions of media and containers

A condition is a feature in brackets, or some of them joined by `and` or by `or`, or one after
`not`; brackets may hold a condition again. A feature is a name, a name with a value, or a
comparison of a name with one or two values.

Only whether a condition is well formed is told; an end that comes too early is told apart from
everything else that is wrong.
-/

namespace SelectorPreview.Css.Query

open Text

/-- Why a condition cannot be read. -/
inductive Fault where
  /-- It ends too early. -/
  | ended
  /-- Something stands where it may not. -/
  | unexpected
  deriving DecidableEq

/-- What is left after a condition. -/
abbrev Rest := Except Fault (List Component)

/-- Whether a component is a word. -/
def isWord (word : String) : Component → Bool
  | .token (.ident name) => lowerString name == word
  | _ => false

/-! ## Conditions -/

/-- What a condition may be made of. -/
structure Grammar where
  allowNot : Bool
  allowOr : Bool
  /-- Whether a component is a feature or condition in brackets. -/
  isTerm : Component → Bool

/-- Reads terms that a word joins. -/
def joined (isTerm : Component → Bool) (word : String) : List Component → Rest
  | [] => .error .ended
  | c :: rest =>
    if isTerm c then
      match rest with
      | [] => .ok []
      | d :: more => if isWord word d then joined isTerm word more else .ok (d :: more)
    else .error .unexpected

/-- Reads one term. -/
def term (isTerm : Component → Bool) : List Component → Rest
  | [] => .error .ended
  | c :: rest => if isTerm c then .ok rest else .error .unexpected

/-- Reads a condition. -/
def condition (g : Grammar) : List Component → Rest
  | [] => .error .ended
  | c :: rest =>
    if isWord "not" c then
      if g.allowNot then term g.isTerm rest else .error .unexpected
    else if g.isTerm c then
      match rest with
      | [] => .ok []
      | d :: more =>
        if isWord "and" d then joined g.isTerm "and" more
        else if isWord "or" d then
          if g.allowOr then joined g.isTerm "or" more else .error .unexpected
        else .ok (d :: more)
    else .error .unexpected

/-- Whether components are a condition and nothing more. -/
def isCondition (g : Grammar) (cs : List Component) : Bool :=
  match condition g cs with
  | .ok [] => true
  | _ => false

/-! ## Features -/

/-- What the value of a feature is. -/
inductive Kind where
  | length
  | number
  | integer
  | ratio
  | resolution
  | word
  | switch
  /-- The feature is not known; any value will do. -/
  | unknown
  deriving DecidableEq

/-- Whether features of this kind can be compared. -/
def Kind.isOrdered : Kind → Bool
  | word => false
  | switch => false
  | _ => true

/-- The features of media and containers. -/
def features : List (String × Kind) :=
  [("width", .length), ("height", .length), ("device-width", .length),
    ("device-height", .length), ("inline-size", .length), ("block-size", .length),
    ("aspect-ratio", .ratio), ("device-aspect-ratio", .ratio), ("orientation", .word),
    ("overflow-block", .word), ("overflow-inline", .word),
    ("horizontal-viewport-segments", .integer),
    ("vertical-viewport-segments", .integer), ("display-mode", .word), ("resolution", .resolution),
    ("scan", .word), ("grid", .switch), ("update", .word), ("environment-blending", .word),
    ("color", .integer), ("color-index", .integer), ("monochrome", .integer),
    ("color-gamut", .word), ("dynamic-range", .word), ("inverted-colors", .word),
    ("pointer", .word), ("hover", .word), ("any-pointer", .word), ("any-hover", .word),
    ("nav-controls", .word), ("video-color-gamut", .word), ("video-dynamic-range", .word),
    ("scripting", .word), ("prefers-reduced-motion", .word),
    ("prefers-reduced-transparency", .word), ("prefers-contrast", .word),
    ("forced-colors", .word), ("prefers-color-scheme", .word), ("prefers-reduced-data", .word),
    ("-webkit-device-pixel-ratio", .number), ("-moz-device-pixel-ratio", .number)]

/-- The beginning of a name, without regard to case, dropped. -/
def dropStart? (start name : String) : Option String :=
  let name := lowerString name
  if start.toList.isPrefixOf name.toList then
    some (String.ofList (name.toList.drop start.length))
  else none

/-- The name of a feature without the mark of a bound, and whether it has one. -/
def withoutBound (name : String) : String × Bool :=
  let (vendor, bare) :=
    match dropStart? "-webkit-" name with
    | some bare => ("-webkit-", bare)
    | none => ("", lowerString name)
  match (dropStart? "min-" bare).or (dropStart? "max-" bare) with
  | some bare => (vendor ++ bare, true)
  | none => (vendor ++ bare, false)

/-- The kind of a feature by its name, and whether the name sets a bound. -/
def feature (name : String) : Kind × Bool :=
  let (bare, bound) := withoutBound name
  match features.lookup bare with
  | some kind => (kind, bound)
  | none => (.unknown, false)

/-- Whether a component is a number that stands for a count. -/
def isInteger : Component → Bool
  | .token (.number n) => n.integral
  | _ => false

/-- Whether a component is zero or one. -/
def isSwitch : Component → Bool
  | .token (.number n) => n.count? == some 0 || n.count? == some 1
  | _ => false

/-- Whether a component is a number. -/
def isNumber (c : Component) : Bool := ((Calculation.ofComponent? .number c)).isSome

/-- Whether a component is a length. -/
def isLength (c : Component) : Bool := (Calculation.ofComponent? .length c).isSome

/-- Whether a component is a resolution. -/
def isResolution : Component → Bool
  | .token (.dimension _ unit) => (Measure.resolutionUnits.lookup (lowerString unit)).isSome
  | _ => false

/-- Whether a component is any word. -/
def isAnyWord : Component → Bool
  | .token (.ident _) => true
  | _ => false

/-- Whether a component is a value of a kind. -/
def isValueOf (kind : Kind) (c : Component) : Bool :=
  Value.isSetting c ||
    match kind with
    | .length => isLength c
    | .number => isNumber c
    | .integer => isInteger c
    | .ratio => isNumber c
    | .resolution => isResolution c
    | .word => isAnyWord c
    | .switch => isSwitch c
    | .unknown => isNumber c || isLength c || isResolution c || isAnyWord c

/-- Reads a value of a kind. -/
def value? (kind : Kind) : List Component → Option (List Component)
  | a :: .token (.delim '/') :: b :: rest =>
    if (kind == .ratio || kind == .unknown) && isNumber a && isNumber b then some rest else none
  | c :: rest => if isValueOf kind c then some rest else none
  | [] => none

/-- Reads a comparison sign; the second result tells its direction, zero for equality. -/
def comparison? : List Component → Option (Int × List Component)
  | .token (.delim '=') :: rest => some (0, rest)
  | .token (.delim '<') :: .token (.delim '=') :: rest => some (-1, rest)
  | .token (.delim '>') :: .token (.delim '=') :: rest => some (1, rest)
  | .token (.delim '<') :: rest => some (-1, rest)
  | .token (.delim '>') :: rest => some (1, rest)
  | _ => none

/-- Whether components are a value and nothing more. -/
def isWholeValue (kind : Kind) (cs : List Component) : Bool :=
  match value? kind cs with
  | some [] => true
  | _ => false

/-- Whether what follows the name of a feature completes it. -/
def completesName (name : String) (rest : List Component) : Bool :=
  let (kind, bound) := feature name
  match rest with
  | [] => true
  | .token .colon :: value => isWholeValue kind value
  | _ =>
    match comparison? rest with
    | some (_, value) => !bound && kind.isOrdered && isWholeValue kind value
    | none => false

/-- Whether components are a value that is compared with a name, and the name with another value. -/
def isValueFirst (cs : List Component) : Bool :=
  match cs.find? isAnyWord with
  | some (.token (.ident name)) =>
    let (kind, bound) := feature name
    match (value? kind cs).bind comparison? with
    | some (first, .token (.ident other) :: rest) =>
      !bound && kind.isOrdered && name == other &&
        match rest with
        | [] => true
        | _ =>
          match comparison? rest with
          | some (second, value) => first == second && first != 0 && isWholeValue kind value
          | none => false
    | _ => false
  | _ => false

/-- Whether components are a feature. -/
def isFeature (cs : List Component) : Bool :=
  match cs with
  | .token (.ident name) :: rest => completesName name rest || isValueFirst cs
  | _ => isValueFirst cs

/-! ## Brackets -/

/-- Whether a component is a condition or feature in brackets; `styles` allows `style()` as well. At
most `depth` brackets are looked into. -/
def isBracketed (styles : Bool) : Nat → Component → Bool
  | depth + 1, .block .round contents =>
    let cs := significant contents
    isCondition ⟨true, true, isBracketed styles depth⟩ cs || isFeature cs
  | depth + 1, .function name arguments =>
    let cs := significant arguments
    styles && lowerString name == "style" &&
      (isCondition ⟨true, true, isBracketed styles depth⟩ cs ||
        match cs with
        | .token (.ident _) :: rest =>
          match rest with
          | [] => true
          | .token .colon :: _ => true
          | _ => false
        | _ => false)
  | _, _ => false

end SelectorPreview.Css.Query
