import SelectorPreview.Css.Component
/-!
# Readers of values

A reader takes components from the front of a list and gives a result, or fails and takes none. The
components have no blanks among them; the arguments of a function are components again.

* `Reader.whole?` : the result of a reader that takes all of a list;
* `Reader.many` : a reader repeated as often as it succeeds;
* `Reader.anyOrder` : readers that succeed in any order, each at most once.
-/

namespace SelectorPreview.Css

open Text

/-- A reader of components. -/
abbrev Reader := StateT (List Component) Option

namespace Reader

variable {α : Type}

/-- The result of an option, if it has one. -/
def ofOption (a : Option α) : Reader α := fun cs => a.map (·, cs)

/-- The result of a reader on the components of a list that are neither blank nor comments, if it
takes all of them. -/
def whole? (r : Reader α) (cs : List Component) : Option α :=
  match r (significant cs) with
  | some (a, []) => some a
  | _ => none

/-! ## Single components -/

/-- One component, by what it stands for. -/
def one (f : Component → Option α) : Reader α
  | [] => none
  | c :: rest => (f c).map (·, rest)

/-- Succeeds at the end. -/
def finished : Reader Unit
  | [] => some ((), [])
  | _ => none

/-- An identifier as it is. -/
def identifier : Reader String := one fun
  | .token (.ident name) => some name
  | _ => none

/-- One of some keywords, which are told without regard to case. -/
def keyword (words : List String) : Reader String := one fun
  | .token (.ident name) =>
    let word := lowerString name
    if words.contains word then some word else none
  | _ => none

/-- A keyword. -/
def word (w : String) : Reader Unit := do let _ ← keyword [w]

/-- Whether a keyword follows; it is taken if it does. -/
def hasWord (w : String) : Reader Bool := do pure (← optional (word w)).isSome

/-- A string. -/
def string : Reader String := one fun
  | .token (.string value) => some value
  | _ => none

/-- A comma. -/
def comma : Reader Unit := one fun
  | .token .comma => some ()
  | _ => none

/-- A slash. -/
def slash : Reader Unit := one fun
  | .token (.delim c) => if c == '/' then some () else none
  | _ => none

/-- A function, by its name in small letters and its arguments. -/
def function (f : String → List Component → Option α) : Reader α := one fun
  | .function name arguments => f (lowerString name) arguments
  | _ => none

/-- A function of some name whose arguments a reader takes all. -/
def call (name : String) (r : Reader α) : Reader α := function fun written arguments =>
  if written == name then whole? r arguments else none

/-- A whole number. -/
def integer : Reader Int := one fun
  | .token (.number n) => n.count?
  | _ => none

/-! ## Lists -/

/-- The results of a reader repeated as often as it succeeds and takes something. -/
def many (r : Reader α) (cs : List Component) : Option (List α × List Component) :=
  match r cs with
  | some (a, rest) =>
    if rest.length < cs.length then (many r rest).map fun (as, left) => (a :: as, left)
    else some ([a], rest)
  | none => some ([], cs)
termination_by cs.length

/-- The results of a reader repeated as often as it succeeds, at least once. -/
def repeated (r : Reader α) : Reader (List α) := do
  let first ← r
  let more ← many r
  pure (first :: more)

/-- The parts of a list between its commas. -/
def splitCommas (cs : List Component) : List (List Component) := cs.splitOnP (·.isComma)

/-- The results of a reader on all parts of what is left between its commas. -/
def commaList (r : Reader α) : Reader (List α) := fun cs =>
  ((splitCommas cs).mapM (whole? r)).map (·, [])

/-- Puts the result of the first reader that succeeds into its slot, if that is still empty. -/
def fill : List (Reader α) → List (Option α) → Reader (List (Option α))
  | r :: readers, none :: slots =>
    (do pure (some (← r) :: slots)) <|> (do pure (none :: (← fill readers slots)))
  | _ :: readers, some a :: slots => do pure (some a :: (← fill readers slots))
  | _, _ => failure

/-- Fills slots as long as a reader succeeds whose slot is empty. -/
def fillAll (readers : List (Reader α)) (slots : List (Option α)) (cs : List Component) :
    Option (List (Option α) × List Component) :=
  match fill readers slots cs with
  | some (slots, rest) =>
    if rest.length < cs.length then fillAll readers slots rest else some (slots, rest)
  | none => some (slots, cs)
termination_by cs.length

/-- The results of readers that succeed in any order, each at most once; at every place the first
one that succeeds is taken. -/
def anyOrder (readers : List (Reader α)) : Reader (List (Option α)) :=
  fillAll readers (readers.map fun _ => none)

/-- Two results of a reader; the second one is the same as the first if it is missing. -/
def pair (r : Reader α) : Reader (α × α) := do
  let first ← r
  let second ← optional r
  pure (first, second.getD first)

end Reader

end SelectorPreview.Css
