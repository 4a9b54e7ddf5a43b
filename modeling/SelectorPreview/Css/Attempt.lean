/-!
# Reading that may fail and may warn

Reading a part of a style sheet fails or gives a result; in both cases it may have met something
that is passed over with a warning. Of the warnings only their presence is kept.
-/

namespace SelectorPreview.Css

/-- A reading: its result, if it succeeds, and whether it warned. -/
abbrev Attempt := OptionT (StateM Bool)

namespace Attempt

variable {α : Type}

/-- Warns, and goes on. -/
def warn : Attempt Unit := OptionT.lift (set true)

/-- The result of a reading, and whether it warned. -/
def result (a : Attempt α) : Option α × Bool := StateT.run (OptionT.run a) false

/-- A reading that always succeeds: with a result, or with none if `a` fails. -/
def optional (a : Attempt α) : Attempt (Option α) := OptionT.lift (OptionT.run a)

/-- Succeeds if a condition holds. -/
def ensure (condition : Bool) : Attempt Unit := if condition then pure () else failure

/-- The result of an option, if it has one. -/
def ofOption : Option α → Attempt α
  | some a => pure a
  | none => failure

end Attempt

end SelectorPreview.Css
