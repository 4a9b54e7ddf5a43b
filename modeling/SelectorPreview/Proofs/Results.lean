/-!
# Steps that can fail

A step that can fail has a result, which is right or an error, and another step can follow where it
is right. The lemmas say when what comes of two steps, or of a step and a function, is right and when
it is wrong.
-/

namespace SelectorPreview

variable {ε α β : Type} {result : Except ε α}

/-- A mapped result is right if the result is. -/
theorem map_eq_ok_iff {f : α → β} {b : β} :
    result.map f = .ok b ↔ ∃ a, result = .ok a ∧ b = f a := by
  cases result <;> simp [Except.map, eq_comm]

/-- A mapped result is wrong for the same reason. -/
theorem map_eq_error_iff {f : α → β} {e : ε} : result.map f = .error e ↔ result = .error e := by
  cases result <;> simp [Except.map]

/-- Two steps are right if both are. -/
theorem bind_eq_ok_iff {f : α → Except ε β} {b : β} :
    result.bind f = .ok b ↔ ∃ a, result = .ok a ∧ f a = .ok b := by
  cases result <;> simp [Except.bind]

/-- The same of two steps that are written one below the other. -/
theorem next_eq_ok_iff {f : α → Except ε β} {b : β} :
    (result >>= f) = .ok b ↔ ∃ a, result = .ok a ∧ f a = .ok b :=
  bind_eq_ok_iff

/-- Two steps are wrong if the first one is, or if the second one is after it. -/
theorem bind_eq_error_iff {f : α → Except ε β} {e : ε} :
    result.bind f = .error e ↔ result = .error e ∨ ∃ a, result = .ok a ∧ f a = .error e := by
  cases result <;> simp [Except.bind]

end SelectorPreview
