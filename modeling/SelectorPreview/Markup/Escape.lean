/-!
# Character references

A text is put into markup by writing the five characters that could end a text or an attribute value
as character references. `decode` reads these five references back in one pass from left to right
and leaves everything else as it is.

Main statement: `decode_escapeList`, decoding an escaped text gives the text back.
-/

namespace SelectorPreview.Markup

/-- A character as it stands in markup. -/
def escapeChar : Char → List Char
  | '&' => ['&', 'a', 'm', 'p', ';']
  | '<' => ['&', 'l', 't', ';']
  | '>' => ['&', 'g', 't', ';']
  | '"' => ['&', 'q', 'u', 'o', 't', ';']
  | '\'' => ['&', '#', 'x', '2', '7', ';']
  | c => [c]

/-- The characters of a text as they stand in markup. -/
def escapeList (s : List Char) : List Char := s.flatMap escapeChar

/-- The text as it stands between tags or inside a double-quoted attribute value. -/
def escape (s : String) : String := String.ofList (escapeList s.toList)

/-- Reads the five references that `escapeChar` writes, each once, from left to right. -/
def decode : List Char → List Char
  | [] => []
  | '&' :: 'a' :: 'm' :: 'p' :: ';' :: rest => '&' :: decode rest
  | '&' :: 'l' :: 't' :: ';' :: rest => '<' :: decode rest
  | '&' :: 'g' :: 't' :: ';' :: rest => '>' :: decode rest
  | '&' :: 'q' :: 'u' :: 'o' :: 't' :: ';' :: rest => '"' :: decode rest
  | '&' :: '#' :: 'x' :: '2' :: '7' :: ';' :: rest => '\'' :: decode rest
  | c :: rest => c :: decode rest

/-- The markup of an escaped string is the escaped list of its characters. -/
@[simp] theorem toList_escape (s : String) : (escape s).toList = escapeList s.toList := by
  simp [escape]

/-- Escaping goes character by character, so it splits over concatenation. -/
@[simp] theorem escapeList_append (s t : List Char) :
    escapeList (s ++ t) = escapeList s ++ escapeList t := by
  simp [escapeList]

/-- Escaping a concatenation of strings escapes its parts. -/
theorem escape_append (s t : String) : escape (s ++ t) = escape s ++ escape t := by
  simp [escape]

/-- A character that has no reference of its own stands for itself. -/
theorem decode_cons_of_ne {c : Char} (rest : List Char) (h : c ≠ '&') :
    decode (c :: rest) = c :: decode rest := by
  rw [decode] <;> simp_all

/-- Decoding an escaped text gives the text back, whatever follows it. -/
theorem decode_escapeList_append (s rest : List Char) :
    decode (escapeList s ++ rest) = s ++ decode rest := by
  induction s with
  | nil => rfl
  | cons c s ih =>
    have step : escapeList (c :: s) ++ rest = escapeChar c ++ (escapeList s ++ rest) := by
      simp [escapeList]
    rw [step, List.cons_append, ← ih]
    unfold escapeChar
    split
    case h_6 notAmp _ _ _ _ => exact decode_cons_of_ne _ notAmp
    all_goals simp [decode]

/-- Decoding an escaped text gives the text back. -/
theorem decode_escapeList (s : List Char) : decode (escapeList s) = s := by
  simpa [decode] using decode_escapeList_append s []

end SelectorPreview.Markup
