/-!
# ASCII letter case

Names in style sheets are compared without regard to the case of the letters `a` to `z`; every
other character only equals itself.
-/

namespace SelectorPreview.Text

/-- The character with an ASCII capital made small. -/
def lowerChar (c : Char) : Char := c.toLower

/-- The text with its ASCII capitals made small. -/
def lower (s : List Char) : List Char := s.map lowerChar

/-- The text with its ASCII capitals made small. -/
def lowerString (s : String) : String := String.ofList (lower s.toList)

/-- Equality up to the case of ASCII letters. -/
def sameName (s t : String) : Bool := lower s.toList == lower t.toList

/-- Names are compared by their lower-case forms. -/
theorem sameName_iff {s t : String} :
    sameName s t = true ↔ lower s.toList = lower t.toList := by
  simp [sameName]

end SelectorPreview.Text
