/-!
# Whole numbers in base ten
-/

namespace SelectorPreview.Text

/-- The digits of a natural number in base ten, without leading zeros. -/
def decimal (n : Nat) : String := String.ofList (Nat.toDigits 10 n)

/-- A whole number in base ten, with its sign if it is negative. -/
def signedDecimal (n : Int) : String := (if n < 0 then "-" else "") ++ decimal n.natAbs

end SelectorPreview.Text
