import SelectorPreview.Text.Unprintable
/-!
# Quoted texts

A quoted text stands between double quotes on one line: the quote and the backslash are written
after a backslash, tab, carriage return, line feed and NUL by a letter or digit, and every other
character that leaves no mark of its own by its number.
-/

namespace SelectorPreview.Text

/-- The digits of a number in base 16, without leading zeros. -/
def hexDigits (n : Nat) : List Char := Nat.toDigits 16 n

/-- A character as it is written inside a quoted text. -/
def quoteChar (c : Char) : List Char :=
  match c with
  | '"' => ['\\', '"']
  | '\\' => ['\\', '\\']
  | '\n' => ['\\', 'n']
  | '\t' => ['\\', 't']
  | '\r' => ['\\', 'r']
  | '\x00' => ['\\', '0']
  | c =>
    -- The visible ASCII characters need no look at the tables.
    if 0x20 ≤ c.toNat && c.toNat < 0x7F then [c]
    else if isInvisible c then ['\\', 'u', '\x7b'] ++ hexDigits c.toNat ++ ['\x7d']
    else [c]

/-- The text between double quotes. -/
def quoted (s : String) : String :=
  String.ofList (['"'] ++ s.toList.flatMap quoteChar ++ ['"'])

/-- A list of quoted texts between square brackets. -/
def quotedList (l : List String) : String :=
  "[" ++ ", ".intercalate (l.map quoted) ++ "]"

end SelectorPreview.Text
