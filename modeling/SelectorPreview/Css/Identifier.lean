import SelectorPreview.Css.Scan
/-!
# Writing names and strings

Names and strings are written so that reading them gives them back: a character that would end a
name is written after a backslash, a control character or a digit at the start by its number and a
space.

* `identifier` : a name that stands alone;
* `nameText` : a name after a mark such as `#`;
* `quotedString` : a string between double quotes.
-/

namespace SelectorPreview.Css

/-- A character by its number in base 16, after a backslash and before a space. -/
def numberEscape (c : Char) : List Char := ['\\'] ++ Nat.toDigits 16 c.toNat ++ [' ']

/-- The control characters that names and strings show by number. -/
def isControl (c : Char) : Bool := (0x01 ≤ c.toNat && c.toNat ≤ 0x1F) || c.toNat == 0x7F

/-- The ASCII characters that names hold as they are. -/
def isPlainName (c : Char) : Bool := c.isAlphanum || c == '_' || c == '-'

/-- A character inside a name. -/
def nameChar (c : Char) : List Char :=
  if isPlainName c || 0x80 ≤ c.toNat then [c]
  else if c == '\x00' then [Scan.replacement]
  else if isControl c then numberEscape c
  else ['\\', c]

/-- The characters of a name that does not stand at the start of an identifier. -/
def nameList (s : List Char) : List Char := s.flatMap nameChar

/-- A name whose first character must not be a bare digit. -/
def undigited : List Char → List Char
  | [] => []
  | c :: rest => if c.isDigit then numberEscape c ++ nameList rest else nameList (c :: rest)

/-- The characters of an identifier. -/
def identifierList : List Char → List Char
  | ['-'] => ['\\', '-']
  | '-' :: '-' :: rest => '-' :: '-' :: nameList rest
  | '-' :: rest => '-' :: undigited rest
  | s => undigited s

/-- A name as it is written where it stands alone. -/
def identifier (name : String) : String := String.ofList (identifierList name.toList)

/-- A name as it is written after a mark that begins it. -/
def nameText (name : String) : String := String.ofList (nameList name.toList)

/-- A character inside a string. -/
def stringChar (c : Char) : List Char :=
  match c with
  | '"' => ['\\', '"']
  | '\\' => ['\\', '\\']
  | '\x00' => [Scan.replacement]
  | c => if isControl c then numberEscape c else [c]

/-- A string between double quotes. -/
def quotedString (value : String) : String :=
  String.ofList (['"'] ++ value.toList.flatMap stringChar ++ ['"'])

/-- A character inside an address without quotes. -/
def bareUrlChar (c : Char) : List Char :=
  if isControl c || c == ' ' || c == '\x00' then numberEscape c
  else if c == '(' || c == ')' || c == '"' || c == '\'' || c == '\\' then ['\\', c]
  else [c]

/-- An address without quotes. -/
def bareUrl (value : String) : String :=
  "url(" ++ String.ofList (value.toList.flatMap bareUrlChar) ++ ")"

/-- An address. -/
def urlText (value : String) : String := "url(" ++ quotedString value ++ ")"

end SelectorPreview.Css
