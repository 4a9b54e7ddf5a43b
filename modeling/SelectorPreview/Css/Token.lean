import SelectorPreview.Css.Number
/-!
# Tokens of a style sheet
-/

namespace SelectorPreview.Css

/-- The three kinds of brackets. -/
inductive Bracket where
  | round
  | square
  | curly
  deriving DecidableEq

/-- A token. Names and strings are kept with their escapes resolved. -/
inductive Token where
  | ident (name : String)
  | function (name : String)
  | atKeyword (name : String)
  /-- `#` and a name that could not stand alone as an identifier. -/
  | hash (name : String)
  /-- `#` and an identifier. -/
  | idHash (name : String)
  | string (value : String)
  /-- A string that a line break ends. -/
  | badString
  | url (value : String)
  /-- An address with a character that it cannot hold. -/
  | badUrl
  | delim (c : Char)
  | number (value : Number)
  /-- A percentage; the value is the number before the sign. -/
  | percentage (value : Number)
  | dimension (value : Number) (unit : String)
  | whitespace (text : String)
  /-- A comment, by the text between its marks. -/
  | comment (text : String)
  | colon
  | semicolon
  | comma
  /-- `~=` -/
  | includeMatch
  /-- `|=` -/
  | dashMatch
  /-- `^=` -/
  | startMatch
  /-- `$=` -/
  | endMatch
  /-- `*=` -/
  | substringMatch
  /-- The mark at the start of a markup comment. -/
  | markupOpen
  /-- The mark at the end of a markup comment. -/
  | markupClose
  | opening (bracket : Bracket)
  | closing (bracket : Bracket)
  deriving DecidableEq

namespace Token

/-- Whether a token only separates others. -/
def isBlank : Token → Bool
  | whitespace _ => true
  | comment _ => true
  | _ => false

/-- Whether a token can stand in no value: what is left of a broken string or address, or a bracket
that closes nothing. -/
def isBroken : Token → Bool
  | badString => true
  | badUrl => true
  | closing _ => true
  | _ => false

end Token

end SelectorPreview.Css
