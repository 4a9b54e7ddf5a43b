import SelectorPreview.Css.Color.Reading
import SelectorPreview.Text.Decimal
/-!
# Values of unknown form

A value that no property gives a form to is kept as a list of pieces and written in a uniform way:
every blank and every comment is a single space, which is dropped where the pieces around it do not
need any. Colours, lengths and other measures in it are written in their shortest form.

* `Value.ofComponents?` : the pieces of a value; none if it holds a broken token;
* `Value.text` : the value as text.
-/

namespace SelectorPreview.Css

open Text

/-! ## Pieces -/

/-- A piece of a value. -/
inductive Piece where
  /-- A token, as it is written. -/
  | text (s : String)
  /-- A function with its arguments, as it is written; a blank after it is not kept. -/
  | call (s : String)
  | space
  | delim (c : Char)
  | comma
  | opening (bracket : Bracket)
  | closing (bracket : Bracket)
  deriving DecidableEq

namespace Value

/-- A bracket that opens. -/
def openText : Bracket → String
  | .round => "("
  | .square => "["
  | .curly => "\x7b"

/-- A bracket that closes. -/
def closeText : Bracket → String
  | .round => ")"
  | .square => "]"
  | .curly => "\x7d"

/-- A token of a value, as it is written. -/
def tokenText : Token → String
  | .ident name => identifier name
  | .function name => identifier name ++ "("
  | .atKeyword name => "@" ++ identifier name
  | .hash name => "#" ++ nameText name
  | .idHash name => "#" ++ identifier name
  | .string value => quotedString value
  | .badString => ""
  | .url value => bareUrl value
  | .badUrl => ""
  | .delim c => String.ofList [c]
  | .number n => n.written
  | .percentage n => n.writtenPart ++ "%"
  | .dimension n unit => n.written ++ Measure.otherUnit unit
  | .whitespace text => text
  | .comment text => "/*" ++ text ++ "*/"
  | .colon => ":"
  | .semicolon => ";"
  | .comma => ","
  | .includeMatch => "~="
  | .dashMatch => "|="
  | .startMatch => "^="
  | .endMatch => "$="
  | .substringMatch => "*="
  | .markupOpen => "<!--"
  | .markupClose => "-->"
  | .opening bracket => openText bracket
  | .closing bracket => closeText bracket

/-- The piece of a token that is neither blank nor broken. -/
def tokenPiece : Token → Piece
  | .delim c => .delim c
  | .comma => .comma
  | .idHash name => .text ((Color.ofDigits? name).elim ("#" ++ nameText name) Color.text)
  | .hash name => .text ((Color.ofDigits? name).elim ("#" ++ nameText name) Color.text)
  | .url value => .text (urlText value)
  | .number n => .text (Single.text n.value)
  | .dimension n unit => .text (Measure.unitText n.value unit)
  | t => .text (tokenText t)

/-- The pieces without the spaces at both ends; a single piece stays as it is. -/
def trimSpaces (pieces : List Piece) : List Piece :=
  if pieces.length < 2 then pieces
  else
    let rest := if pieces.head? == some .space then pieces.drop 1 else pieces
    if pieces.getLast? == some .space then rest.dropLast else rest

/-! ## Writing -/

/-- Whether a space follows a call or a closing bracket, by what comes next. -/
def needsSpace : List Piece → Bool
  | [] => false
  | .comma :: _ => false
  | .closing .round :: _ => false
  | _ => true

/-- The text of pieces; `blank` tells whether a space has just been written. -/
def write (blank : Bool) : List Piece → String
  | [] => ""
  | piece :: rest =>
    match piece with
    | .text s => s ++ write false rest
    | .space => " " ++ write true rest
    | .comma => ", " ++ write true rest
    | .opening bracket => openText bracket ++ write false rest
    | .call s =>
      if needsSpace rest then s ++ " " ++ write true rest else s ++ write false rest
    | .closing bracket =>
      if needsSpace rest then closeText bracket ++ " " ++ write true rest
      else closeText bracket ++ write false rest
    | .delim c =>
      let mark := String.ofList [c]
      if c == '+' || c == '-' then " " ++ mark ++ " " ++ write true rest
      else if !blank && (c == '/' || c == '*') then " " ++ mark ++ " " ++ write true rest
      else mark ++ " " ++ write true rest

/-- The text of a value; a single space is nothing. -/
def text (pieces : List Piece) : String :=
  if pieces == [.space] then "" else write false pieces

/-! ## Joining -/

/-- A component with its pieces, which are none if it holds a broken token or a malformed
reference, and whether blanks after it are dropped. -/
structure Laid where
  component : Component
  pieces : Option (List Piece)
  absorbs : Bool

/-- Whether blanks on both sides of a component are dropped. -/
def isMark : Component → Bool
  | .token (.delim _) => true
  | .token .comma => true
  | _ => false

/-- The pieces of components. `absorbed` tells that blanks are dropped here; of the blanks before a
mark the last one is. -/
def join? (absorbed : Bool) : List Laid → Option (List Piece)
  | [] => some []
  | l :: rest =>
    if l.component.isBlank then
      let dropped := absorbed || rest.head?.any fun next => isMark next.component
      (join? absorbed rest).map fun after => if dropped then after else .space :: after
    else do
      let first ← l.pieces
      let after ← join? l.absorbs rest
      pure (first ++ after)

/-- The text of components that stand by themselves. -/
def joinText? (cs : List Laid) : Option String :=
  (join? false cs).map fun pieces => text (trimSpaces pieces)

/-- The components from the first one that is not blank. -/
def dropBlanks (cs : List Laid) : List Laid := cs.dropWhile (·.component.isBlank)

/-! ## Functions -/

/-- The text of a function that gives an address. -/
def urlCall? (arguments : List Component) : Option String :=
  match significant arguments with
  | [.token (.string value)] => some (urlText value)
  | _ => none

/-- What follows the name of a reference: nothing, or a comma and the value that takes the place of
what is referred to if that is not there. -/
def fallbackText? (arguments : List Laid) : Option String :=
  match dropBlanks arguments with
  | [] => some ""
  | l :: rest => if l.component.isComma then (joinText? rest).map (", " ++ ·) else none

/-- A reference to a custom property, from its arguments. -/
def reference? (arguments : List Laid) : Option String := do
  match dropBlanks arguments with
  | ⟨.token (.ident name), _, _⟩ :: rest =>
    if "--".toList.isPrefixOf name.toList then
      let fallback ← fallbackText? rest
      pure ("var(" ++ identifier name ++ fallback ++ ")")
    else none
  | _ => none

/-- The settings of the surroundings that have a name of their own. -/
def settingNames : List String :=
  ["safe-area-inset-top", "safe-area-inset-right", "safe-area-inset-bottom",
    "safe-area-inset-left", "viewport-segment-width", "viewport-segment-height",
    "viewport-segment-top", "viewport-segment-left", "viewport-segment-bottom",
    "viewport-segment-right"]

/-- The keywords that every property takes. -/
def wideKeywords : List String := ["initial", "inherit", "unset", "revert", "revert-layer"]

/-- Whether a name may be given to something by an author. -/
def isFreeName (name : String) : Bool := !("default" :: wideKeywords).contains (lowerString name)

/-- The name of a setting, as it is written. -/
def settingName? (name : String) : Option String :=
  let word := lowerString name
  if settingNames.contains word then some word
  else if isFreeName name then some (identifier name)
  else none

/-- The whole numbers at the start of arguments, each with a space before it, and what follows
them. -/
def indicesText : List Laid → String × List Laid
  | [] => ("", [])
  | l :: rest =>
    match l.component with
    | .token (.number n) =>
      match n.count? with
      | some index =>
        let (text, after) := indicesText rest
        (" " ++ signedDecimal index ++ text, after)
      | none => ("", l :: rest)
    | _ => if l.component.isBlank then indicesText rest else ("", l :: rest)

/-- A reference to a setting of the surroundings, from its arguments. -/
def setting? (arguments : List Laid) : Option String := do
  match dropBlanks arguments with
  | ⟨.token (.ident name), _, _⟩ :: rest =>
    let name ← settingName? name
    let (indices, rest) := indicesText rest
    let fallback ← fallbackText? rest
    pure ("env(" ++ name ++ indices ++ fallback ++ ")")
  | _ => none

/-- A colour whose opacity is not known yet, or one for each ground of which something is not known
yet, from the arguments of a function. -/
def openColor? (name : String) (arguments : List Laid) : Option String := do
  let cs := arguments.map (·.component)
  let opacity (rest : List Component) : Option String :=
    joinText? (arguments.drop (arguments.length - rest.length))
  match name with
  | "rgb" => do
    let (x, rest) ← Color.beforeOpacity? .rgb cs
    let opacity ← opacity rest
    pure ("rgb(" ++ " ".intercalate ([x.a, x.b, x.c].map Single.text) ++ " / " ++ opacity ++ ")")
  | "hsl" => do
    let (x, rest) ← Color.beforeOpacity? .hsl cs
    let opacity ← opacity rest
    pure ("hsl(" ++ Single.text x.a ++ " " ++ Measure.percentageText (x.b / 100) ++ " " ++
      Measure.percentageText (x.c / 100) ++ " / " ++ opacity ++ ")")
  | "light-dark" => do
    let light := arguments.takeWhile (! ·.component.isComma)
    match arguments.drop light.length with
    | [] => none
    | _ :: dark => do
      let light ← joinText? light
      let dark ← joinText? dark
      pure ("light-dark(" ++ light ++ ", " ++ dark ++ ")")
  | _ => none

/-- A function with its pieces, from its arguments with theirs. -/
def layCall (name : String) (arguments : List Component) (laid : List Laid) : Laid :=
  let c : Component := .function name arguments
  let call (text : Option String) : Laid := ⟨c, text.map fun text => [.call text], true⟩
  match Color.ofComponent? c with
  | some color => ⟨c, some [.text color.text], false⟩
  | none =>
    match openColor? (lowerString name) laid with
    | some text => ⟨c, some [.text text], true⟩
    | none =>
      match name with
      | "url" => ⟨c, (urlCall? arguments).map fun text => [.text text], false⟩
      | "var" => call (reference? laid)
      | "env" => call (setting? laid)
      | _ => call ((joinText? laid).map fun text => identifier name ++ "(" ++ text ++ ")")

mutual

/-- A component with its pieces. -/
def lay : Component → Laid
  | .token t => ⟨.token t, if t.isBroken then none else some [tokenPiece t], isMark (.token t)⟩
  | .block bracket contents =>
    let inner := join? false (layAll contents)
    ⟨.block bracket contents,
      inner.map fun pieces => .opening bracket :: (pieces ++ [.closing bracket]), true⟩
  | .function name arguments => layCall name arguments (layAll arguments)

/-- Components with their pieces. -/
def layAll : List Component → List Laid
  | [] => []
  | c :: rest => lay c :: layAll rest

end

/-! ## Reading -/

/-- The pieces of a value; none if it holds a broken token or a malformed reference. -/
def ofComponents? (cs : List Component) : Option (List Piece) :=
  (join? false (layAll cs)).map trimSpaces

/-- The text of a value. -/
def textOf? (cs : List Component) : Option String := (ofComponents? cs).map text

/-- Whether a component is a well-formed reference to a setting of the surroundings. -/
def isSetting : Component → Bool
  | .function name arguments =>
    lowerString name == "env" && (setting? (layAll arguments)).isSome
  | _ => false

/-! ## Values that are written as they stand -/

mutual

/-- A component with its blanks and comments as they are. -/
def rawText? : Component → Option String
  | .token t => if t.isBroken then none else some (tokenText t)
  | .block bracket contents => do
    let inner ← rawListText? contents
    pure (openText bracket ++ inner ++ closeText bracket)
  | .function name arguments => do
    let inner ← rawListText? arguments
    pure (identifier name ++ "(" ++ inner ++ ")")

/-- Components with their blanks and comments as they are. -/
def rawListText? : List Component → Option String
  | [] => some ""
  | c :: rest => do
    let first ← rawText? c
    let more ← rawListText? rest
    pure (first ++ more)

end

end Value

/-- A name given by an author, as it is written. -/
def Reader.freeName : Reader String := do
  let name ← Reader.identifier
  if Value.isFreeName name then pure (Css.identifier name) else failure

end SelectorPreview.Css
