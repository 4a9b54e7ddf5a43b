import SelectorPreview.Css.Scan
/-!
# Components of a style sheet

Tokens are grouped by their brackets: a component is a token, a bracketed block, or a function with
its arguments. A bracket that does not close the innermost open block stays a token of its own, and
blocks that are open at the end of the text end there.

Main definition: `components`, the components of a text.
-/

namespace SelectorPreview.Css

/-- A token, or what stands between two brackets. -/
inductive Component where
  | token (t : Token)
  | block (bracket : Bracket) (contents : List Component)
  | function (name : String) (arguments : List Component)

namespace Component

/-! ## Grouping -/

/-- An open block: what opened it, and the components in it so far, the last one first. -/
structure Frame where
  /-- The name of a function; none for a block. -/
  name : Option String
  bracket : Bracket
  contents : List Component

/-- The component that an open block becomes when it is closed. -/
def Frame.close (f : Frame) : Component :=
  match f.name with
  | some name => .function name f.contents.reverse
  | none => .block f.bracket f.contents.reverse

/-- The open blocks, innermost first, and the components outside of them, the last one first. -/
structure Stack where
  frames : List Frame := []
  outside : List Component := []

/-- Adds a component to the innermost open block. -/
def Stack.push (s : Stack) (c : Component) : Stack :=
  match s.frames with
  | [] => { s with outside := c :: s.outside }
  | f :: rest => { s with frames := { f with contents := c :: f.contents } :: rest }

/-- Opens a block. -/
def Stack.open (s : Stack) (name : Option String) (bracket : Bracket) : Stack :=
  { s with frames := ⟨name, bracket, []⟩ :: s.frames }

/-- Closes the innermost open block, if its bracket fits. -/
def Stack.close (s : Stack) (bracket : Bracket) : Stack :=
  match s.frames with
  | [] => s.push (.token (.closing bracket))
  | f :: rest =>
    if f.bracket = bracket then { s with frames := rest : Stack }.push f.close
    else s.push (.token (.closing bracket))

/-- Takes in a token. -/
def Stack.add (s : Stack) : Token → Stack
  | .opening bracket => s.open none bracket
  | .function name => s.open (some name) .round
  | .closing bracket => s.close bracket
  | t => s.push (.token t)

/-- Closes all blocks that are still open. -/
def closeAll (outside : List Component) : List Frame → List Component
  | [] => outside.reverse
  | [f] => (f.close :: outside).reverse
  | f :: g :: rest => closeAll outside ({ g with contents := f.close :: g.contents } :: rest)
termination_by frames => frames.length

/-- The components that tokens make up. -/
def ofTokens (tokens : List Token) : List Component :=
  let s := tokens.foldl Stack.add {}
  closeAll s.outside s.frames

/-! ## Nesting -/

mutual

/-- How deep blocks are nested in a component. -/
def depth : Component → Nat
  | token _ => 0
  | block _ contents => depthList contents + 1
  | function _ arguments => depthList arguments + 1

/-- How deep blocks are nested in a list of components. -/
def depthList : List Component → Nat
  | [] => 0
  | c :: rest => Nat.max (depth c) (depthList rest)

end

/-! ## Tests -/

/-- Whether a component only separates others. -/
def isBlank : Component → Bool
  | token t => t.isBlank
  | _ => false

/-- Whether a component is a comment. -/
def isComment : Component → Bool
  | token (.comment _) => true
  | _ => false

/-- Whether a component is a semicolon. -/
def isSemicolon : Component → Bool
  | token .semicolon => true
  | _ => false

/-- Whether a component is a comma. -/
def isComma : Component → Bool
  | token .comma => true
  | _ => false

/-- Whether a component is a block in curly brackets. -/
def isCurly : Component → Bool
  | block .curly _ => true
  | _ => false

/-- Whether a component is an exclamation mark. -/
def isBang : Component → Bool
  | token (.delim c) => c == '!'
  | _ => false

end Component

open Component

/-- The components of a text. -/
def components (text : String) : List Component := ofTokens (Scan.tokens text.toList)

/-- The components that are neither blank nor comments. -/
def significant (cs : List Component) : List Component := cs.filter (! ·.isBlank)

/-- The components without the blank ones at both ends. -/
def trimBlank (cs : List Component) : List Component :=
  ((cs.dropWhile isBlank).reverse.dropWhile isBlank).reverse

mutual

/-- Whether a component holds no broken token, at any depth. -/
def isSound : Component → Bool
  | token t => ! t.isBroken
  | block _ contents => areSound contents
  | function _ arguments => areSound arguments

/-- Whether components hold no broken token, at any depth. -/
def areSound : List Component → Bool
  | [] => true
  | c :: rest => isSound c && areSound rest

end

end SelectorPreview.Css
