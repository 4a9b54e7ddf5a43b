import SelectorPreview.Css.Nth
import SelectorPreview.Css.Value
/-!
# Selectors

A complex selector is a chain of compound selectors with combinators between them; a compound
selector is a list of simple ones. Selectors are written in a uniform way: `*` is left out where its
compound says more, and a list of alternatives with one compound is written without its function.
-/

namespace SelectorPreview.Css

/-- How a compound selector is related to the one before it. -/
inductive Combinator where
  | descendant
  | child
  | nextSibling
  | laterSibling
  deriving DecidableEq

/-- The namespace of a name. -/
inductive Namespace where
  /-- None is written. -/
  | unspecified
  | any
  | empty
  | named (name : String)
  deriving DecidableEq

/-- How the value of an attribute is tested. -/
structure AttributeTest where
  /-- The operator, as it is written. -/
  operator : String
  value : String
  /-- The letter that tells how upper and lower case are compared. -/
  flag : Option Char
  deriving DecidableEq

mutual

/-- A simple selector. -/
inductive Simple where
  /-- The selector of the rule around this one. -/
  | nesting
  /-- A tag; every tag if there is no name. -/
  | type (ns : Namespace) (name : Option String)
  | identifier (name : String)
  | className (name : String)
  | attribute (ns : Namespace) (name : String) (test : Option AttributeTest)
  /-- A pseudo-class or pseudo-element that holds no selector, as it is written. -/
  | pseudo (written : String)
  /-- Parts of an element that it gives a name. -/
  | part (names : List String)
  /-- Alternatives, one of which has to match. -/
  | anyOf (alternatives : List Complex)
  /-- Any other function of selectors, by its name up to the bracket. -/
  | function (opening : String) (arguments : List Complex)

/-- A compound selector and its relation to the one before it, if there is one. -/
inductive Step where
  | mk (combinator : Option Combinator) (compound : List Simple)

/-- A complex selector. -/
inductive Complex where
  | mk (steps : List Step)

end

/-- How a combinator is written. -/
def Combinator.text : Combinator → String
  | descendant => " "
  | child => " > "
  | nextSibling => " + "
  | laterSibling => " ~ "

/-- A namespace before a tag, as it is written. -/
def Namespace.text : Namespace → String
  | unspecified => ""
  | any => "*|"
  | empty => "|"
  | named name => identifier name ++ "|"

/-- A namespace before an attribute, as it is written. -/
def Namespace.attributeText : Namespace → String
  | empty => ""
  | ns => ns.text

/-- A test of an attribute, as it is written. -/
def AttributeTest.text (t : AttributeTest) : String :=
  t.operator ++ quotedString t.value ++
    (match t.flag with
      | none => ""
      | some c => " " ++ String.ofList [c])

namespace Simple

/-- Whether a simple selector is a tag. -/
def isType : Simple → Bool
  | type _ _ => true
  | _ => false

/-- Whether a simple selector is that of the rule around. -/
def isNesting : Simple → Bool
  | nesting => true
  | _ => false

/-- Whether a simple selector names parts. -/
def isPart : Simple → Bool
  | part _ => true
  | _ => false

end Simple

/-- Whether `*` is written in a compound: when it stands there alone, or after the leading selector
of the rule around. -/
def keepsUniversal (first : Bool) (compound : List Simple) : Bool :=
  match compound.takeWhile (! ·.isPart) with
  | [_] => true
  | [s, _] => first && s.isNesting
  | _ => false

/-- Whether a list of alternatives can be written without its function: it is one compound without
a tag. -/
def isPlainAlternative : List Complex → Bool
  | [.mk [.mk none (s :: _)]] => ! s.isType
  | _ => false

mutual

/-- A simple selector as it is written; `universal` tells whether `*` is. -/
def Simple.text (universal : Bool) : Simple → String
  | .nesting => "&"
  | .type ns name =>
    match ns, name with
    | .unspecified, none => if universal then "*" else ""
    | ns, none => ns.text ++ "*"
    | ns, some name => ns.text ++ Css.identifier name
  | .identifier name => "#" ++ Css.identifier name
  | .className name => "." ++ Css.identifier name
  | .attribute ns name test =>
    "[" ++ ns.attributeText ++ Css.identifier name ++ (test.elim "" (·.text)) ++ "]"
  | .pseudo written => written
  | .part names => "::part(" ++ " ".intercalate (names.map Css.identifier) ++ ")"
  | .anyOf alternatives =>
    if isPlainAlternative alternatives then Complex.listText alternatives
    else ":is(" ++ Complex.listText alternatives ++ ")"
  | .function opening arguments => opening ++ Complex.listText arguments ++ ")"

/-- The simple selectors of a compound, one after another. -/
def Simple.listText (universal : Bool) : List Simple → String
  | [] => ""
  | s :: rest => Simple.text universal s ++ Simple.listText universal rest

/-- A step as it is written; `first` tells whether it is the first one. -/
def Step.text (first : Bool) : Step → String
  | .mk combinator compound =>
    combinator.elim "" Combinator.text ++
      Simple.listText (keepsUniversal first compound) compound

/-- The steps of a complex selector, one after another. -/
def Step.listText (first : Bool) : List Step → String
  | [] => ""
  | s :: rest => Step.text first s ++ Step.listText false rest

/-- A complex selector as it is written. -/
def Complex.text : Complex → String
  | .mk steps => Step.listText true steps

/-- Complex selectors with commas between them. -/
def Complex.listText : List Complex → String
  | [] => ""
  | c :: rest =>
    Complex.text c ++ (if rest.isEmpty then "" else ", ") ++ Complex.listText rest

end

/-! ## Selectors of the rule around -/

mutual

/-- Whether a simple selector refers to the rule around. -/
def Simple.refersOut : Simple → Bool
  | .nesting => true
  | .anyOf alternatives => Complex.anyRefersOut alternatives
  | .function _ arguments => Complex.anyRefersOut arguments
  | _ => false

/-- Whether one of the simple selectors refers to the rule around. -/
def Simple.anyRefersOut : List Simple → Bool
  | [] => false
  | s :: rest => Simple.refersOut s || Simple.anyRefersOut rest

/-- Whether one of the steps refers to the rule around. -/
def Step.anyRefersOut : List Step → Bool
  | [] => false
  | .mk _ compound :: rest => Simple.anyRefersOut compound || Step.anyRefersOut rest

/-- Whether one of the selectors refers to the rule around. -/
def Complex.anyRefersOut : List Complex → Bool
  | [] => false
  | .mk steps :: rest => Step.anyRefersOut steps || Complex.anyRefersOut rest

end

end SelectorPreview.Css
