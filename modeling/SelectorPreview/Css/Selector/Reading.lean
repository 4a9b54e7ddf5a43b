import SelectorPreview.Css.Attempt
import SelectorPreview.Css.Selector
import SelectorPreview.Css.Selector.Pseudo
/-!
# Reading selectors

A complex selector is read from left to right: simple selectors fill a compound, blanks and
combinators end it. What may follow depends on what has been met, above all on pseudo-elements,
after which nearly nothing may stand. Functions that take selectors read their arguments in the same
way, one level down.

Main definition: `readList`, the selectors that components stand for, or failure.
-/

namespace SelectorPreview.Css.Selector

open Text

/-! ## What has been met -/

/-- What has been met on the way to a simple selector, as far as it restricts what may stand there.
-/
structure Context where
  afterElement : Bool := false
  afterPart : Bool := false
  afterSlot : Bool := false
  afterScrollbar : Bool := false
  afterTransition : Bool := false
  /-- Pseudo-elements may not stand here. -/
  withoutElements : Bool := false
  /-- Combinators may not stand here. -/
  withoutCombinators : Bool := false

namespace Context

/-- Whether a pseudo-element has been met. -/
def ended (c : Context) : Bool := c.afterElement || c.afterPart || c.afterSlot

/-- Where pseudo-elements may not stand. -/
def inside (c : Context) : Context := { c with withoutElements := true }

/-- Where neither pseudo-elements nor combinators may stand. -/
def single (c : Context) : Context := { c with withoutElements := true, withoutCombinators := true }

end Context

/-- How a list of selectors is read. -/
structure ListMode where
  /-- Each selector may begin with a combinator. -/
  relative : Bool := false
  /-- Selectors that cannot be read are left out. -/
  forgiving : Bool := false

/-- How the arguments of functions are read. -/
abbrev Inner := ListMode → Context → List Component → Attempt (List Complex)

/-- Reads exactly one selector. -/
def Inner.one (inner : Inner) (context : Context) (cs : List Component) : Attempt Complex := do
  match ← inner {} context cs with
  | [c] => pure c
  | _ => failure

/-! ## Attributes -/

/-- The operator of a test. -/
def operator? : Component → Option String
  | .token (.delim '=') => some "="
  | .token .includeMatch => some "~="
  | .token .dashMatch => some "|="
  | .token .startMatch => some "^="
  | .token .endMatch => some "$="
  | .token .substringMatch => some "*="
  | _ => none

/-- The value of a test. -/
def attributeValue? : Component → Option String
  | .token (.ident value) => some value
  | .token (.string value) => some value
  | _ => none

/-- The flag of a test. -/
def flag? : Component → Option Char
  | .token (.ident name) =>
    match lowerString name with
    | "i" => some 'i'
    | "s" => some 's'
    | _ => none
  | _ => none

/-- The test that follows the name of an attribute; nothing may follow it. -/
def attributeTest? : List Component → Option (Option AttributeTest)
  | [] => some none
  | [op, value] => do
    let op ← operator? op
    let value ← attributeValue? value
    pure (some ⟨op, value, none⟩)
  | [op, value, flag] => do
    let op ← operator? op
    let value ← attributeValue? value
    let flag ← flag? flag
    pure (some ⟨op, value, some flag⟩)
  | _ => none

/-- The name of an attribute, and what follows it. -/
def attributeName? : List Component → Option (Namespace × String × List Component)
  | .token (.ident ns) :: .token (.delim '|') :: rest =>
    match rest with
    | .token (.ident name) :: rest => some (.named ns, name, rest)
    | _ => none
  | .token (.delim '*') :: .token (.delim '|') :: .token (.ident name) :: rest =>
    some (.any, name, rest)
  | .token (.delim '|') :: .token (.ident name) :: rest => some (.empty, name, rest)
  | .token (.ident name) :: rest => some (.unspecified, name, rest)
  | _ => none

/-- The attribute selector between two square brackets. -/
def attribute? (contents : List Component) : Option Simple := do
  let (ns, name, rest) ←
    attributeName? ((contents.filter (! ·.isComment)).dropWhile (·.isBlank))
  let test ← attributeTest? (significant rest)
  pure (.attribute ns name test)

/-! ## Pseudo-elements -/

/-- A pseudo-element without arguments. -/
def element (context : Context) (name : String) : Attempt (Simple × Context) := do
  let known := lowerString name
  if Pseudo.legacyElements.contains known then
    pure (.pseudo (":" ++ known), { context with afterElement := true })
  else if Pseudo.scrollbarElements.contains known then
    pure (.pseudo ("::" ++ known), { context with afterElement := true, afterScrollbar := true })
  else if Pseudo.elements.contains known then
    pure (.pseudo ("::" ++ known), { context with
      afterElement := true
      afterTransition := context.afterTransition || known == "view-transition" })
  else do
    if !Pseudo.isDashed name then Attempt.warn
    pure (.pseudo ("::" ++ name), context)

/-- The name that a component is. -/
def identName? : Component → Option String
  | .token (.ident name) => some name
  | _ => none

/-- The names between the brackets of `::part()`. -/
def partNames? (arguments : List Component) : Option (List String) :=
  match significant arguments with
  | [] => none
  | cs => cs.mapM identName?

/-- The classes of a part of a change of view, each after a point; nothing may stand between. -/
def transitionClasses? : List Component → Option String
  | [] => some ""
  | .token (.delim '.') :: .token (.ident name) :: rest =>
    (transitionClasses? rest).map fun more => "." ++ identifier name ++ more
  | _ => none

/-- What a part of a change of view is called: an optional name or star, and classes. Only before
the name may blanks stand. -/
def transitionName? (arguments : List Component) : Option String :=
  match (arguments.filter (! ·.isComment)).dropWhile (·.isBlank) with
  | .token (.delim '*') :: rest => (transitionClasses? rest).map ("*" ++ ·)
  | .token (.ident name) :: rest =>
    if Value.isFreeName name then (transitionClasses? rest).map (identifier name ++ ·) else none
  | rest => transitionClasses? rest

/-- A pseudo-element with arguments, slots and parts apart. -/
def elementFunction (inner : Inner) (context : Context) (name : String)
    (arguments : List Component) : Attempt (Simple × Context) := do
  let known := lowerString name
  if known == "cue" || known == "cue-region" then do
    let selector ← inner.one {} arguments
    pure (.function ("::" ++ known ++ "(") [selector], { context with afterElement := true })
  else if Pseudo.transitionElements.contains known then do
    let text ← Attempt.ofOption (transitionName? arguments)
    pure (.pseudo ("::" ++ known ++ "(" ++ text ++ ")"),
      { context with afterElement := true, afterTransition := true })
  else do
    if !Pseudo.isDashed name then Attempt.warn
    let text ← Attempt.ofOption (Value.rawListText? arguments)
    pure (.pseudo ("::" ++ name ++ "(" ++ text ++ ")"), context)

/-- Whether a pseudo-element, by its name, may follow a slot. -/
def fitsSlot (context : Context) (name : String) : Bool :=
  !context.afterSlot || Pseudo.slottableElements.contains (lowerString name)

/-- Reads a pseudo-element by its name, with its arguments if it has any. -/
def pseudoElement (inner : Inner) (context : Context) (name : String)
    (arguments : Option (List Component)) : Attempt (Simple × Context) := do
  Attempt.ensure (!(context.afterElement || context.withoutElements))
  match arguments with
  | none => do
    let read ← element context name
    Attempt.ensure (fitsSlot context name)
    pure read
  | some arguments =>
    match lowerString name with
    | "part" => do
      Attempt.ensure (!context.ended)
      let names ← Attempt.ofOption (partNames? arguments)
      pure (.part names, { context with afterPart := true })
    | "slotted" => do
      Attempt.ensure (!context.ended)
      let selector ← inner.one context.single arguments
      pure (.function "::slotted(" [selector], { context with afterSlot := true })
    | _ => do
      let read ← elementFunction inner context name arguments
      Attempt.ensure (fitsSlot context name)
      pure read

/-! ## Pseudo-classes -/

/-- Reads a pseudo-class without arguments. -/
def pseudoClass (context : Context) (name : String) : Attempt Simple := do
  Attempt.ensure (!context.afterSlot)
  let known := lowerString name
  if Pseudo.treeClasses.contains known && !context.ended then pure (.pseudo (":" ++ known))
  else if context.afterTransition && known == "only-child" then pure (.pseudo (":" ++ known))
  else do
    let isKnown := Pseudo.isClass known
    if !isKnown && !Pseudo.isDashed name then Attempt.warn
    if context.afterScrollbar then Attempt.ensure (Pseudo.scrollbarClasses.contains known)
    else if context.afterElement then Attempt.ensure (Pseudo.userActionClasses.contains known)
    else Attempt.ensure (!Pseudo.scrollbarOnlyClasses.contains known)
    pure (.pseudo (":" ++ (if isKnown then known else name)))

/-- The languages between the brackets of `:lang()`. -/
def languages? (arguments : List Component) : Option (List String) :=
  (arguments.splitOnP (·.isComma)).mapM fun piece =>
    match significant piece with
    | [.token (.ident name)] => some (identifier name)
    | [.token (.string name)] => some (identifier name)
    | _ => none

/-- The names of view transition types. -/
def transitionTypes? (arguments : List Component) : Option (List String) :=
  (arguments.splitOnP (·.isComma)).mapM fun piece =>
    match significant piece with
    | [.token (.ident name)] => some (identifier name)
    | _ => none

/-- The direction between the brackets of `:dir()`. -/
def direction? (arguments : List Component) : Option String :=
  match significant arguments with
  | [.token (.ident name)] =>
    let word := lowerString name
    if word == "ltr" || word == "rtl" then some word else none
  | _ => none

/-- The names of the pseudo-classes that count positions, with the name for the first position. -/
def positionClasses : List (String × String) :=
  [("nth-child", ":first-child"), ("nth-last-child", ":last-child"),
    ("nth-of-type", ":first-of-type"), ("nth-last-of-type", ":last-of-type"),
    ("nth-col", ":nth-col(1)"), ("nth-last-col", ":nth-last-col(1)")]

/-- Whether a component is the word before the selectors whose matches are counted. -/
def isOf : Component → Bool
  | .token (.ident name) => lowerString name == "of"
  | _ => false

/-- Reads a pseudo-class that counts positions. -/
def positions (inner : Inner) (context : Context) (name firstName : String)
    (arguments : List Component) : Attempt Simple := do
  Attempt.ensure (!context.ended)
  let counted := name == "nth-child" || name == "nth-last-child"
  let nth ← Attempt.ofOption (Nth.ofComponents? (arguments.takeWhile (! isOf ·)))
  let opening := ":" ++ name ++ "(" ++ nth.text
  match arguments.dropWhile (! isOf ·) with
  | [] =>
    if nth == ⟨0, 1⟩ then pure (.pseudo firstName) else pure (.pseudo (opening ++ ")"))
  | _ :: selectors => do
    Attempt.ensure counted
    let list ← inner { forgiving := true } context.inside selectors
    pure (.function (opening ++ " of ") list)

/-- Reads any other pseudo-class with arguments that are not selectors. -/
def otherFunction (context : Context) (name : String) (arguments : List Component) :
    Attempt Simple := do
  Attempt.ensure (!context.ended)
  match lowerString name with
  | "lang" => do
    let names ← Attempt.ofOption (languages? arguments)
    pure (.pseudo (":lang(" ++ ", ".intercalate names ++ ")"))
  | "dir" => do
    let word ← Attempt.ofOption (direction? arguments)
    pure (.pseudo (":dir(" ++ word ++ ")"))
  | "active-view-transition-type" => do
    let names ← Attempt.ofOption (transitionTypes? arguments)
    pure (.pseudo (":active-view-transition-type(" ++ ", ".intercalate names ++ ")"))
  | _ => do
    if !Pseudo.isDashed name then Attempt.warn
    let text ← Attempt.ofOption (Value.rawListText? arguments)
    pure (.pseudo (":" ++ name ++ "(" ++ text ++ ")"))

/-- Reads a pseudo-class with arguments. -/
def classFunction (inner : Inner) (context : Context) (name : String)
    (arguments : List Component) : Attempt Simple := do
  let known := lowerString name
  match positionClasses.lookup known with
  | some firstName => positions inner context known firstName arguments
  | none =>
    match known with
    | "is" => do
      let list ← inner { forgiving := true } context.inside arguments
      pure (.anyOf list)
    | "where" => do
      let list ← inner { forgiving := true } context.inside arguments
      pure (.function ":where(" list)
    | "has" => do
      let list ← inner { relative := true, forgiving := true } context arguments
      pure (.function ":has(" list)
    | "not" => do
      let list ← inner {} context.inside arguments
      pure (.function ":not(" list)
    | "host" => do
      Attempt.ensure (!context.ended)
      let selector ← inner.one context.single arguments
      pure (.function ":host(" [selector])
    | "-webkit-any" => do
      let list ← inner { forgiving := true } context.inside arguments
      pure (.function ":-webkit-any(" list)
    | "-moz-any" => do
      let list ← inner { forgiving := true } context.inside arguments
      pure (.function ":-moz-any(" list)
    | _ => otherFunction context name arguments

/-! ## Simple selectors -/

/-- A name after one or two colons, with its arguments if it has any. -/
def pseudoName? : Component → Option (String × Option (List Component))
  | .token (.ident name) => some (name, none)
  | .function name arguments => some (name, some arguments)
  | _ => none

/-- Reads what stands after one colon. -/
def afterColon (inner : Inner) (context : Context) (c : Component) :
    Attempt (Simple × Context) := do
  let (name, arguments) ← Attempt.ofOption (pseudoName? c)
  if Pseudo.legacyElements.contains (lowerString name) then
    pseudoElement inner context name arguments
  else
    match arguments with
    | none => do
      let s ← pseudoClass context name
      pure (s, context)
    | some arguments => do
      let s ← classFunction inner context name arguments
      pure (s, context)

/-- Reads what stands after two colons. -/
def afterColons (inner : Inner) (context : Context) (c : Component) :
    Attempt (Simple × Context) := do
  let (name, arguments) ← Attempt.ofOption (pseudoName? c)
  pseudoElement inner context name arguments

/-- Reads the simple selector that begins with a component, tags apart: the selector, what may
follow it, and how many more components it takes. -/
def simple (inner : Inner) (context : Context) (c : Component) (rest : List Component) :
    Attempt (Simple × Context × Nat) := do
  match c, rest with
  | .token (.idHash name), _ => do
    Attempt.ensure (!context.ended)
    pure (.identifier name, context, 0)
  | .token (.delim '.'), .token (.ident name) :: _ => do
    Attempt.ensure (!context.ended)
    pure (.className name, context, 1)
  | .block .square contents, _ => do
    Attempt.ensure (!context.ended)
    let s ← Attempt.ofOption (attribute? contents)
    pure (s, context, 0)
  | .token .colon, .token .colon :: c :: _ => do
    let (s, after) ← afterColons inner context c
    pure (s, after, 2)
  | .token .colon, c :: _ => do
    let (s, after) ← afterColon inner context c
    pure (s, after, 1)
  | .token (.delim '&'), _ => pure (.nesting, context, 0)
  | _, _ => failure

/-- Reads the tag that begins with a component, if one does: the selector, and how many more
components it takes. -/
def type (c : Component) (rest : List Component) : Attempt (Option (Simple × Nat)) :=
  let qualified (ns : Namespace) (more : Nat) : List Component → Attempt (Option (Simple × Nat))
    | .token (.ident name) :: _ => pure (some (.type ns (some name), more))
    | .token (.delim '*') :: _ => pure (some (.type ns none, more))
    | _ => failure
  match c, rest with
  | .token (.ident ns), .token (.delim '|') :: after => qualified (.named ns) 2 after
  | .token (.delim '*'), .token (.delim '|') :: after => qualified .any 2 after
  | .token (.delim '|'), after => qualified .empty 1 after
  | .token (.ident name), _ => pure (some (.type .unspecified (some name), 0))
  | .token (.delim '*'), _ => pure (some (.type .unspecified none, 0))
  | _, _ => pure none

/-! ## Complex selectors -/

/-- Where the reader of a complex selector stands. -/
inductive Phase where
  /-- Before a relative selector, which a combinator may begin. -/
  | lead
  /-- Before a compound. -/
  | before
  /-- After the selector of the rule around, which begins a compound: a tag may follow. -/
  | nested
  /-- Inside a compound, where no tag may follow. -/
  | inside
  /-- After a compound and a blank. -/
  | gap
  deriving DecidableEq

/-- What has been read of a complex selector. -/
structure Progress where
  phase : Phase
  context : Context
  /-- The steps that are complete, the last one first. -/
  steps : List Step := []
  /-- The combinator before the compound being read. -/
  combinator : Option Combinator := none
  /-- The compound being read, its last part first. -/
  compound : List Simple := []

namespace Progress

/-- The steps with the compound being read, the last one first. -/
def allSteps (p : Progress) : List Step := .mk p.combinator p.compound.reverse :: p.steps

/-- Whether the reader is past a compound. -/
def hasCompound (p : Progress) : Bool :=
  p.phase == .nested || p.phase == .inside || p.phase == .gap

/-- Meets a blank. -/
def blank (p : Progress) : Progress := if p.hasCompound then { p with phase := .gap } else p

/-- Goes on to the next compound. -/
def next (p : Progress) (combinator : Combinator) : Attempt Progress :=
  if p.context.ended || p.context.withoutCombinators then failure
  else
    pure { phase := .before, context := p.context, steps := p.allSteps,
           combinator := some combinator }

/-- Meets a combinator. -/
def combine (p : Progress) (combinator : Combinator) : Attempt Progress :=
  match p.phase with
  | .lead => pure { p with phase := .before, combinator := some combinator }
  | .before => failure
  | _ => p.next combinator

/-- The phase after a simple selector. -/
def phaseAfter (p : Progress) (s : Simple) : Phase :=
  if s.isNesting && (p.phase == .lead || p.phase == .before) then .nested else .inside

/-- Meets the first component of a simple selector. -/
def take (inner : Inner) (p : Progress) (c : Component) (rest : List Component) :
    Attempt (Progress × Nat) := do
  let p ← if p.phase == .gap then p.next .descendant else pure p
  let tag ← if p.phase == .inside then pure none else type c rest
  match tag with
  | some (s, more) => do
    Attempt.ensure (!p.context.ended)
    pure ({ p with phase := .inside, compound := s :: p.compound }, more)
  | none => do
    let (s, context, more) ← simple inner p.context c rest
    pure ({ p with phase := p.phaseAfter s, context := context, compound := s :: p.compound }, more)

/-- The combinator that a component is. -/
def combinator? : Component → Option Combinator
  | .token (.delim '>') => some .child
  | .token (.delim '+') => some .nextSibling
  | .token (.delim '~') => some .laterSibling
  | _ => none

/-- Reads on to the end. -/
def read (inner : Inner) (p : Progress) (cs : List Component) : Attempt Complex :=
  match cs with
  | [] => if p.hasCompound then pure (.mk p.allSteps.reverse) else failure
  | c :: rest =>
    if c.isBlank then read inner p.blank rest
    else
      match combinator? c with
      | some combinator => do
        let p ← p.combine combinator
        read inner p rest
      | none => do
        let (p, more) ← p.take inner c rest
        read inner p (rest.drop more)
termination_by cs.length

end Progress

/-- Reads one complex selector. -/
def readOne (inner : Inner) (relative : Bool) (context : Context) (cs : List Component) :
    Attempt Complex :=
  Progress.read inner { phase := if relative then .lead else .before, context := context }
    (cs.filter (! ·.isComment))

/-- Reads selectors with commas between them. -/
def readMany (inner : Inner) : Inner := fun mode context cs =>
  let pieces := cs.splitOnP (·.isComma)
  if mode.forgiving then do
    let read ← pieces.mapM fun piece =>
      Attempt.optional (readOne inner mode.relative context piece)
    pure (read.filterMap id)
  else pieces.mapM (readOne inner mode.relative context)

/-- Reads selectors whose functions are nested at most so deep. -/
def readNested : Nat → Inner
  | 0 => fun _ _ _ => failure
  | depth + 1 => readMany (readNested depth)

/-- The selectors that components stand for. -/
def readList (relative forgiving : Bool) (cs : List Component) : Attempt (List Complex) :=
  readNested (Component.depthList cs + 1) ⟨relative, forgiving⟩ {} cs

end SelectorPreview.Css.Selector
