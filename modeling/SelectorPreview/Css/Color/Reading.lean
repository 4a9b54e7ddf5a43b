import SelectorPreview.Css.Calculation.Reading
import SelectorPreview.Css.Color.Mix
/-!
# Reading colours

A colour is read from a keyword, from digits in base 16, or from a function. The coordinates that a
function gives may refer to those of another colour by their names, and any of them may be missing
where no commas stand between them.

* `Color.ofComponent?` : the colour that a component stands for;
* `Color.beforeOpacity?` : coordinates that are followed by an opacity that is not known yet.
-/

namespace SelectorPreview.Css

open Text

namespace Color

/-! ## Coordinates -/

/-- What coordinates may refer to: those of another colour with their names, which of them is a hue,
and whether a coordinate may be missing. -/
structure Origin where
  named : List (String × Float32) := []
  hue : Option String := none
  missing : Bool := true

/-- The coordinates of a colour as an origin of others. -/
def Origin.ofColor? (space : ColorSpace) (missing : Bool) (color : Color) : Option Origin := do
  let (source, x) ← color.coordinates?
  let x := (Coordinates.fit space (Coordinates.convert source space x.resolve)).resolve
  pure {
    named := space.names.zip [x.a, x.b, x.c] ++ [("alpha", x.alpha)]
    hue := if space.startsWithHue || space.endsWithHue then some "h" else none
    missing }

/-- Whether there is a colour to refer to. -/
def Origin.isRelative (o : Origin) : Bool := !o.named.isEmpty

/-- The coordinate of a name; that of a hue only where a hue is asked for. -/
def Origin.lookup? (o : Origin) (hues : Bool) (name : String) : Option Float32 :=
  let name := lowerString name
  if o.hue == some name && !hues then none else o.named.lookup name

/-- A coordinate of the origin, or a calculation with some. -/
def Origin.reference (o : Origin) (hues : Bool) : Reader Float32 := Reader.one fun
  | .token (.ident name) => o.lookup? hues name
  | .function name arguments =>
    let names (name : String) : Option Calculation := (o.lookup? hues name).map .number
    if o.isRelative then
      (Calculation.ofCall? { kind := .number, names } name arguments).bind Calculation.number?
    else none
  | _ => none

/-- What stands for a coordinate that is missing. -/
def Origin.none? (o : Origin) : Reader Float32 := do
  if o.missing then
    Reader.word "none"
    pure Coordinates.missing
  else failure

/-- A coordinate as it is written. -/
inductive Part where
  | number (value : Float32)
  /-- A part of the whole. -/
  | percentage (part : Float32)

/-- The number that a coordinate comes to if the whole is `basis`. -/
def Part.scaled (basis : Float32) : Part → Float32
  | number value => value
  | percentage part => part * basis

/-- A number or a percentage. -/
def Origin.part (o : Origin) : Reader Part :=
  Part.number <$> o.reference false <|> Part.number <$> Reader.number <|>
    Part.percentage <$> Reader.percentage <|> Part.number <$> o.none?

/-- A number or a percentage of a basis. -/
def Origin.coordinate (o : Origin) (basis : Float32) : Reader Float32 := do
  pure ((← o.part).scaled basis)

/-- A number or percentage of a basis that is not below zero. -/
def Origin.positive (o : Origin) (basis : Float32) : Reader Float32 := do
  let x ← o.coordinate basis
  pure (if x < 0 then 0 else x)

/-- A hue in degrees. -/
def Origin.hueCoordinate (o : Origin) : Reader Float32 :=
  o.reference true <|>
    (do
      match ← Reader.angle with
      | .measure (.angle value unit) => pure (unit.toDegrees value)
      | _ => failure) <|>
    Reader.number <|> o.none?

/-- An opacity. -/
def Origin.opacity (o : Origin) : Reader Float32 := do
  pure (Coordinates.clampTo 0 1 (← o.coordinate 1))

/-- The opacity after a slash; full without one. -/
def Origin.alpha (o : Origin) : Reader Float32 := do
  if (← optional Reader.slash).isSome then o.opacity else pure 1

/-- The opacity after a comma; full at the end. -/
def Origin.listedAlpha (o : Origin) : Reader Float32 :=
  (do Reader.finished; pure 1) <|> (do Reader.comma; o.opacity)

/-! ## Functions of coordinates -/

/-- The nearest level of 255. -/
def roundLevel (x : Float32) : Float32 := Coordinates.clampTo 0 255 x.round

/-- Red, green and blue up to 255, and whether commas stand between them. With commas they are all
numbers or all percentages. -/
def Origin.rgb (o : Origin) : Reader (Float32 × Float32 × Float32 × Bool) := do
  let ofPart (p : Part) : Float32 := roundLevel (p.scaled 255)
  let red ← o.part
  let listed := !o.isRelative && !(red.scaled 1).isNaN && (← optional Reader.comma).isSome
  if listed then
    let rest : Reader Float32 :=
      match red with
      | .number _ => Reader.number
      | .percentage _ => (· * 255) <$> Reader.percentage
    let green ← rest
    Reader.comma
    let blue ← rest
    pure (ofPart red, roundLevel green, roundLevel blue, true)
  else
    let green ← o.part
    let blue ← o.part
    pure (ofPart red, ofPart green, ofPart blue, false)

/-- A hue and two numbers up to 100, and whether commas stand between them. -/
def Origin.hueFirst (o : Origin) (commas : Bool) :
    Reader (Float32 × Float32 × Float32 × Bool) := do
  let hue ← o.hueCoordinate
  let listed :=
    commas && !o.isRelative && !hue.isNaN && (← optional Reader.comma).isSome
  let second := Coordinates.clampTo 0 100 (← o.coordinate 100)
  if listed then Reader.comma
  let third := Coordinates.clampTo 0 100 (← o.coordinate 100)
  if listed && (second.isNaN || third.isNaN) then failure
  pure (hue, second, third, listed)

/-- A colour of red, green and blue. -/
def Origin.rgbColor (o : Origin) : Reader Color := do
  let (red, green, blue, listed) ← o.rgb
  let alpha ← if listed then o.listedAlpha else o.alpha
  let x : Coordinates := ⟨red, green, blue, alpha⟩
  pure (if x.hasMissing then incomplete .rgb x
    else levels ⟨red / 255, green / 255, blue / 255, alpha⟩)

/-- A colour of a space whose first coordinate is a hue. -/
def Origin.hueColor (o : Origin) (space : ColorSpace) : Reader Color := do
  let (hue, second, third, listed) ← o.hueFirst (space = .hsl)
  let alpha ← if listed then o.listedAlpha else o.alpha
  pure (ofCoordinates space ⟨hue, second, third, alpha⟩)

/-- A colour of lightness and two opponent colours. -/
def Origin.labColor (o : Origin) (space : ColorSpace) (lightness chroma : Float32) :
    Reader Color := do
  let l ← o.positive lightness
  let a ← o.coordinate chroma
  let b ← o.coordinate chroma
  let alpha ← o.alpha
  pure (measured space ⟨l, a, b, alpha⟩)

/-- A colour of lightness, distance from grey and hue. -/
def Origin.lchColor (o : Origin) (space : ColorSpace) (lightness chroma : Float32) :
    Reader Color := do
  let l ← o.positive lightness
  let c ← o.positive chroma
  let hue ← o.hueCoordinate
  let alpha ← o.alpha
  pure (measured space ⟨l, c, hue, alpha⟩)

/-- A colour of a space that is named by a word. -/
def Origin.plainColor (o : Origin) (space : ColorSpace) : Reader Color := do
  let a ← o.coordinate 1
  let b ← o.coordinate 1
  let c ← o.coordinate 1
  let alpha ← o.alpha
  pure (measured space ⟨a, b, c, alpha⟩)

/-- The spaces that are named by a word. -/
def spaceWords : List (String × ColorSpace) :=
  [("srgb", .srgb), ("srgb-linear", .srgbLinear), ("display-p3", .displayP3), ("a98-rgb", .a98),
    ("prophoto-rgb", .proPhoto), ("rec2020", .rec2020), ("xyz-d50", .xyzD50), ("xyz", .xyzD65),
    ("xyz-d65", .xyzD65)]

/-- The functions that give the coordinates of a space. -/
def spaceFunctions : List (String × ColorSpace) :=
  [("rgb", .rgb), ("rgba", .rgb), ("hsl", .hsl), ("hsla", .hsl), ("hwb", .hwb), ("lab", .lab),
    ("lch", .lch), ("oklab", .oklab), ("oklch", .oklch)]

/-- The coordinates that the function of a space gives. -/
def Origin.ofSpace (o : Origin) : ColorSpace → Reader Color
  | .rgb => o.rgbColor
  | .lab => o.labColor .lab 100 125
  | .oklab => o.labColor .oklab 1 0.4
  | .lch => o.lchColor .lch 100 150
  | .oklch => o.lchColor .oklch 1 0.4
  | .hsl => o.hueColor .hsl
  | .hwb => o.hueColor .hwb
  | space => o.plainColor space

/-- A colour read with reference to another one, or to the two that show on light and dark
ground. -/
def relative? (space : ColorSpace) (origin : Color) (rest : List Component) : Option Color :=
  let plain? (origin : Color) : Option Color := do
    let o ← Origin.ofColor? space true origin
    Reader.whole? (o.ofSpace space) rest
  match origin with
  | lightDark light dark => do
    let light ← plain? light
    let dark ← plain? dark
    pure (lightDark light dark)
  | origin => plain? origin

/-! ## Mixtures -/

/-- The spaces that colours can be mixed in. -/
def mixingSpaces : List (String × ColorSpace) :=
  [("srgb", .srgb), ("srgb-linear", .srgbLinear), ("lab", .lab), ("oklab", .oklab),
    ("xyz", .xyzD65), ("xyz-d50", .xyzD50), ("xyz-d65", .xyzD65), ("hsl", .hsl), ("hwb", .hwb),
    ("lch", .lch), ("oklch", .oklch)]

/-- The words for the ways between two hues. -/
def huePaths : List (String × HuePath) :=
  [("shorter", .shorter), ("longer", .longer), ("increasing", .increasing),
    ("decreasing", .decreasing), ("specified", .specified)]

/-- The space of a mixture, and the way between the hues. -/
def mixingMethod? : List Component → Option (ColorSpace × HuePath)
  | [.token (.ident start), .token (.ident space)] =>
    if lowerString start == "in" then
      (mixingSpaces.lookup (lowerString space)).map (·, .shorter)
    else none
  | [.token (.ident start), .token (.ident space), .token (.ident path), .token (.ident last)] => do
    let s ← mixingSpaces.lookup (lowerString space)
    let path ← huePaths.lookup (lowerString path)
    if lowerString start == "in" && lowerString last == "hue" &&
        (s.startsWithHue || s.endsWithHue) then some (s, path)
    else none
  | _ => none

/-- A component with the colour that it stands for, if it stands for one. -/
abbrev Marked := Component × Option Color

/-- A colour with its part of a mixture, before or after it, if it is given. -/
def portion? : List Marked → Option (Color × Option Float32)
  | [(_, some color)] => some (color, none)
  | [(.token (.percentage n), _), (_, some color)] => some (color, some n.part)
  | [(_, some color), (.token (.percentage n), _)] => some (color, some n.part)
  | _ => none

/-- The parts of a list between its commas. -/
def splitCommas (cs : List Marked) : List (List Marked) := cs.splitOnP (·.1.isComma)

/-- The mixture that the parts of a function between its commas stand for. -/
def mixture? : List (List Marked) → Option Color
  | [method, first, second] => do
    let (s, path) ← mixingMethod? (method.map (·.1))
    let (first, p) ← portion? first
    let (second, q) ← portion? second
    match p, q with
    | none, none => mix? s path first second 0.5 0.5
    | some p, none => mix? s path first second p (1 - p)
    | none, some q => mix? s path first second (1 - q) q
    | some p, some q => mix? s path first second p q
  | _ => none

/-! ## Colours -/

/-- Whether a function of a name stands for a colour. -/
def isFunction (name : String) : Bool :=
  (spaceFunctions.lookup name).isSome || ["color", "color-mix", "light-dark"].contains name

/-- Whether a component is the word before a colour that is referred to. -/
def isFrom : Component → Bool
  | .token (.ident name) => lowerString name == "from"
  | _ => false

/-- The colour that a function gives whose arguments have been marked. -/
def ofMarked? (name : String) (arguments : List Marked) : Option Color :=
  match name with
  | "light-dark" =>
    match splitCommas arguments with
    | [[(_, some light)], [(_, some dark)]] => some (lightDark light.onLight dark.onDark)
    | _ => none
  | "color-mix" => mixture? (splitCommas arguments)
  | "color" =>
    match arguments with
    | (start, _) :: (c, color) :: rest =>
      if isFrom start then
        match color, rest with
        | some origin, (.token (.ident word), _) :: rest => do
          relative? (← spaceWords.lookup (lowerString word)) origin (rest.map (·.1))
        | _, _ => none
      else
        match start with
        | .token (.ident word) => do
          let space ← spaceWords.lookup (lowerString word)
          Reader.whole? (Origin.plainColor {} space) (c :: rest.map (·.1))
        | _ => none
    | _ => none
  | name => do
    let space ← spaceFunctions.lookup name
    match arguments with
    | (start, _) :: (c, color) :: rest =>
      if isFrom start then
        match color with
        | some origin => relative? space origin (rest.map (·.1))
        | none => none
      else Reader.whole? (Origin.ofSpace {} space) (start :: c :: rest.map (·.1))
    | _ => none

/-- The colour that a token stands for. -/
def ofToken? : Token → Option Color
  | .ident name => ofName? name
  | .hash digits => ofDigits? digits
  | .idHash digits => ofDigits? digits
  | _ => none

mutual

/-- The colour that a component stands for. -/
def ofComponent? : Component → Option Color
  | .token t => ofToken? t
  | .function name arguments =>
    let name := lowerString name
    if isFunction name then ofMarked? name (marked arguments) else none
  | .block _ _ => none

/-- The components that are not blank, with the colours that they stand for. -/
def marked : List Component → List Marked
  | [] => []
  | c :: rest => if c.isBlank then marked rest else (c, ofComponent? c) :: marked rest

end

/-! ## Colours with an unknown opacity -/

/-- What stands before the opacity of a colour: its coordinates, and the components that the opacity
is made of. -/
def beforeOpacity? (space : ColorSpace) (arguments : List Component) :
    Option (Coordinates × List Component) := do
  let start := arguments.takeWhile fun
    | .token (.delim c) => c != '/'
    | _ => true
  let opacity := arguments.drop (start.length + 1)
  if start.length == arguments.length then none
  let start := marked start
  let (o, rest) ←
    match start with
    | (c, _) :: (_, some origin) :: rest =>
      if isFrom c then (Origin.ofColor? space false origin).map (·, rest)
      else some ({ missing := false }, start)
    | _ => some ({ missing := false }, start)
  let read : Reader (Float32 × Float32 × Float32 × Bool) :=
    if space = .rgb then o.rgb else o.hueFirst false
  let (a, b, c, listed) ← Reader.whole? read (rest.map (·.1))
  if listed then none else some (⟨a, b, c, 1⟩, opacity)

end Color

namespace Reader

/-- A colour. -/
def color : Reader Color := one Color.ofComponent?

end Reader

end SelectorPreview.Css
