import SelectorPreview.Css.Property
import SelectorPreview.Css.Term
import SelectorPreview.Css.Value
/-!
# Forms of transitions and animations

How values change over time: for how long, after which delay, along which curve, and for an
animation how often, in which direction and along which timeline. What is as by default is not
written, unless the name of an animation could be taken for it.

Main definition: `Form.motions`, the forms of the properties of transitions and animations.
-/

namespace SelectorPreview.Css.Form

open Text

/-! ## Curves -/

/-- The curves that have a name, by their two points. -/
def curves : List (String × List Float32) :=
  [("ease", [0.25, 0.1, 0.25, 1]), ("ease-in", [0.42, 0, 1, 1]), ("ease-out", [0, 0, 0.58, 1]),
    ("ease-in-out", [0.42, 0, 0.58, 1])]

/-- The words for curves and steps. -/
def easingWords : List String :=
  ["linear", "ease", "ease-in", "ease-out", "ease-in-out", "step-start", "step-end"]

/-- A curve by its two points. -/
def curve : Form := Reader.function fun name arguments => do
  if name != "cubic-bezier" then none
  let parts ← (Reader.splitCommas (significant arguments)).mapM (Reader.whole? Reader.number)
  if parts.length != 4 then none
  match curves.find? fun (_, points) => points == parts with
  | some (word, _) => pure word
  | none => pure ("cubic-bezier(" ++ listed (parts.map Single.text) ++ ")")

/-- Where the steps of a curve are. -/
def stepPlaces : List (String × String) :=
  [("start", "start"), ("end", "end"), ("jump-start", "start"), ("jump-end", "end"),
    ("jump-none", "jump-none"), ("jump-both", "jump-both")]

/-- A curve of steps. -/
def steps : Form := Reader.call "steps" do
  let count ← Reader.integer
  let place ← optional (do Reader.comma; Reader.keyword (stepPlaces.map (·.1)))
  let place := (place.bind fun p => stepPlaces.lookup p).getD "end"
  pure (if count == 1 && (place == "start" || place == "end") then "step-" ++ place
    else "steps(" ++ signedDecimal count ++ ", " ++ place ++ ")")

/-- The curve of a change. -/
def easing : Form := keyword easingWords <|> curve <|> steps

/-! ## Transitions -/

/-- A name of a property as it is written. -/
def propertyName : Form := do
  let name ← Reader.identifier
  pure (if (Property.ofName? name).isSome then lowerString name else Css.identifier name)

/-- A duration that has a text only if it or another one is not zero. -/
def durationText (duration other : Option Term) : String :=
  let isZero (d : Option Term) : Bool := d.all Term.isZero
  if isZero duration && isZero other then "" else (duration.map Term.text).getD "0s"

/-- A text that is given, unless it is the default and `keep` does not hold. -/
def unlessDefaultOr (default : String) (keep : Bool) (t : Option Term) : String :=
  let text := (t.map Term.text).getD default
  textUnless (text == default && !keep) text

/-- A transition of a property. -/
def transition : Form := do
  match ← Reader.anyOrder [Term.duration, Term.word <$> easing, Term.duration,
      Term.word <$> propertyName] with
  | [duration, easing, delay, property] =>
    pure (spaced [(property.map Term.text).getD "all", durationText duration delay,
      unlessDefaultOr "ease" false easing, durationText delay none])
  | _ => failure

/-! ## Animations -/

/-- How often an animation runs. -/
def iterationCount : Reader Term := Term.number <|> Term.keyword ["infinite"]

/-- The directions that an animation runs in. -/
def animationDirections : List String := ["normal", "reverse", "alternate", "alternate-reverse"]

/-- What an animation shows before and after it runs. -/
def fillModes : List String := ["none", "forwards", "backwards", "both"]

/-- Whether an animation runs. -/
def playStates : List String := ["running", "paused"]

/-- The name of an animation; none if there is no animation. -/
def animationNameValue : Reader (Option String) :=
  (fun _ => none) <$> Reader.word "none" <|> some <$> Reader.string <|> do
    let name ← Reader.identifier
    if Value.isFreeName name then pure (some name) else failure

/-- The name of an animation as it is written: in quotes only if it has to be. -/
def animationNameText (name : String) : String :=
  if Value.isFreeName name && lowerString name != "none" then Css.identifier name
  else quotedString name

/-- The name of an animation, or `none`. -/
def animationName : Form :=
  (fun name => (name.map animationNameText).getD "none") <$> animationNameValue

/-- The axes of scrolling; the first one is the default. -/
def axes : List String := ["block", "inline", "x", "y"]

/-- A timeline of scrolling. -/
def scrollTimeline : Form := callOf "scroll" do
  match ← Reader.anyOrder [Reader.keyword ["nearest", "root", "self"], Reader.keyword axes] with
  | [scroller, axis] =>
    pure (spaced
      [(scroller.filter (· != "nearest")).getD "", (axis.filter (· != "block")).getD ""])
  | _ => failure

/-- A timeline of what is in view. -/
def viewTimeline : Form := callOf "view" do
  match ← Reader.anyOrder [keyword axes, pairOf Term.lengthOrAuto] with
  | [axis, inset] =>
    pure (spaced [(axis.filter (· != "block")).getD "", (inset.filter (· != "auto")).getD ""])
  | _ => failure

/-- A name that begins with two dashes. -/
def dashedName : Form := do
  let name ← Reader.identifier
  if "--".toList.isPrefixOf name.toList then pure (Css.identifier name) else failure

/-- The timeline of an animation. -/
def timeline : Form := keyword ["auto", "none"] <|> dashedName <|> scrollTimeline <|> viewTimeline

/-- An animation. Before its name stands all that is not as by default or that the name could be
taken for; without a name there is nothing else. -/
def animation : Form := do
  match ← Reader.anyOrder [Term.duration, Term.word <$> easing, Term.duration, iterationCount,
      Term.keyword animationDirections, Term.keyword fillModes, Term.keyword playStates,
      (fun name => .word (name.getD "")) <$> animationNameValue, Term.word <$> timeline] with
  | [duration, easing, delay, count, direction, fill, play, name, timeline] =>
    match name with
    | some (.word name) =>
      if name.isEmpty then pure "none"
      else
        let word := lowerString name
        pure (spaced [durationText duration delay,
          unlessDefaultOr "ease" (easingWords.contains name) easing,
          durationText delay none,
          unlessDefaultOr "1" (name == "infinite") count,
          unlessDefaultOr "normal" (animationDirections.contains word) direction,
          unlessDefaultOr "none" (word != "none" && fillModes.contains word) fill,
          unlessDefaultOr "running" (playStates.contains word) play,
          animationNameText name,
          unlessDefaultOr "auto" false timeline])
    | _ => pure "none"
  | _ => failure

/-! ## Ranges -/

/-- The parts of a timeline that have a name. -/
def rangeNames : List String :=
  ["cover", "contain", "entry", "exit", "entry-crossing", "exit-crossing"]

/-- An end of a range: its text, and the part of the timeline that it names. An offset that is as by
default is not written. -/
def rangeEnd (default : Float32) : Reader (String × Option String) :=
  (·, none) <$> keyword ["normal"] <|> (·, none) <$> ofTerm Term.lengthPercentage <|> do
    let name ← Reader.keyword rangeNames
    let offset ← optional Term.lengthPercentage
    pure (spaced [name, ((offset.filter (· != .ofPart default)).map Term.text).getD ""], some name)

/-- A range of a timeline. Its end is not written if it is the end of the part that its start names,
or as by default if that names none. -/
def range : Form := do
  let (start, part) ← rangeEnd 0
  match ← optional (rangeEnd 1) with
  | some (stop, _) => pure (if stop == part.getD "normal" then start else start ++ " " ++ stop)
  | none => pure start

/-! ## The properties -/

/-- The forms of the properties of transitions and animations. -/
def motions : Table :=
  [(["transition-property"], listOf propertyName),
    (["transition-duration", "transition-delay", "animation-duration", "animation-delay"],
      listOf (ofTerm Term.duration)),
    (["transition-timing-function", "animation-timing-function"], listOf easing),
    (["transition"], listOf transition),
    (["animation-name"], listOf animationName),
    (["animation-iteration-count"], listOf (ofTerm iterationCount)),
    (["animation-direction"], listOf (keyword animationDirections)),
    (["animation-play-state"], listOf (keyword playStates)),
    (["animation-fill-mode"], listOf (keyword fillModes)),
    (["animation-composition"], listOf (keyword ["replace", "add", "accumulate"])),
    (["animation-timeline"], listOf timeline),
    (["animation-range-start"], listOf ((·.1) <$> rangeEnd 0)),
    (["animation-range-end"], listOf ((·.1) <$> rangeEnd 1)),
    (["animation-range"], listOf range),
    (["animation"], listOf animation)]

end SelectorPreview.Css.Form
