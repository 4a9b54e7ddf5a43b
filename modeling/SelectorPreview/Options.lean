/-!
# Settings of a preview
-/

namespace SelectorPreview

/-- The settings of one preview. -/
structure Options where
  /-- The style sheet that the document and every frame link to. -/
  href : String
  /-- Whether elements outside the normal flow are put into frames. -/
  frames : Bool := true
  /-- The width of a frame in pixels. -/
  frameWidth : UInt32 := 400
  /-- The height of a frame in pixels. -/
  frameHeight : UInt32 := 300
  deriving DecidableEq

namespace Options

/-- The same settings with frames switched on or off. -/
def withFrames (options : Options) (frames : Bool) : Options :=
  { options with frames := frames }

/-- The same settings with frames of another size. -/
def withFrameSize (options : Options) (width height : UInt32) : Options :=
  { options with frameWidth := width, frameHeight := height }

end Options

end SelectorPreview
