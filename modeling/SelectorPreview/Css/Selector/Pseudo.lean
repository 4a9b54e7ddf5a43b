/-!
# Names of pseudo-classes and pseudo-elements

The names that the language knows, grouped by where they may stand.
-/

namespace SelectorPreview.Css.Pseudo

/-- The pseudo-elements that may be written with a single colon, and are. -/
def legacyElements : List String := ["before", "after", "first-line", "first-letter"]

/-- The pseudo-elements of scroll bars. -/
def scrollbarElements : List String :=
  ["-webkit-scrollbar", "-webkit-scrollbar-button", "-webkit-scrollbar-track",
    "-webkit-scrollbar-track-piece", "-webkit-scrollbar-thumb", "-webkit-scrollbar-corner",
    "-webkit-resizer"]

/-- The other pseudo-elements. -/
def elements : List String :=
  ["cue", "cue-region", "selection", "-moz-selection", "placeholder",
    "-webkit-input-placeholder", "-moz-placeholder", "-ms-input-placeholder", "marker",
    "backdrop", "-webkit-backdrop", "file-selector-button", "-webkit-file-upload-button",
    "-ms-browse", "view-transition"]

/-- The pseudo-elements that may follow a slot. -/
def slottableElements : List String :=
  ["before", "after", "marker", "placeholder", "-webkit-input-placeholder", "-moz-placeholder",
    "-ms-input-placeholder", "file-selector-button", "-webkit-file-upload-button", "-ms-browse"]

/-- The pseudo-elements with the name of a view transition in brackets. -/
def transitionElements : List String :=
  ["view-transition-group", "view-transition-image-pair", "view-transition-old",
    "view-transition-new"]

/-- The pseudo-classes that depend on the place in the tree. -/
def treeClasses : List String :=
  ["first-child", "last-child", "only-child", "first-of-type", "last-of-type", "only-of-type",
    "root", "empty", "scope", "host"]

/-- The pseudo-classes of what a user does, which may follow a pseudo-element. -/
def userActionClasses : List String :=
  ["hover", "active", "focus", "focus-visible", "focus-within"]

/-- The pseudo-classes that only scroll bars have. -/
def scrollbarOnlyClasses : List String :=
  ["horizontal", "vertical", "decrement", "increment", "start", "end", "double-button",
    "single-button", "no-button", "corner-present", "window-inactive"]

/-- The pseudo-classes that may follow a scroll bar. -/
def scrollbarClasses : List String :=
  ["enabled", "disabled", "hover", "active"] ++ scrollbarOnlyClasses

/-- The other pseudo-classes without arguments. -/
def classes : List String :=
  ["current", "past", "future", "playing", "paused", "seeking", "buffering", "stalled", "muted",
    "volume-locked", "fullscreen", "-webkit-full-screen", "-moz-full-screen", "-ms-fullscreen",
    "open", "closed", "modal", "picture-in-picture", "popover-open", "defined", "any-link",
    "-webkit-any-link", "-moz-any-link", "link", "local-link", "target", "target-within",
    "visited", "enabled", "disabled", "read-only", "-moz-read-only", "read-write",
    "-moz-read-write", "placeholder-shown", "-moz-placeholder-shown", "-ms-placeholder-shown",
    "default", "checked", "indeterminate", "blank", "valid", "invalid", "in-range",
    "out-of-range", "required", "optional", "user-valid", "user-invalid", "autofill",
    "-webkit-autofill", "-o-autofill", "active-view-transition"]

/-- Whether a name is that of a pseudo-class without arguments that does not depend on the tree. -/
def isClass (name : String) : Bool :=
  userActionClasses.contains name || classes.contains name || scrollbarOnlyClasses.contains name

/-- Whether a name begins with a dash, as names that only some programs know do. -/
def isDashed (name : String) : Bool := name.toList.head? == some '-'

end SelectorPreview.Css.Pseudo
