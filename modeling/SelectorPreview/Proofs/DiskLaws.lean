import SelectorPreview.Disk
/-!
# What is relied on in a disk

A disk acts on a state of the outside, of which a `View` tells what the files hold, where paths lead
and what stands on standard output. `Disk.Lawful` lists what the system promises of its actions:
reading changes nothing, opening and writing change one file, and printing changes standard output.
Nothing is promised about when an action succeeds, and a text that is not written to its end is left
as it is then.

* `View.Printed`, `View.Filled` : what a text has changed that was printed or given to a file;
* `Lawful.printed_of_ok`, `Lawful.filled_of_ok` and the two for failures : the actions change this.
-/

namespace SelectorPreview

/-- What can be seen of the outside. Files, devices and streams are told apart by their spots, of
which several paths can lead to one. -/
structure View (σ File Spot : Type) where
  /-- The bytes that a spot holds, if it holds any. -/
  content : σ → Spot → Option ByteArray
  /-- The spot that a path leads to, if there is something. -/
  leads : σ → String → Option Spot
  /-- Whether a spot is a plain file, which holds what is written to it. -/
  Plain : σ → Spot → Prop
  /-- The spot of an opened file. -/
  opened : File → Spot
  /-- The spot of standard output. -/
  stdout : Spot

namespace View

variable {σ File Spot : Type} (view : View σ File Spot)

/-- Two states that look the same. -/
structure Same (s s' : σ) : Prop where
  content : ∀ spot, view.content s' spot = view.content s spot
  leads : ∀ path, view.leads s' path = view.leads s path
  plain : ∀ spot, view.Plain s' spot ↔ view.Plain s spot

/-- Two states in which all spots but one hold the same. -/
def SameBut (changed : Spot) (s s' : σ) : Prop :=
  ∀ spot, spot ≠ changed → view.content s' spot = view.content s spot

/-- Whether a path leads to a plain file, if it leads anywhere. -/
def PlainAt (s : σ) (path : String) : Prop :=
  ∀ spot, view.leads s path = some spot → view.Plain s spot

/-- Only standard output has changed: behind what stood there are bytes of which `p` holds. -/
def Printed (p : ByteArray → Prop) (s s' : σ) : Prop :=
  view.SameBut view.stdout s s' ∧
    ∀ before, view.content s view.stdout = some before →
      ∃ bytes, p bytes ∧ view.content s' view.stdout = some (before ++ bytes)

/-- Only the file at a path has changed, and the path leads to it as before. If it led to a plain
file or to nothing, the file is made of bytes of which `p` holds. -/
def Filled (path : String) (p : ByteArray → Prop) (s s' : σ) : Prop :=
  ∃ spot, view.leads s' path = some spot ∧
    (∀ old, view.leads s path = some old → old = spot) ∧ view.SameBut spot s s' ∧
    (view.PlainAt s path → ∃ bytes, p bytes ∧ view.content s' spot = some bytes)

variable {view} {s s' s'' : σ} {spot : Spot} {path : String}

/-- What looks the same in two steps looks the same. -/
theorem Same.trans (h : view.Same s s') (h' : view.Same s' s'') : view.Same s s'' where
  content spot := (h'.content spot).trans (h.content spot)
  leads path := (h'.leads path).trans (h.leads path)
  plain spot := (h'.plain spot).trans (h.plain spot)

/-- A step that changes one spot does so after one that changes nothing. -/
theorem Same.trans_sameBut (h : view.Same s s') (h' : view.SameBut spot s' s'') :
    view.SameBut spot s s'' :=
  fun other hother => (h' other hother).trans (h.content other)

/-- Two steps that change one spot change one spot. -/
theorem SameBut.trans (h : view.SameBut spot s s') (h' : view.SameBut spot s' s'') :
    view.SameBut spot s s'' :=
  fun other hother => (h' other hother).trans (h other hother)

/-- In a state that looks the same, paths lead to plain files as before. -/
theorem Same.plainAt (h : view.Same s s') (hplain : view.PlainAt s path) :
    view.PlainAt s' path := by
  intro spot hspot
  rw [h.leads] at hspot
  exact (h.plain spot).2 (hplain spot hspot)

end View

/-- Bytes are a beginning of the bytes of a text. -/
def IsPart (text : String) (bytes : ByteArray) : Prop :=
  ∃ count, bytes = text.toUTF8.extract 0 count

/-- What a system promises of the actions of a disk. -/
structure Disk.Lawful {σ File Spot : Type} (disk : Disk File (StateM σ))
    (view : View σ File Spot) : Prop where
  /-- Reading changes nothing. -/
  read_same : ∀ {path s result s'}, (disk.read path).run s = (result, s') → view.Same s s'
  /-- What is read of a plain file is all that it holds. -/
  read_text : ∀ {path s text s' spot}, (disk.read path).run s = (.ok text, s') →
    view.leads s path = some spot → view.Plain s spot → view.content s spot = some text.toUTF8
  /-- Where no file can be opened, nothing changes. -/
  create_same : ∀ {path s e s'}, (disk.create path).run s = (.error e, s') → view.Same s s'
  /-- The opened file is the one that the path leads to then, -/
  create_leads : ∀ {path s file s'}, (disk.create path).run s = (.ok file, s') →
    view.leads s' path = some (view.opened file)
  /-- and the one that it led to before, if there was one. -/
  create_old : ∀ {path s file s' spot}, (disk.create path).run s = (.ok file, s') →
    view.leads s path = some spot → spot = view.opened file
  /-- No other one changes. -/
  create_other : ∀ {path s file s'}, (disk.create path).run s = (.ok file, s') →
    view.SameBut (view.opened file) s s'
  /-- A plain file is emptied, and a new file is a plain one. -/
  create_plain : ∀ {path s file s'}, (disk.create path).run s = (.ok file, s') →
    view.PlainAt s path →
    view.Plain s' (view.opened file) ∧ view.content s' (view.opened file) = some .empty
  /-- Writing to an opened file does not move what paths lead to, -/
  fill_leads : ∀ {file text s result s' path spot}, (disk.fill file text).run s = (result, s') →
    view.leads s path = some spot → view.leads s' path = some spot
  /-- and changes no other file. -/
  fill_other : ∀ {file text s result s'}, (disk.fill file text).run s = (result, s') →
    view.SameBut (view.opened file) s s'
  /-- An empty plain file holds the text in the end, -/
  fill_text : ∀ {file text s s'}, (disk.fill file text).run s = (.ok (), s') →
    view.Plain s (view.opened file) → view.content s (view.opened file) = some .empty →
    view.content s' (view.opened file) = some text.toUTF8
  /-- or, after a failure, a beginning of it. -/
  fill_part : ∀ {file text s e s'}, (disk.fill file text).run s = (.error e, s') →
    view.Plain s (view.opened file) → view.content s (view.opened file) = some .empty →
    ∃ part, IsPart text part ∧ view.content s' (view.opened file) = some part
  /-- Printing changes standard output only. -/
  print_other : ∀ {text s result s'}, (disk.print text).run s = (result, s') →
    view.SameBut view.stdout s s'
  /-- The text stands behind what has been printed before, -/
  print_text : ∀ {text s s' before}, (disk.print text).run s = (.ok (), s') →
    view.content s view.stdout = some before →
    view.content s' view.stdout = some (before ++ text.toUTF8)
  /-- or, after a failure, a beginning of it. -/
  print_part : ∀ {text s e s' before}, (disk.print text).run s = (.error e, s') →
    view.content s view.stdout = some before →
    ∃ part, IsPart text part ∧ view.content s' view.stdout = some (before ++ part)

namespace Disk.Lawful

variable {σ File Spot : Type} {disk : Disk File (StateM σ)} {view : View σ File Spot}
  (hdisk : disk.Lawful view) {s s₁ s₂ s₃ : σ} {path text : String} {file : File} {e : FileError}
  (hsame : view.Same s s₁)

include hdisk hsame

/-- A text that has been printed stands on standard output. -/
theorem printed_of_ok (h : (disk.print text).run s₁ = (.ok (), s₂)) :
    view.Printed (· = text.toUTF8) s s₂ := by
  refine ⟨hsame.trans_sameBut (hdisk.print_other h), fun before hbefore => ?_⟩
  rw [← hsame.content] at hbefore
  exact ⟨_, rfl, hdisk.print_text h hbefore⟩

/-- A beginning of a text stands there that could not be printed to its end. -/
theorem printed_of_error (h : (disk.print text).run s₁ = (.error e, s₂)) :
    view.Printed (IsPart text) s s₂ := by
  refine ⟨hsame.trans_sameBut (hdisk.print_other h), fun before hbefore => ?_⟩
  rw [← hsame.content] at hbefore
  exact hdisk.print_part h hbefore

variable (hcreate : (disk.create path).run s₁ = (.ok file, s₂))

include hcreate

/-- Opening a file and writing to it changes that file. -/
theorem filled_of_content {p : ByteArray → Prop} {result : Except FileError Unit}
    (h : (disk.fill file text).run s₂ = (result, s₃))
    (hcontent : view.Plain s₂ (view.opened file) →
      view.content s₂ (view.opened file) = some .empty →
      ∃ bytes, p bytes ∧ view.content s₃ (view.opened file) = some bytes) :
    view.Filled path p s s₃ := by
  refine ⟨view.opened file, hdisk.fill_leads h (hdisk.create_leads hcreate), ?_,
    (hsame.trans_sameBut (hdisk.create_other hcreate)).trans (hdisk.fill_other h), ?_⟩
  · intro old hold
    rw [← hsame.leads] at hold
    exact hdisk.create_old hcreate hold
  · intro hplain
    obtain ⟨hopened, hempty⟩ := hdisk.create_plain hcreate (hsame.plainAt hplain)
    exact hcontent hopened hempty

/-- A text that has been written is all that the file holds. -/
theorem filled_of_ok (h : (disk.fill file text).run s₂ = (.ok (), s₃)) :
    view.Filled path (· = text.toUTF8) s s₃ :=
  hdisk.filled_of_content hsame hcreate h fun hplain hempty =>
    ⟨_, rfl, hdisk.fill_text h hplain hempty⟩

/-- A beginning of a text is all that the file holds if the text could not be written to its end. -/
theorem filled_of_error (h : (disk.fill file text).run s₂ = (.error e, s₃)) :
    view.Filled path (IsPart text) s s₃ :=
  hdisk.filled_of_content hsame hcreate h fun hplain hempty => hdisk.fill_part h hplain hempty

end Disk.Lawful

end SelectorPreview
