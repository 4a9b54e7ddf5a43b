import Mathlib.Data.List.Basic
import SelectorPreview.FileSystem
import SelectorPreview.Proofs.DiskLaws
import SelectorPreview.Proofs.Results
/-!
# The tree of files as a lawful disk

Opening and writing change a tree at one place, at which no directory stands. So every path leads
where it led before, and the disk of a tree is a lawful one, whatever it refuses.

* `find?_put_self`, `find?_put_of_ne` : what stands at the places of a tree with a new node;
* `placeOf_of_keepsDirectories` : where paths lead in a tree that keeps its directories;
* `lawful_diskUnder` : the disk of a tree is lawful.
-/

namespace SelectorPreview.FileSystem

variable {fs after : FileSystem} {place other : List String} {node : Node} {path text : String}
  {bytes : ByteArray}

/-! ## One place of a tree -/

/-- What stands at a place apart from the working directory and the root. -/
theorem find?_of_ne (fs : FileSystem) (hplace : place ≠ []) (hroot : place ≠ root) :
    fs.find? place = ((fs.entries ++ devices).find? (·.1 == place)).map (·.2) := by
  unfold find?
  rw [if_neg]
  simp [hplace, hroot]

/-- Where no directory stands is neither the working directory nor the root. -/
theorem ne_of_find?_ne (h : fs.find? place ≠ some .directory) : place ≠ [] ∧ place ≠ root := by
  constructor
  · rintro rfl
    exact h rfl
  · rintro rfl
    exact h rfl

/-- The new node stands at its place. -/
theorem find?_put_self (node : Node) (h : fs.find? place ≠ some .directory) :
    (fs.put place node).find? place = some node := by
  obtain ⟨hplace, hroot⟩ := ne_of_find?_ne h
  rw [find?_of_ne _ hplace hroot, put, List.cons_append, List.find?_cons_of_pos (by simp)]
  rfl

/-- At every other place there is what was there before. -/
theorem find?_put_of_ne (fs : FileSystem) (node : Node) (h : other ≠ place) :
    (fs.put place node).find? other = fs.find? other := by
  unfold find? put
  rw [List.cons_append, List.find?_cons_of_neg]
  simpa using h.symm

/-! ## Where paths lead -/

/-- A tree keeps the directories of another one. -/
def KeepsDirectories (fs after : FileSystem) : Prop :=
  ∀ place, fs.find? place = some .directory → after.find? place = some .directory

/-- A new node where no directory stands keeps the directories. -/
theorem keepsDirectories_put (node : Node) (h : fs.find? place ≠ some .directory) :
    KeepsDirectories fs (fs.put place node) := by
  intro other hother
  have hne : other ≠ place := by
    rintro rfl
    exact h hother
  rw [find?_put_of_ne fs node hne, hother]

/-- The place that a path leads to, whether or not anything stands there. -/
def placeOf (fs : FileSystem) (path : String) : Except FileError (List String) := do
  let path ← Path.ofString path
  let here ← fs.parent path
  fs.lastPlace here path.last

/-- A path has a place if it can be taken apart, its directory is there, and its last name can stand
in it. -/
theorem placeOf_eq_ok_iff :
    fs.placeOf path = .ok place ↔ ∃ parsed here, Path.ofString path = .ok parsed ∧
      fs.parent parsed = .ok here ∧ fs.lastPlace here parsed.last = .ok place := by
  unfold placeOf
  simp only [next_eq_ok_iff, exists_and_left]

section Keeping

variable (hkeeps : KeepsDirectories fs after) {here next : List String} {name : String}

include hkeeps

/-- One step down leads where it led. -/
theorem descend_of_keepsDirectories (h : fs.descend here name = .ok next) :
    after.descend here name = .ok next := by
  -- Only the last branch looks at the tree, and it goes on in a directory only.
  unfold descend at h ⊢
  split
  · rename_i hdot
    rwa [if_pos hdot] at h
  · rename_i hdot
    rw [if_neg hdot] at h
    split
    · rename_i hup
      rwa [if_pos hup] at h
    · rename_i hup
      rw [if_neg hup] at h
      split
      · rename_i hlong
        rwa [if_pos hlong] at h
      · rename_i hlong
        rw [if_neg hlong] at h
        split at h
        · rename_i hdirectory
          rwa [hkeeps _ hdirectory]
        · cases h
        · cases h

/-- Steps down after one another lead where they led. -/
theorem foldlM_descend_of_keepsDirectories {names : List String}
    (h : names.foldlM fs.descend here = .ok next) :
    names.foldlM after.descend here = .ok next := by
  induction names generalizing here with
  | nil => exact h
  | cons name rest ih =>
    rw [List.foldlM_cons, next_eq_ok_iff] at h ⊢
    obtain ⟨between, hstep, hrest⟩ := h
    exact ⟨between, descend_of_keepsDirectories hkeeps hstep, ih hrest⟩

/-- The last name of a path has the place that it had. -/
theorem lastPlace_of_keepsDirectories (h : fs.lastPlace here name = .ok next) :
    after.lastPlace here name = .ok next := by
  unfold lastPlace at h ⊢
  split
  · rename_i hdots
    rw [if_pos hdots] at h
    exact descend_of_keepsDirectories hkeeps h
  · rename_i hdots
    rwa [if_neg hdots] at h

/-- **Paths lead where they led.** -/
theorem placeOf_of_keepsDirectories (h : fs.placeOf path = .ok place) :
    after.placeOf path = .ok place := by
  obtain ⟨parsed, here, hparsed, hparent, hlast⟩ := placeOf_eq_ok_iff.1 h
  have hafter : after.parent parsed = .ok here :=
    foldlM_descend_of_keepsDirectories hkeeps hparent
  exact placeOf_eq_ok_iff.2
    ⟨parsed, here, hparsed, hafter, lastPlace_of_keepsDirectories hkeeps hlast⟩

end Keeping

/-! ## Reading and writing -/

/-- The place that is opened is the one that the path leads to, and no directory. -/
theorem placeOf_of_target (h : fs.target path = .ok place) :
    fs.placeOf path = .ok place ∧ fs.find? place ≠ some .directory := by
  -- The checks are passed one after another.
  unfold target at h
  simp only [next_eq_ok_iff] at h
  obtain ⟨parsed, hparsed, here, hparent, hopen⟩ := h
  split at hopen
  · cases hopen
  · rw [next_eq_ok_iff] at hopen
    obtain ⟨there, hlast, hfree⟩ := hopen
    split at hfree
    · cases hfree
    · rename_i hnode
      cases hfree
      exact ⟨placeOf_eq_ok_iff.2 ⟨parsed, here, hparsed, hparent, hlast⟩, hnode⟩

/-- The bytes of the file that a path leads to are all that can be read of it. -/
theorem readBytes_of_placeOf {result : ByteArray} (hplace : fs.placeOf path = .ok place)
    (hfile : fs.find? place = some (.file bytes)) (h : fs.readBytes path = .ok result) :
    result = bytes := by
  obtain ⟨parsed, here, hparsed, hparent, hlast⟩ := placeOf_eq_ok_iff.1 hplace
  unfold readBytes at h
  simp only [hparsed, hparent, hlast, hfile, bind, Except.bind] at h
  split at h
  · cases h
  · cases h
    rfl

/-- The bytes of a text stand for it. -/
theorem toUTF8_of_fromUTF8? (h : String.fromUTF8? bytes = some text) : text.toUTF8 = bytes := by
  unfold String.fromUTF8? at h
  split at h
  · cases h
    rfl
  · cases h

/-- The text that is read of a file stands for its bytes. -/
theorem toUTF8_of_read (hplace : fs.placeOf path = .ok place)
    (hfile : fs.find? place = some (.file bytes)) (h : fs.read path = .ok text) :
    text.toUTF8 = bytes := by
  unfold read at h
  rw [next_eq_ok_iff] at h
  obtain ⟨result, hbytes, hresult⟩ := h
  obtain rfl : result = bytes := readBytes_of_placeOf hplace hfile hbytes
  split at hresult
  · rename_i htext
    cases hresult
    exact toUTF8_of_fromUTF8? htext
  · cases hresult

/-- Opening keeps the directories, and something stands at the place then. -/
theorem keepsDirectories_emptied (h : fs.find? place ≠ some .directory) :
    KeepsDirectories fs (fs.emptied place) ∧ ((fs.emptied place).find? place).isSome = true := by
  unfold emptied
  split
  · rename_i hnode
    exact ⟨fun _ h => h, by rw [hnode]; rfl⟩
  · rename_i hnode
    exact ⟨fun _ h => h, by rw [hnode]; rfl⟩
  · exact ⟨keepsDirectories_put _ h, by rw [find?_put_self _ h]; rfl⟩

/-- Opening changes nothing at other places. -/
theorem find?_emptied_of_ne (fs : FileSystem) (h : other ≠ place) :
    (fs.emptied place).find? other = fs.find? other := by
  unfold emptied
  split
  · rfl
  · rfl
  · exact find?_put_of_ne fs _ h

/-- Where nothing or a file stands, there is an empty file after opening. -/
theorem find?_emptied_self
    (h : fs.find? place = none ∨ ∃ bytes, fs.find? place = some (.file bytes)) :
    (fs.emptied place).find? place = some (.file .empty) := by
  have hput : fs.emptied place = fs.put place (.file .empty) := by
    unfold emptied
    rcases h with h | ⟨bytes, h⟩ <;> rw [h]
  have hnode : fs.find? place ≠ some .directory := by
    rcases h with h | ⟨bytes, h⟩ <;> simp [h]
  rw [hput, find?_put_self _ hnode]

/-- Writing changes nothing at other places. -/
theorem find?_extended_of_ne (fs : FileSystem) (bytes : ByteArray) (h : other ≠ place) :
    (fs.extended place bytes).find? other = fs.find? other := by
  unfold extended
  split
  · exact find?_put_of_ne fs _ h
  · exact find?_put_of_ne fs _ h
  · rfl

/-- Writing keeps the directories, and what stood at a place is not removed. -/
theorem keepsDirectories_extended (fs : FileSystem) (place : List String) (bytes : ByteArray) :
    KeepsDirectories fs (fs.extended place bytes) ∧
      ∀ other, (fs.find? other).isSome = true →
        ((fs.extended place bytes).find? other).isSome = true := by
  have hput : ∀ node, fs.find? place ≠ some .directory →
      KeepsDirectories fs (fs.put place node) ∧
        ∀ other, (fs.find? other).isSome = true →
          ((fs.put place node).find? other).isSome = true := by
    intro node hnode
    refine ⟨keepsDirectories_put node hnode, fun other hother => ?_⟩
    by_cases hplace : other = place
    · rw [hplace, find?_put_self node hnode]
      rfl
    · rwa [find?_put_of_ne fs node hplace]
  unfold extended
  split
  · rename_i hnode
    exact hput _ (by simp [hnode])
  · rename_i hnode
    exact hput _ (by simp [hnode])
  · exact ⟨fun _ h => h, fun _ h => h⟩

/-! ## The view of a tree -/

/-- The bytes that a node holds. Directories hold none, and a sink keeps none. -/
def bytes? : Node → Option ByteArray
  | .file bytes => some bytes
  | .stream bytes => some bytes
  | _ => none

/-- The place that a path leads to, if anything stands there. -/
def leads (fs : FileSystem) (path : String) : Option (List String) :=
  match fs.placeOf path with
  | .ok place => if (fs.find? place).isSome then some place else none
  | .error _ => none

/-- What can be seen of a tree. -/
def view : View FileSystem (List String) (List String) where
  content fs place := (fs.find? place).bind bytes?
  leads := leads
  Plain fs place := ∃ bytes, fs.find? place = some (.file bytes)
  opened place := place
  stdout := standardOutput

/-- A path leads to a place if it has it and something stands there. -/
theorem leads_eq_some_iff :
    fs.leads path = some place ↔ fs.placeOf path = .ok place ∧ (fs.find? place).isSome = true := by
  unfold leads
  cases hplace : fs.placeOf path with
  | error e => simp
  | ok there =>
    dsimp only
    split
    · rename_i hsome
      constructor
      · rintro ⟨⟩
        exact ⟨rfl, hsome⟩
      · rintro ⟨⟨⟩, -⟩
        rfl
    · rename_i hsome
      constructor
      · intro h
        cases h
      · rintro ⟨⟨⟩, h⟩
        exact absurd h hsome

/-- A written text stands behind what a place held before. -/
theorem content_extended {before : ByteArray} (h : view.content fs place = some before) :
    view.content (fs.extended place bytes) place = some (before ++ bytes) := by
  have hput : ∀ node, fs.find? place ≠ some .directory →
      view.content (fs.put place node) place = bytes? node := by
    intro node hnode
    show ((fs.put place node).find? place).bind bytes? = _
    rw [find?_put_self node hnode]
    rfl
  change (fs.find? place).bind bytes? = some before at h
  unfold extended
  split
  · rename_i hnode
    rw [hnode] at h
    cases h
    exact hput _ (by simp [hnode])
  · rename_i hnode
    rw [hnode] at h
    cases h
    exact hput _ (by simp [hnode])
  · -- Every node with content is one of the two above.
    rename_i hfile hstream
    exfalso
    cases hnode : fs.find? place with
    | none => rw [hnode] at h; cases h
    | some node =>
      rw [hnode] at h
      cases node with
      | file bytes => exact hfile _ hnode
      | stream bytes => exact hstream _ hnode
      | directory => cases h
      | sink => cases h

/-! ## The disk of a tree -/

section Under

variable {refusals : Refusals}

/-- Reading leaves the tree as it is. -/
theorem run_read_diskUnder (refusals : Refusals) (fs : FileSystem) (path : String) :
    ((diskUnder refusals).read path).run fs =
      ((refusals.read fs path).elim (fs.read path) .error, fs) := rfl

/-- Opening leaves the opened tree if it succeeds, and else the tree as it is. -/
theorem run_create_diskUnder (refusals : Refusals) (fs : FileSystem) (path : String) :
    ((diskUnder refusals).create path).run fs =
      match (refusals.create fs path).elim (fs.target path) .error with
      | .ok place => (.ok place, fs.emptied place)
      | .error e => (.error e, fs) := by
  show (match (refusals.create fs path).elim (fs.target path) .error with
    | .ok place => (do set (fs.emptied place); pure (.ok place) :
        StateM FileSystem (Except FileError (List String)))
    | .error e => pure (.error e)).run fs = _
  cases (refusals.create fs path).elim (fs.target path) .error <;> rfl

/-- Writing leaves the tree with the text, or with a beginning of it. -/
theorem run_fillUnder (refusals : Refusals) (fs : FileSystem) (place : List String)
    (text : String) :
    (fillUnder refusals place text).run fs =
      match refusals.fill fs place text with
      | some (e, count) => (.error e, fs.extended place (text.toUTF8.extract 0 count))
      | none => (.ok (), fs.extended place text.toUTF8) := by
  show (match refusals.fill fs place text with
    | some (e, count) =>
      (do set (fs.extended place (text.toUTF8.extract 0 count)); pure (.error e) :
        StateM FileSystem (Except FileError Unit))
    | none => do set (fs.extended place text.toUTF8); pure (.ok ())).run fs = _
  cases refusals.fill fs place text <;> rfl

/-- What is opened is the target of the path. -/
theorem target_of_run_create (h : ((diskUnder refusals).create path).run fs = (.ok place, after)) :
    fs.target path = .ok place ∧ after = fs.emptied place := by
  rw [run_create_diskUnder] at h
  cases hrefusal : refusals.create fs path with
  | some e =>
    rw [hrefusal] at h
    cases h
  | none =>
    rw [hrefusal, Option.elim_none] at h
    cases htarget : fs.target path with
    | error e => rw [htarget] at h; cases h
    | ok there =>
      rw [htarget] at h
      cases h
      exact ⟨rfl, rfl⟩

/-- Whatever comes of writing, the tree is extended at the place. -/
theorem extended_of_run_fillUnder {result : Except FileError Unit}
    (h : (fillUnder refusals place text).run fs = (result, after)) :
    (result = .ok () ∧ after = fs.extended place text.toUTF8) ∨
      ∃ e count, result = .error e ∧ after = fs.extended place (text.toUTF8.extract 0 count) := by
  rw [run_fillUnder] at h
  split at h
  · cases h
    exact Or.inr ⟨_, _, rfl, rfl⟩
  · cases h
    exact Or.inl ⟨rfl, rfl⟩

/-- Writing changes one place. -/
theorem sameBut_of_run_fillUnder {result : Except FileError Unit}
    (h : (fillUnder refusals place text).run fs = (result, after)) :
    view.SameBut place fs after := by
  intro spot hspot
  show (after.find? spot).bind bytes? = (fs.find? spot).bind bytes?
  rcases extended_of_run_fillUnder h with ⟨-, rfl⟩ | ⟨e, count, -, rfl⟩ <;>
    rw [find?_extended_of_ne fs _ hspot]

/-- Written text stands behind what was there. -/
theorem content_of_run_fillUnder {before : ByteArray}
    (h : (fillUnder refusals place text).run fs = (.ok (), after))
    (hbefore : view.content fs place = some before) :
    view.content after place = some (before ++ text.toUTF8) := by
  rcases extended_of_run_fillUnder h with ⟨-, rfl⟩ | ⟨e, count, hresult, -⟩
  · exact content_extended hbefore
  · cases hresult

/-- A beginning of the text stands there if writing fails. -/
theorem part_of_run_fillUnder {e : FileError} {before : ByteArray}
    (h : (fillUnder refusals place text).run fs = (.error e, after))
    (hbefore : view.content fs place = some before) :
    ∃ part, IsPart text part ∧ view.content after place = some (before ++ part) := by
  rcases extended_of_run_fillUnder h with ⟨hresult, -⟩ | ⟨e, count, -, rfl⟩
  · cases hresult
  · exact ⟨_, ⟨count, rfl⟩, content_extended hbefore⟩

end Under

/-- **The disk of a tree is lawful**, whatever it refuses. -/
theorem lawful_diskUnder (refusals : Refusals) : (diskUnder refusals).Lawful view where
  read_same := by
    intro path fs result after h
    rw [run_read_diskUnder] at h
    cases h
    exact ⟨fun _ => rfl, fun _ => rfl, fun _ => Iff.rfl⟩
  read_text := by
    intro path fs text after place h hleads hplain
    obtain ⟨bytes, hfile⟩ := hplain
    rw [run_read_diskUnder] at h
    cases hrefusal : refusals.read fs path with
    | some e => rw [hrefusal] at h; cases h
    | none =>
      rw [hrefusal, Option.elim_none] at h
      have hread : fs.read path = .ok text := (Prod.mk.inj h).1
      have hbytes := toUTF8_of_read (leads_eq_some_iff.1 hleads).1 hfile hread
      show (fs.find? place).bind bytes? = _
      rw [hfile, hbytes]
      rfl
  create_same := by
    intro path fs e after h
    rw [run_create_diskUnder] at h
    split at h
    · cases h
    · cases h
      exact ⟨fun _ => rfl, fun _ => rfl, fun _ => Iff.rfl⟩
  create_leads := by
    intro path fs place after h
    obtain ⟨htarget, rfl⟩ := target_of_run_create h
    obtain ⟨hplace, hnode⟩ := placeOf_of_target htarget
    obtain ⟨hkeeps, hsome⟩ := keepsDirectories_emptied hnode
    exact leads_eq_some_iff.2 ⟨placeOf_of_keepsDirectories hkeeps hplace, hsome⟩
  create_old := by
    intro path fs place after spot h hleads
    obtain ⟨htarget, -⟩ := target_of_run_create h
    have hplace := (placeOf_of_target htarget).1
    have hspot := (leads_eq_some_iff.1 hleads).1
    exact Except.ok.inj (hspot.symm.trans hplace)
  create_other := by
    intro path fs place after h spot hspot
    obtain ⟨-, rfl⟩ := target_of_run_create h
    have hne : spot ≠ place := hspot
    show ((fs.emptied place).find? spot).bind bytes? = (fs.find? spot).bind bytes?
    rw [find?_emptied_of_ne fs hne]
  create_plain := by
    intro path fs place after h hplain
    obtain ⟨htarget, rfl⟩ := target_of_run_create h
    obtain ⟨hplace, hnode⟩ := placeOf_of_target htarget
    have hfile : fs.find? place = none ∨ ∃ bytes, fs.find? place = some (.file bytes) := by
      cases hfound : fs.find? place with
      | none => exact Or.inl rfl
      | some node =>
        have hleads : fs.leads path = some place :=
          leads_eq_some_iff.2 ⟨hplace, by rw [hfound]; rfl⟩
        obtain ⟨bytes, hbytes⟩ := hplain place hleads
        exact Or.inr ⟨bytes, hfound ▸ hbytes⟩
    have hempty := find?_emptied_self hfile
    refine ⟨⟨_, hempty⟩, ?_⟩
    show ((fs.emptied place).find? place).bind bytes? = _
    rw [hempty]
    rfl
  fill_leads := by
    intro place text fs result after path spot h hleads
    obtain ⟨hplace, hsome⟩ := leads_eq_some_iff.1 hleads
    have hextended : ∃ bytes, after = fs.extended place bytes := by
      rcases extended_of_run_fillUnder h with ⟨-, hafter⟩ | ⟨e, count, -, hafter⟩
      · exact ⟨_, hafter⟩
      · exact ⟨_, hafter⟩
    obtain ⟨bytes, rfl⟩ := hextended
    obtain ⟨hkeeps, hstays⟩ := keepsDirectories_extended fs place bytes
    exact leads_eq_some_iff.2 ⟨placeOf_of_keepsDirectories hkeeps hplace, hstays spot hsome⟩
  fill_other := sameBut_of_run_fillUnder
  fill_text := by
    intro place text fs after h _ hempty
    rw [← ByteArray.empty_append (b := text.toUTF8)]
    exact content_of_run_fillUnder h hempty
  fill_part := by
    intro place text fs e after h _ hempty
    obtain ⟨part, hpart, hcontent⟩ := part_of_run_fillUnder h hempty
    rw [ByteArray.empty_append] at hcontent
    exact ⟨part, hpart, hcontent⟩
  print_other := sameBut_of_run_fillUnder
  print_text := content_of_run_fillUnder
  print_part := part_of_run_fillUnder

end SelectorPreview.FileSystem
