import SelectorPreview.Disk
/-!
# A tree of files

`FileSystem` is a tree of files, directories and devices with a working directory in it. Paths are
resolved as a POSIX system does: `.` stays, `..` goes up, a slash at the beginning starts at the
root, and a name that is not the last one has to be a directory. `diskUnder` is a disk on such a
tree that refuses what it is told to.
-/

namespace SelectorPreview

/-- What a name in a tree stands for. -/
inductive Node where
  | file (bytes : ByteArray)
  | directory
  /-- A device that takes in everything and keeps nothing. -/
  | sink
  /-- A stream that keeps what is written to it, behind what it has taken in before. -/
  | stream (bytes : ByteArray)

/-- The entries of a tree, each with its place. -/
structure FileSystem where
  entries : List (List String × Node) := []

namespace FileSystem

/-! ## Places

A place is the list of names that lead to it from the working directory, which is the empty place.
Where the names start at the root, the first of them is a slash; no other name holds one.
-/

/-- The longest name that a directory takes, in bytes. -/
def nameLimit : Nat := 255

/-- The length from which a path is too long, in bytes. -/
def pathLimit : Nat := 4096

/-- The root of the tree. -/
def root : List String := ["/"]

/-- The name of the working directory, which stands in the root. -/
def workingDirectory : String := "work"

/-- Standard output. -/
def standardOutput : List String := ["/", "dev", "stdout"]

/-- The devices that every tree has, with their directory. -/
def devices : List (List String × Node) :=
  [(["/", "dev"], .directory), (["/", "dev", "null"], .sink), (standardOutput, .stream .empty)]

/-- What stands at a place of the tree. -/
def find? (fs : FileSystem) (place : List String) : Option Node :=
  if place == [] || place == root then some .directory
  else ((fs.entries ++ devices).find? (·.1 == place)).map (·.2)

/-- The tree with a node at a place, instead of what stands there. -/
def put (fs : FileSystem) (place : List String) (node : Node) : FileSystem :=
  ⟨(place, node) :: fs.entries⟩

/-- The place of a name in a directory. -/
def down (here : List String) (name : String) : List String :=
  if here == root && name == workingDirectory then [] else here ++ [name]

/-- The directory around a directory; the root is its own. -/
def up (here : List String) : List String :=
  if here == [] || here == root then root else here.dropLast

/-- One step to a directory. -/
def descend (fs : FileSystem) (here : List String) (name : String) :
    Except FileError (List String) :=
  if name == "." then .ok here
  else if name == ".." then .ok (up here)
  else if name.utf8ByteSize > nameLimit then .error .nameTooLong
  else
    match fs.find? (down here name) with
    | some .directory => .ok (down here name)
    | some _ => .error .notDirectory
    | none => .error .notFound

/-- A path with its last name set apart. -/
structure Path where
  absolute : Bool
  directories : List String
  last : String
  /-- Whether a slash follows the last name. -/
  closed : Bool

/-- Takes a path apart. -/
def Path.ofString (path : String) : Except FileError Path :=
  if path.toList.contains '\x00' then .error .nameHoldsNul
  else if path.utf8ByteSize ≥ pathLimit then .error .nameTooLong
  else if path.isEmpty then .error .notFound
  else
    let names := ((path.toList.splitOnP (· == '/')).filter (! ·.isEmpty)).map String.ofList
    .ok {
      absolute := path.toList.head? == some '/'
      directories := names.dropLast
      last := names.getLast?.getD "."
      closed := path.toList.getLast? == some '/' }

/-- The directory that holds the last name of a path. -/
def parent (fs : FileSystem) (path : Path) : Except FileError (List String) :=
  path.directories.foldlM fs.descend (if path.absolute then root else [])

/-- The place of the last name of a path, whether or not anything stands there. -/
def lastPlace (fs : FileSystem) (here : List String) (name : String) :
    Except FileError (List String) :=
  if name == "." || name == ".." then fs.descend here name
  else if name.utf8ByteSize > nameLimit then .error .nameTooLong
  else .ok (down here name)

/-! ## Reading and writing -/

/-- The bytes of the file at a path. -/
def readBytes (fs : FileSystem) (path : String) : Except FileError ByteArray := do
  let path ← Path.ofString path
  let here ← fs.parent path
  let place ← fs.lastPlace here path.last
  match fs.find? place with
  | none => throw .notFound
  | some .directory => throw .isDirectory
  | some (.file bytes) => if path.closed then throw .notDirectory else pure bytes
  | some .sink => if path.closed then throw .notDirectory else pure .empty
  | some (.stream _) => throw (.other "Permission denied (os error 13)")

/-- The text of the file at a path. -/
def read (fs : FileSystem) (path : String) : Except FileError String := do
  let bytes ← fs.readBytes path
  match String.fromUTF8? bytes with
  | some text => pure text
  | none => throw .notText

/-- The place of the file that is opened for writing at a path. -/
def target (fs : FileSystem) (path : String) : Except FileError (List String) := do
  let path ← Path.ofString path
  let here ← fs.parent path
  if path.closed then throw .isDirectory
  let place ← fs.lastPlace here path.last
  match fs.find? place with
  | some .directory => throw .isDirectory
  | _ => pure place

/-- The tree after the file at a place has been opened for writing: a device stays as it is, and
else there is an empty file. -/
def emptied (fs : FileSystem) (place : List String) : FileSystem :=
  match fs.find? place with
  | some .sink => fs
  | some (.stream _) => fs
  | _ => fs.put place (.file .empty)

/-- The tree after bytes have been written behind those at a place. -/
def extended (fs : FileSystem) (place : List String) (bytes : ByteArray) : FileSystem :=
  match fs.find? place with
  | some (.file before) => fs.put place (.file (before ++ bytes))
  | some (.stream before) => fs.put place (.stream (before ++ bytes))
  | _ => fs

/-! ## Disks -/

/-- What a system refuses of its own accord, and the causes that it gives. -/
structure Refusals where
  read : FileSystem → String → Option FileError := fun _ _ => none
  create : FileSystem → String → Option FileError := fun _ _ => none
  /-- Writing to a place breaks off, after some bytes have been written. -/
  fill : FileSystem → List String → String → Option (FileError × Nat) := fun _ _ _ => none

/-- Writes a text behind what stands at a place, as far as this is not refused. -/
def fillUnder (refusals : Refusals) (place : List String) (text : String) :
    StateM FileSystem (Except FileError Unit) := do
  let fs ← get
  match refusals.fill fs place text with
  | some (e, count) => do
    set (fs.extended place (text.toUTF8.extract 0 count))
    pure (.error e)
  | none => do
    set (fs.extended place text.toUTF8)
    pure (.ok ())

/-- The disk of a tree under refusals. An opened file is known by its place. -/
def diskUnder (refusals : Refusals) : Disk (List String) (StateM FileSystem) where
  read path := do
    let fs ← get
    pure ((refusals.read fs path).elim (fs.read path) .error)
  create path := do
    let fs ← get
    match (refusals.create fs path).elim (fs.target path) .error with
    | .ok place => do
      set (fs.emptied place)
      pure (.ok place)
    | .error e => pure (.error e)
  fill := fillUnder refusals
  print := fillUnder refusals standardOutput

/-- The disk of a tree that refuses nothing. -/
def disk : Disk (List String) (StateM FileSystem) := diskUnder {}

end FileSystem

end SelectorPreview
