import CloudBalance.Files.Error
import CloudBalance.Files.Path

/-!
# Disks

A tree of directories and files without links, as a list of places. A place is the list of names on
the way from the root; the root is always there. The operations are those of a file system: each
either does its whole work or refuses with a `FileError` and leaves the disk as it is.
-/

namespace CloudBalance

inductive Disk.Entry where
  | file (bytes : ByteArray)
  | directory
  deriving Inhabited

/-- The names from the root to an entry. -/
abbrev Disk.Place := List String

structure Disk where
  entries : List (Disk.Place × Disk.Entry)
  /-- Where paths start that are not absolute. -/
  workingPlace : Disk.Place

namespace Disk

/-! ## Places -/

/-- What is at a place. -/
def entry? (disk : Disk) (place : Place) : Option Entry :=
  if place.isEmpty then some .directory else disk.entries.lookup place

/-- The disk with `entry` at a place, or with nothing there. -/
def put (disk : Disk) (place : Place) (entry : Option Entry) : Disk :=
  let others := disk.entries.filter (·.1 != place)
  match entry with
  | some entry => { disk with entries := others ++ [(place, entry)] }
  | none => { disk with entries := others }

/-- Follows names from a place. Every place on the way must be a directory. -/
def follow (disk : Disk) (place : Place) : List String → Except FileError Place
  | [] => .ok place
  | name :: rest =>
    match disk.entry? place with
    | some .directory =>
      if name = "" || name = "." then disk.follow place rest
      else if name = ".." then disk.follow place.dropLast rest
      else disk.follow (place ++ [name]) rest
    | some (.file _) => .error .notADirectory
    | none => .error .notFound

/-- The place that a path leads to, where there need not be anything. -/
def locate (disk : Disk) (path : String) : Except FileError Place :=
  if path.isEmpty then .error .notFound
  else disk.follow (if Path.isAbsolute path then [] else disk.workingPlace) (Path.names path)

/-- What a path leads to. -/
def find? (disk : Disk) (path : String) : Option Entry :=
  match disk.locate path with
  | .ok place => disk.entry? place
  | .error _ => none

/-! ## Questions -/

def exists? (disk : Disk) (path : String) : Bool :=
  (disk.find? path).isSome

def isDirectory (disk : Disk) (path : String) : Bool :=
  match disk.find? path with
  | some .directory => true
  | _ => false

def read (disk : Disk) (path : String) : Except FileError ByteArray := do
  match disk.entry? (← disk.locate path) with
  | some (.file bytes) => .ok bytes
  | some .directory => .error .isADirectory
  | none => .error .notFound

/-- The names in a directory, of which there may be none. -/
def namesIn (disk : Disk) (path : String) : List String :=
  match disk.locate path with
  | .ok place =>
    disk.entries.filterMap fun (other, _) =>
      if other.dropLast = place then other.getLast? else none
  | .error _ => []

/-! ## Changes -/

/-- The place of a new entry, whose directory must be there. -/
def locateNew (disk : Disk) (path : String) : Except FileError Place := do
  let place ← disk.locate path
  match disk.entry? place.dropLast with
  | some .directory => .ok place
  | some (.file _) => .error .notADirectory
  | none => .error .notFound

def write (disk : Disk) (path : String) (bytes : ByteArray) : Except FileError Disk := do
  let place ← disk.locateNew path
  match disk.entry? place with
  | some .directory => .error .isADirectory
  | _ => .ok (disk.put place (some (.file bytes)))

def remove (disk : Disk) (path : String) : Except FileError Disk := do
  let place ← disk.locate path
  match disk.entry? place with
  | some (.file _) => .ok (disk.put place none)
  | some .directory => .error .isADirectory
  | none => .error .notFound

/-- Whether something lies within the place. -/
def isOccupied (disk : Disk) (place : Place) : Bool :=
  disk.entries.any fun (other, _) => place.isPrefixOf other && other != place

/-- Moves all that lies at or within one place to another. -/
def move (disk : Disk) (old new : Place) : Disk :=
  { disk with
    entries := (disk.entries.filter (·.1 != new)).map fun (place, entry) =>
      if old.isPrefixOf place then (new ++ place.drop old.length, entry) else (place, entry) }

/-- Moves what lies at one place to another place, where there is something. A file takes the place of
a file and a directory that of an empty directory. -/
def replace (disk : Disk) (source target : Place) : Except FileError Disk :=
  match disk.entry? source, disk.entry? target with
  | some (.file _), some .directory => .error .isADirectory
  | some .directory, some (.file _) => .error .notADirectory
  | some .directory, some .directory =>
    if disk.isOccupied target then .error .directoryNotEmpty else .ok (disk.move source target)
  | _, _ => .ok (disk.move source target)

def rename (disk : Disk) (old new : String) : Except FileError Disk := do
  let source ← disk.locate old
  let target ← disk.locateNew new
  match disk.entry? source, disk.entry? target with
  | none, _ => .error .notFound
  | some _, some _ =>
    if source = target then .ok disk else disk.replace source target
  | some _, none => .ok (disk.move source target)

/-- Makes directories on the way along `names`. -/
def makePlaces (disk : Disk) (place : Place) : List String → Except FileError Disk
  | [] => .ok disk
  | name :: rest =>
    if name = "" || name = "." then disk.makePlaces place rest
    else if name = ".." then disk.makePlaces place.dropLast rest
    else
      let next := place ++ [name]
      match disk.entry? next with
      | some .directory => disk.makePlaces next rest
      | some (.file _) => .error (if rest.isEmpty then .alreadyExists else .notADirectory)
      | none => (disk.put next (some .directory)).makePlaces next rest

/-- Makes a directory and those that it lies in. -/
def makeDirectories (disk : Disk) (path : String) : Except FileError Disk :=
  disk.makePlaces (if Path.isAbsolute path then [] else disk.workingPlace) (Path.names path)

end Disk

end CloudBalance
