import Colloquy.Storage.Path

/-!
# Disks

The files and directories that the program reads and writes, as a value. Paths
are resolved component by component from the working directory; each operation
fails with the fault that the first offending component causes. Every write is
later than all before it.
-/

namespace Colloquy.Storage

inductive Fault where
  /-- Something on the path does not exist. -/
  | notFound
  /-- Something on the path is no directory. -/
  | notADirectory
  | isADirectory
  | invalidData
  /-- The path leads to something that exists. -/
  | alreadyExists
  | nameTooLong
  deriving DecidableEq, Repr

def Fault.message : Fault → String
  | .notFound => "No such file or directory (os error 2)"
  | .notADirectory => "Not a directory (os error 20)"
  | .isADirectory => "Is a directory (os error 21)"
  | .invalidData => "stream did not contain valid UTF-8"
  | .alreadyExists => "File exists (os error 17)"
  | .nameTooLong => "File name too long (os error 36)"

inductive Content where
  | text (value : String)
  | undecodable
  deriving DecidableEq

inductive Item where
  /-- A file and the time of its last change, in milliseconds. -/
  | file (content : Content) (modified : Int)
  | directory
  deriving DecidableEq

structure Disk where
  /-- What there is below the working directory, by resolved path. -/
  items : List (List String × Item) := []
  now : Int := 0
  deriving DecidableEq, Inhabited

namespace Disk

/-- The longest component, in bytes. -/
def longestName : Nat := 255

/-- What a resolved path leads to. The working directory is always there. -/
def item? (disk : Disk) (place : List String) : Option Item :=
  if place = [] then some .directory else disk.items.lookup place

/-- Refuses a place that is no directory. -/
def enter (disk : Disk) (place : List String) : Except Fault Unit :=
  match disk.item? place with
  | some .directory => .ok ()
  | some (.file ..) => .error .notADirectory
  | none => .error .notFound

/-- Walks along components. The last one need not exist. -/
def walk (disk : Disk) (place : List String) : List String → Except Fault (List String)
  | [] => .ok place
  | component :: rest => do
    disk.enter place
    if component.isEmpty || component = "." then walk disk place rest
    else if component = ".." then walk disk place.dropLast rest
    else if longestName < component.utf8ByteSize then .error .nameTooLong
    else walk disk (place ++ [component]) rest

/-- The resolved form of a path. The empty path leads nowhere. -/
def resolve (disk : Disk) (path : String) : Except Fault (List String) :=
  if path.isEmpty then .error .notFound else disk.walk [] (components path)

def find (disk : Disk) (path : String) : Except Fault Item := do
  match disk.item? (← disk.resolve path) with
  | some item => return item
  | none => .error .notFound

def exists? (disk : Disk) (path : String) : Bool :=
  (disk.find path).isOk

def isDirectory (disk : Disk) (path : String) : Bool :=
  match disk.find path with
  | .ok .directory => true
  | _ => false

def readText (disk : Disk) (path : String) : Except Fault String := do
  match ← disk.find path with
  | .file (.text value) _ => return value
  | .file .undecodable _ => .error .invalidData
  | .directory => .error .isADirectory

/-- The name of a path directly below a place. -/
def childName? (place path : List String) : Option String :=
  match path.getLast? with
  | some name => if path.dropLast = place then some name else none
  | none => none

def list (disk : Disk) (path : String) : Except Fault (List (String × Item)) := do
  let place ← disk.resolve path
  disk.enter place
  return disk.items.filterMap fun entry =>
    (childName? place entry.1).map fun name => (name, entry.2)

def put (disk : Disk) (place : List String) (item : Item) : Disk :=
  { disk with
    items := disk.items.filter (fun entry => entry.1 ≠ place) ++ [(place, item)] }

/-- The place of a path, if nothing on the path were a file. -/
def placeOf (path : String) : List String :=
  (components path).foldl (fun place component =>
    if component.isEmpty || component = "." then place
    else if component = ".." then place.dropLast
    else place ++ [component]) []

/-- Puts an item at a path, and directories at the places above it that lead nowhere. -/
def provide (disk : Disk) (path : String) (item : Item) : Disk :=
  let place := placeOf path
  let above := (List.range place.length).map place.take
  let prepared := above.foldl (fun disk above =>
    if (disk.item? above).isSome then disk else disk.put above .directory) disk
  prepared.put place item

def writeText (disk : Disk) (path text : String) : Except Fault Disk := do
  let place ← disk.resolve path
  match disk.item? place with
  | some .directory => .error .isADirectory
  | _ =>
    let later := { disk with now := disk.now + 1 }
    return later.put place (.file (.text text) later.now)

/-- Makes a directory at a path that leads nowhere as yet. -/
def makeDirectory (disk : Disk) (path : String) : Except Fault Disk := do
  let place ← disk.resolve path
  match disk.item? place with
  | some _ => .error .alreadyExists
  | none => return disk.put place .directory

/-- The items of a disk that another one has not, by path. -/
def since (before after : Disk) : List (List String × Item) :=
  after.items.filter fun entry => !before.items.contains entry

def ofComponents : List String → String
  | [] => ""
  | "/" :: rest => "/" ++ String.intercalate "/" rest
  | parts => String.intercalate "/" parts

/-- What an attempt to make a directory comes to: a failed one counts as done if
there is a directory anyway. -/
def settle (disk : Disk) (path : String) : Except Fault Disk → Except Fault Unit × Disk
  | .ok made => (.ok (), made)
  | .error fault => (if disk.isDirectory path then .ok () else .error fault, disk)

/-- Makes a directory, and those above it as far as they are missing. Components
are given from the last to the first. What was made before a failure stays. -/
def makeTree (disk : Disk) : List String → Except Fault Unit × Disk
  | [] => (.ok (), disk)
  | last :: above =>
    let path := ofComponents (last :: above).reverse
    match disk.makeDirectory path with
    | .error .notFound =>
      match makeTree disk above with
      | (.ok _, prepared) => prepared.settle path (prepared.makeDirectory path)
      | failed => failed
    | outcome => disk.settle path outcome

def ensureDirectory (disk : Disk) (path : String) : Except Fault Unit × Disk :=
  disk.makeTree
    ((components path).filter fun component => !component.isEmpty &&
      component ≠ ".").reverse

end Disk

end Colloquy.Storage
