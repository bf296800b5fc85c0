import HalBridge.Disk.Path

/-!
A tree of directories and files, and what following, reading, writing and removing paths does in
it. Every step of a path but the last has to lead to a directory, a step back included.
-/

namespace HalBridge

/-- Why a path cannot be followed, or what stands at its end. -/
inductive PathError where
  | notFound
  | notADirectory
  | isADirectory
  | alreadyExists
  | nameTooLong
  | nullCharacter
deriving DecidableEq

def PathError.message : PathError → String
  | .notFound => "No such file or directory"
  | .notADirectory => "Not a directory"
  | .isADirectory => "Is a directory"
  | .alreadyExists => "File exists"
  | .nameTooLong => "File name too long"
  | .nullCharacter => "embedded null byte"

/-- The number under which systems report an error; a null character is refused before that. -/
def PathError.number? : PathError → Option Nat
  | .notFound => some 2
  | .alreadyExists => some 17
  | .notADirectory => some 20
  | .isADirectory => some 21
  | .nameTooLong => some 36
  | .nullCharacter => none

/-- A place in the tree: the names on the way to it from the root. -/
abbrev Place := List String

inductive Node where
  | directory
  | file (text : String)
deriving DecidableEq

/-- The places where something stands, the root apart, and the one that relative paths start at. -/
structure Disk where
  nodes : List (Place × Node) := []
  working : Place := []

namespace Disk

/-- The number of bytes that a single name may have. -/
def nameLimit : Nat := 255

/-- The number of bytes that a whole path may have. -/
def pathLimit : Nat := 4095

def node? (disk : Disk) (place : Place) : Option Node :=
  if place.isEmpty then some .directory else disk.nodes.lookup place

def size (disk : Disk) : Nat :=
  disk.nodes.length

/-- Sets what stands at a place. -/
def put (disk : Disk) (place : Place) (node : Node) : Disk :=
  { disk with nodes := (disk.nodes.filter (·.1 ≠ place)) ++ [(place, node)] }

/-- The directory that one step leads to. -/
def enter (disk : Disk) (place : Place) (name : String) : Except PathError Place :=
  if name = ".." then .ok place.dropLast
  else if name.utf8ByteSize > nameLimit then .error .nameTooLong
  else
    match disk.node? (place ++ [name]) with
    | some .directory => .ok (place ++ [name])
    | some (.file _) => .error .notADirectory
    | none => .error .notFound

def checkText (path : Path) : Except PathError Unit :=
  if path.toText.toList.contains (Char.ofNat 0) then .error .nullCharacter
  else if path.toText.utf8ByteSize > pathLimit then .error .nameTooLong
  else .ok ()

/-- The place at the end of a path, where something may stand or not. -/
def place (disk : Disk) (path : Path) : Except PathError Place := do
  checkText path
  let start := if path.isAbsolute then [] else disk.working
  let directory ← path.parts.dropLast.foldlM disk.enter start
  match path.parts.getLast? with
  | none => return directory
  | some name =>
      if name = ".." then return directory.dropLast
      else if name.utf8ByteSize > nameLimit then throw .nameTooLong
      else return directory ++ [name]

/-- What stands at the end of a path. -/
def find (disk : Disk) (path : Path) : Except PathError (Option Node) :=
  (disk.place path).map disk.node?

def isDirectory (disk : Disk) (path : Path) : Bool :=
  match disk.find path with
  | .ok (some .directory) => true
  | _ => false

def read (disk : Disk) (path : Path) : Except PathError String := do
  match ← disk.find path with
  | some (.file text) => return text
  | some .directory => throw .isADirectory
  | none => throw .notFound

def write (disk : Disk) (path : Path) (text : String) : Except PathError Disk := do
  let place ← disk.place path
  match disk.node? place with
  | some .directory => throw .isADirectory
  | _ => return disk.put place (.file text)

def remove (disk : Disk) (path : Path) : Except PathError Disk := do
  let place ← disk.place path
  match disk.node? place with
  | some .directory => throw .isADirectory
  | none => throw .notFound
  | some (.file _) => return { disk with nodes := disk.nodes.filter (·.1 ≠ place) }

def makeDirectory (disk : Disk) (path : Path) : Except PathError Disk := do
  let place ← disk.place path
  match disk.node? place with
  | some _ => throw .alreadyExists
  | none => return disk.put place .directory

/-- A directory that cannot be made may be there already. -/
def orPresent (disk : Disk) (path : Path) : Except PathError Disk → Except PathError Disk
  | .ok disk => .ok disk
  | .error error => if disk.isDirectory path then .ok disk else .error error

/-- Makes a directory, and before it those on the way that are missing. -/
def makeDirectoriesAt (anchor : String) (disk : Disk) : List String → Except PathError Disk
  | [] => .ok disk
  | name :: above =>
      let path : Path := { anchor, parts := (name :: above).reverse }
      match disk.makeDirectory path with
      | .error .notFound => do
          let disk ← makeDirectoriesAt anchor disk above
          disk.orPresent path (disk.makeDirectory path)
      | outcome => disk.orPresent path outcome

def makeDirectories (disk : Disk) (path : Path) : Except PathError Disk :=
  makeDirectoriesAt path.anchor disk path.parts.reverse

/-- Writes files one after the other, making the directories that they need. -/
def writeAll (disk : Disk) : List (Path × String) → Except PathError Disk
  | [] => .ok disk
  | (path, text) :: rest => do
      let disk ← disk.makeDirectories path.parent
      let disk ← disk.write path text
      disk.writeAll rest

/-- The files below a directory, by their paths from it. -/
def filesBelow (disk : Disk) (directory : Place) : List (String × String) :=
  disk.nodes.filterMap fun (place, node) =>
    match node with
    | .file text =>
        if directory.isPrefixOf place then
          some (String.intercalate "/" (place.drop directory.length), text)
        else none
    | .directory => none

end Disk

end HalBridge
