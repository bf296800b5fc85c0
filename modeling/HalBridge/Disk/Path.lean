import HalBridge.Text.Lines

/-!
Paths: the names of the directories to pass and of what is meant in the last one.
-/

namespace HalBridge

/-- The slashes at the start of a path, and its parts without those that change nothing. -/
structure Path where
  anchor : String := ""
  parts : List String := []
deriving DecidableEq

namespace Path

/-- Two slashes at the start of a path are kept, any other number of them means one. -/
def anchorOf (text : String) : String :=
  match (text.toList.takeWhile (· = '/')).length with
  | 0 => ""
  | 2 => "//"
  | _ => "/"

/-- Empty parts and single dots change nothing. -/
def keptParts (parts : List String) : List String :=
  parts.filter fun part => part ≠ "" && part ≠ "."

def ofText (text : String) : Path :=
  { anchor := anchorOf text, parts := keptParts (Text.split '/' text) }

def toText (path : Path) : String :=
  if path.anchor.isEmpty && path.parts.isEmpty then "."
  else path.anchor ++ String.intercalate "/" path.parts

def isAbsolute (path : Path) : Bool :=
  !path.anchor.isEmpty

/-- A path that starts where another one ends, unless it is absolute. -/
def join (path other : Path) : Path :=
  if other.isAbsolute then other else { path with parts := path.parts ++ other.parts }

def child (path : Path) (name : String) : Path :=
  { path with parts := path.parts ++ [name] }

def parent (path : Path) : Path :=
  { path with parts := path.parts.dropLast }

end Path

end HalBridge
