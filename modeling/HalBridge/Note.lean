import HalBridge.Fault
import HalBridge.Text.Blank
import HalBridge.Text.Lines

/-!
Conversion notes: what a person has to look at after a run. A sink keeps each note once, in the
order of first offer.
-/

namespace HalBridge

inductive NoteKind where
  | collision
  | unknownType
  | unsupported
  | unhandledComments
deriving DecidableEq

namespace NoteKind

def toText : NoteKind → String
  | .collision => "collision"
  | .unknownType => "unknown_type"
  | .unsupported => "unsupported"
  | .unhandledComments => "unhandled_comments"

def all : List NoteKind :=
  [.collision, .unknownType, .unsupported, .unhandledComments]

def read (text : String) : Except Fault NoteKind :=
  match all.find? (·.toText = text) with
  | some kind => .ok kind
  | none => .error (.unknownNoteKind text)

end NoteKind

structure Note where
  kind : NoteKind
  message : String
deriving DecidableEq

/-- A sink of notes. -/
structure Notes where
  entries : List Note := []

namespace Notes

def add (notes : Notes) (note : Note) : Notes :=
  if note ∈ notes.entries then notes else ⟨notes.entries ++ [note]⟩

def extend (notes : Notes) (more : List Note) : Notes :=
  more.foldl add notes

def ofKind (notes : Notes) (kind : NoteKind) : List Note :=
  notes.entries.filter (·.kind = kind)

def size (notes : Notes) : Nat :=
  notes.entries.length

/-- The conversion log: a title line, the message of each note, and a closing line. -/
def log (notes : Notes) (title : String) : String :=
  let messages := notes.entries.map fun note => Text.dropEndWhile (· = '\n') note.message
  Text.joinLines (title :: messages ++ ["END OF LOG"]) ++ "\n"

end Notes

/-- An action that leaves notes; those left before a fault remain. -/
abbrev Noting := EStateM Fault Notes

def leaveNote (kind : NoteKind) (message : String) : Noting Unit :=
  modify (·.add { kind, message })

end HalBridge
