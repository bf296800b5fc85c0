import HalBridge.Document.Decode
import HalBridge.Fault
import HalBridge.Json.Parser

/-!
Replaced types: HIDL types that have a hand-supplied AIDL counterpart, and the registry that finds
them by qualified name.
-/

namespace HalBridge

open Document

/-- A replaced type. The snippet holds the lines that stand in for the conversion of a field of
this type. -/
structure Replacement where
  legacy : Option String
  canonical : Option String
  importName : Option String := none
  snippet : Option (List String) := none
deriving DecidableEq

namespace Replacement

def lines (entry : Replacement) : List String :=
  entry.snippet.getD []

/-- The import may be given under either of two keys, of which the later one counts. -/
def decodeImport (members : Members) : Option String :=
  ((members.reverse.find? fun member => member.1 = "import" || member.1 = "import_name").map
    Prod.snd).bind textOf

def decode : Json → Except DecodeError Replacement
  | .obj members => do
      let legacy ← requiredText "legacy" members
      let canonical ← requiredText "canonical" members
      let snippet ← optionalTexts "snippet" none members
      return { legacy, canonical, importName := decodeImport members, snippet }
  | _ => .error .notAnObject

def decodeAll : Json → Except DecodeError (List Replacement)
  | .arr items => items.mapM decode
  | value => noRecords value

/-- The type that every registry knows from the start: it carries no data. -/
def monostate : QualifiedName :=
  { package := "android.hidl.safe_union", version := ⟨1, 0⟩, name := some "Monostate" }

def monostateEntry : Replacement :=
  { legacy := some "android.hidl.safe_union@1.0::Monostate"
    canonical := some "boolean"
    snippet := some ["// Nothing to translate for Monostate."] }

end Replacement

/-- The replaced types in the order of their first registration. -/
structure Registry where
  entries : List (QualifiedName × Replacement) := []

namespace Registry

def default : Registry :=
  ⟨[(Replacement.monostate, Replacement.monostateEntry)]⟩

def setEntry (q : QualifiedName) (entry : Replacement) :
    List (QualifiedName × Replacement) → List (QualifiedName × Replacement)
  | [] => [(q, entry)]
  | (r, old) :: rest => if r = q then (q, entry) :: rest else (r, old) :: setEntry q entry rest

/-- Sets the entry of a type; one registered again keeps its place. -/
def insert (registry : Registry) (q : QualifiedName) (entry : Replacement) : Registry :=
  ⟨setEntry q entry registry.entries⟩

def lookup (registry : Registry) (q : QualifiedName) : Option Replacement :=
  registry.entries.lookup q

def contains (registry : Registry) (q : QualifiedName) : Bool :=
  (registry.lookup q).isSome

def size (registry : Registry) : Nat :=
  registry.entries.length

/-- The AIDL spelling of each replaced type by the text of its legacy name. -/
def aidlNames (registry : Registry) : List (String × Option String) :=
  registry.entries.map fun (q, entry) => (q.toText, entry.canonical)

/-- The type that an entry replaces. -/
def target (entry : Replacement) : Except Fault QualifiedName :=
  match entry.legacy with
  | none => .error .absentText
  | some legacy => do
      let q ← QualifiedName.read legacy
      if q.namesType then return q else throw (.input (.replacesNoType legacy))

def register (registry : Registry) (entry : Replacement) : Except Fault Registry :=
  (target entry).map fun q => registry.insert q entry

/-- Registers entries up to the first that names no type. -/
def registerAll (registry : Registry) : List Replacement → Registry × Except Fault Unit
  | [] => (registry, .ok ())
  | entry :: rest =>
      match registry.register entry with
      | .ok registry => registry.registerAll rest
      | .error fault => (registry, .error fault)

/-- Decodes a list of replaced types from the text of the file at `path`; `none` if there is no
such file. -/
def readEntries (path : String) (text : Option String) : Except Fault (List Replacement) :=
  match text.bind Json.parse? with
  | none => .error (.input (.unreadableReplacements path none))
  | some value =>
      match Replacement.decodeAll value with
      | .ok entries => .ok entries
      | .error .notAnObject => .error .notAnObject
      | .error .infinite => .error .infiniteSize
      | .error .unreadable => .error (.input (.unreadableReplacements path none))
      | .error (.missing key) => .error (.input (.unreadableReplacements path (some key)))

/-- Adds the entries of a file. Nothing is registered unless all of them can be decoded; then
registration stops at the first that names no type. -/
def load (registry : Registry) (path : String) (text : Option String) :
    Registry × Except Fault Unit :=
  match readEntries path text with
  | .ok entries => registry.registerAll entries
  | .error fault => (registry, .error fault)

end Registry

end HalBridge
