import HalBridge.Disk.Basic
import HalBridge.QualifiedName.Parser
import HalBridge.Text.Optional
import HalBridge.Text.Quoted

/-!
What can go wrong. An `InputError` is a fault of the request or of the documents and ends a
conversion run with a message; every other `Fault` is a misuse of an operation.
-/

namespace HalBridge

/-- A chain of typedefs or of parent enums that leads nowhere. -/
inductive ChainError where
  | typedefCycle (typedef : QualifiedName)
  | enumCycle (enum : QualifiedName)
  | enumWithoutScalar (enum : QualifiedName)
deriving DecidableEq

def ChainError.message : ChainError → String
  | .typedefCycle q => s!"Typedef cycle through {q}"
  | .enumCycle q => s!"Enum {q} extends itself"
  | .enumWithoutScalar q => s!"Enum {q} is not backed by a scalar"

inductive InputError where
  | invalidName (text : String)
  | invalidVersion (text : String)
  | replacesNoType (legacy : String)
  | notAPackage (release : QualifiedName)
  | missingRelease (release : QualifiedName)
  | outdated (newest requested : QualifiedName)
  | unreadableRelease (release : QualifiedName) (missingKey : Option String)
  | unreadableReplacements (path : String) (missingKey : Option String)
  | inaccessibleReplacements (path : String) (error : PathError)
  | misplacedRelease (file : String) (package version : Option String) (expected : QualifiedName)
  | unknownKind (kind name : Option String)
  | redeclared (type : QualifiedName)
  | missingStorage (enum : QualifiedName)
  | invalidStorage (enum : QualifiedName)
  | missingAliased (typedef : QualifiedName)
  | unknownScalar (scalar : Option String) (scope : QualifiedName)
  | missingElement (container : String) (scope : QualifiedName)
  | invalidSize (scope : QualifiedName)
  | emptyReference (scope : QualifiedName)
  | malformedReference (reference : String) (scope : QualifiedName)
  | unknownTypeKind (kind : Option String) (scope : QualifiedName)
  | endlessChain (chain : ChainError)
deriving DecidableEq

/-- An error about a path, as systems report it. -/
def PathError.report (error : PathError) (path : String) : String :=
  match error.number? with
  | none => error.message
  | some number => s!"[Errno {number}] {error.message}: " ++ Text.quoted path

/-- The key that a document misses, if that is why it cannot be read. -/
def InputError.cause : Option String → String
  | none => ""
  | some key => ": '" ++ key ++ "'"

def InputError.message : InputError → String
  | .invalidName text => "Invalid fully-qualified name: " ++ text
  | .invalidVersion text => "Invalid version: " ++ text
  | .replacesNoType legacy => "Replaced type " ++ legacy ++ " does not name a type"
  | .notAPackage release =>
      s!"hidl2aidl only supports converting an entire package, try converting {release} instead"
  | .missingRelease release => s!"Could not get sources for: {release}"
  | .outdated newest requested =>
      s!"Found {newest} while converting {requested}. Only the latest minor version should be "
        ++ "converted, use --force to convert an older one."
  | .unreadableRelease release key => s!"Could not parse {release}" ++ cause key
  | .unreadableReplacements path key =>
      "Could not read replaced types from " ++ path ++ cause key
  | .inaccessibleReplacements path error =>
      "Could not read replaced types from " ++ path ++ ": " ++ error.report path
  | .misplacedRelease file package version expected =>
      file ++ " declares " ++ Text.orNone package ++ "@" ++ Text.orNone version
        ++ s!", expected {expected}"
  | .unknownKind kind name =>
      "Unknown kind '" ++ Text.orNone kind ++ "' for " ++ Text.orNone name
  | .redeclared q => s!"{q} is declared more than once"
  | .missingStorage q => s!"Enum {q} has no storage type"
  | .invalidStorage q => s!"Enum {q} must be backed by a scalar or enum"
  | .missingAliased q => s!"Typedef {q} has no aliased type"
  | .unknownScalar scalar scope =>
      "Unknown scalar '" ++ Text.orNone scalar ++ s!"' in {scope}"
  | .missingElement container scope => container ++ s!" without element type in {scope}"
  | .invalidSize scope => s!"Array without a valid size in {scope}"
  | .emptyReference scope => s!"Named reference without a name in {scope}"
  | .malformedReference reference scope => "Bad reference '" ++ reference ++ s!"' in {scope}"
  | .unknownTypeKind kind scope =>
      "Unknown type kind '" ++ Text.orNone kind ++ s!"' in {scope}"
  | .endlessChain chain => chain.message

inductive Fault where
  | input (error : InputError)
  | chain (error : ChainError)
  | noMinorBelow (version : Version)
  | unreadNumber (text : String) (error : Text.NumeralError)
  /-- The version of a name has a number with too many digits to be read. -/
  | overlongVersion (length : Nat)
  /-- A number has too many digits to be written. -/
  | unwritableNumber
  | unknownTarget (text : String)
  | unknownNoteKind (text : String)
  | unmerged (compound : QualifiedName)
  | noElementType (label : String)
  | noElement (label : String)
  /-- A null stands where a list is walked. -/
  | absentList
  /-- A null stands where a text is put together. -/
  | absentText
  /-- Something else stands where a document needs an object. -/
  | notAnObject
  /-- A null stands where an object is needed. -/
  | absentObject
  | notACompound (type : QualifiedName)
  /-- A typedef contains itself through vectors or arrays. -/
  | endlessType (typedef : QualifiedName)
  /-- The size of an array is infinite. -/
  | infiniteSize
  /-- A path cannot be followed. -/
  | path (error : PathError)
  /-- A tag of a console text closes nothing that is open, or cannot be closed. -/
  | markup (tag : String)
deriving DecidableEq

/-- A number that cannot be read is quoted, up to this many characters. -/
def Fault.quotedLimit : Nat := 200

/-- What is said of a number with too many digits, of which the number may be given. -/
def Fault.excessMessage (length : Option Nat) : String :=
  "Exceeds the limit (" ++ toString Text.digitLimit ++ " digits) for integer string conversion"
    ++ (match length with
      | some length => ": value has " ++ toString length ++ " digits"
      | none => "")
    ++ "; use sys.set_int_max_str_digits() to increase the limit"

def Fault.message : Fault → String
  | .input error => error.message
  | .chain error => error.message
  | .noMinorBelow version => s!"Cannot go below minor version 0 of {version}"
  | .unreadNumber text .notDecimal =>
      "invalid literal for int() with base 10: " ++ cut (Text.quoted text)
  | .unreadNumber _ (.overlong length) => excessMessage (some length)
  | .overlongVersion length =>
      "Error trying to process rule \"version\":\n\n" ++ excessMessage (some length)
  | .unwritableNumber => excessMessage none
  | .unknownTarget text => Text.quoted text ++ " is not a valid BackendVariant"
  | .unknownNoteKind text => Text.quoted text ++ " is not a valid NoteKind"
  | .unmerged q => s!"{q} needs a merged schema"
  | .noElementType label => "No element type for " ++ label
  | .noElement label => label ++ " has no element type"
  | .absentList => "A list of the document is null"
  | .absentText => "A name of the document is null"
  | .notAnObject => "A part of the document is not an object"
  | .absentObject => "A part of the document is null"
  | .notACompound q => s!"{q} is not a compound type"
  | .endlessType q => s!"Typedef {q} contains itself"
  | .infiniteSize => "An array is infinite"
  | .path error => error.message
  | .markup tag => "Tag " ++ tag ++ " cannot be closed"
where
  cut (text : String) : String := String.ofList (text.toList.take quotedLimit)

def Version.read (text : String) : Except Fault Version :=
  match Version.parse text with
  | .ok version => .ok version
  | .error .malformed => .error (.input (.invalidVersion text))
  | .error (.unread run error) => .error (.unreadNumber run error)

/-- The text of a version, if its numbers are not too long to be written. -/
def Version.write (version : Version) : Except Fault String :=
  if version.isWritable then .ok version.toText else .error .unwritableNumber

def Version.down (version : Version) : Except Fault Version :=
  match version.down? with
  | some below => .ok below
  | none => .error (.noMinorBelow version)

def QualifiedName.read (text : String) : Except Fault QualifiedName :=
  match QualifiedName.parse text with
  | .ok q => .ok q
  | .error .malformed => .error (.input (.invalidName text))
  | .error (.overlong length) => .error (.overlongVersion length)

/-- The text of a name, if the numbers of its version are not too long to be written. -/
def QualifiedName.write (q : QualifiedName) : Except Fault String :=
  if q.version.isWritable then .ok q.toText else .error .unwritableNumber

def QualifiedName.down (q : QualifiedName) : Except Fault QualifiedName :=
  q.version.down.map q.withVersion

end HalBridge
