import HalBridge.Shape.Basic

/-!
Descriptors: what the conversion of a field depends on. Besides its shape, a descriptor knows the
scalar behind an enum and tells unions from records.
-/

namespace HalBridge

inductive Descriptor where
  | scalar (scalar : Scalar)
  | enum (name : QualifiedName) (backing : Scalar) (label : String)
  | string
  | sequence (element : Descriptor) (label : String)
  | fixedArray (element : Descriptor) (size : ArraySize) (label : String)
  | record (name : QualifiedName) (label : String)
  | union (name : QualifiedName) (safe : Bool) (label : String)
  | unsupported (special : Special)
deriving DecidableEq

namespace Descriptor

def kindText : Descriptor → String
  | .scalar _ => "scalar"
  | .enum _ _ _ => "enum"
  | .string => "string"
  | .sequence _ _ => "sequence"
  | .fixedArray _ _ _ => "fixed_array"
  | .record _ _ => "named_record"
  | .union _ _ _ => "named_union"
  | .unsupported _ => "unsupported"

def label : Descriptor → String
  | .scalar s => s.toText
  | .enum _ _ label => label
  | .string => "string"
  | .sequence _ label => label
  | .fixedArray _ _ label => label
  | .record _ label => label
  | .union _ _ label => label
  | .unsupported special => special.toText

/-- The scalar itself, or the one behind an enum. -/
def scalar? : Descriptor → Option Scalar
  | .scalar s => some s
  | .enum _ backing _ => some backing
  | _ => none

def element? : Descriptor → Option Descriptor
  | .sequence element _ => some element
  | .fixedArray element _ _ => some element
  | _ => none

def size? : Descriptor → Option ArraySize
  | .fixedArray _ size _ => some size
  | _ => none

def name? : Descriptor → Option QualifiedName
  | .enum q _ _ => some q
  | .record q _ => some q
  | .union q _ _ => some q
  | _ => none

def isSafe : Descriptor → Bool
  | .union _ safe _ => safe
  | _ => false

def isContainer (descriptor : Descriptor) : Bool :=
  descriptor.element?.isSome

def isFixedArray (descriptor : Descriptor) : Bool :=
  descriptor.size?.isSome

end Descriptor

namespace Catalog

/-- Describes a named type that is not a typedef. -/
def describeRef (catalog : Catalog) (ref : Ref) : Except ChainError Descriptor :=
  match (catalog.decl? ref).map Decl.body with
  | some (.enum _ _) =>
      (catalog.enumScalar ref.name).map fun backing =>
        .enum ref.name backing (catalog.refText ref)
  | some (.compound .union _) => .ok (.union ref.name false (catalog.refText ref))
  | some (.compound .safeUnion _) => .ok (.union ref.name true (catalog.refText ref))
  | _ => .ok (.record ref.name (catalog.refText ref))

def describeShape (catalog : Catalog) : Shape → Except ChainError Descriptor
  | .scalar scalar => .ok (.scalar scalar)
  | .string => .ok .string
  | .vec element label => (catalog.describeShape element).map (.sequence · label)
  | .array element size label => (catalog.describeShape element).map (.fixedArray · size label)
  | .special special => .ok (.unsupported special)
  | .named ref => catalog.describeRef ref

/-- Describes a type, with its typedefs unfolded. -/
def describe (catalog : Catalog) (type : Ty) : Except Fault Descriptor := do
  let shape ← catalog.shape type
  match catalog.describeShape shape with
  | .ok descriptor => return descriptor
  | .error chain => throw (.chain chain)

end Catalog

end HalBridge
