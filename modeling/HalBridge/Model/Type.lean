import HalBridge.Document.Basic
import HalBridge.QualifiedName.Basic

/-!
Resolved HIDL types.
-/

namespace HalBridge

inductive Scalar where
  | bool
  | int8
  | uint8
  | int16
  | uint16
  | int32
  | uint32
  | int64
  | uint64
  | float
  | double
deriving DecidableEq

namespace Scalar

def all : List Scalar :=
  [.bool, .int8, .uint8, .int16, .uint16, .int32, .uint32, .int64, .uint64, .float, .double]

def toText : Scalar → String
  | .bool => "bool"
  | .int8 => "int8"
  | .uint8 => "uint8"
  | .int16 => "int16"
  | .uint16 => "uint16"
  | .int32 => "int32"
  | .uint32 => "uint32"
  | .int64 => "int64"
  | .uint64 => "uint64"
  | .float => "float"
  | .double => "double"

def ofText? (text : String) : Option Scalar :=
  all.find? (·.toText = text)

def signed : Scalar → Bool
  | .bool | .uint8 | .uint16 | .uint32 | .uint64 => false
  | _ => true

def bits : Scalar → Nat
  | .bool => 1
  | .int8 | .uint8 => 8
  | .int16 | .uint16 => 16
  | .int32 | .uint32 | .float => 32
  | .int64 | .uint64 | .double => 64

def floating : Scalar → Bool
  | .float | .double => true
  | _ => false

end Scalar

/-- Types without a conversion rule. -/
inductive Special where
  | handle
  | memory
  | pointer
  | fmq
deriving DecidableEq

namespace Special

def all : List Special :=
  [.handle, .memory, .pointer, .fmq]

def toText : Special → String
  | .handle => "handle"
  | .memory => "memory"
  | .pointer => "pointer"
  | .fmq => "fmq"

def ofText? (text : String) : Option Special :=
  all.find? (·.toText = text)

end Special

/-- A reference to a named type: to one that some loaded release declares, or to one whose
declaration was not available when the reference was resolved. -/
inductive Ref where
  | declared (name : QualifiedName)
  | external (name : QualifiedName)
deriving DecidableEq

def Ref.name : Ref → QualifiedName
  | .declared q => q
  | .external q => q

inductive Ty where
  | scalar (scalar : Scalar)
  | string
  | vec (element : Ty)
  | array (element : Ty) (size : ArraySize)
  | special (special : Special)
  | named (ref : Ref)
deriving DecidableEq

end HalBridge
