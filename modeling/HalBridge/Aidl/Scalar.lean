import HalBridge.Model.Type

/-!
The scalar types of AIDL and the one that carries each HIDL scalar.
-/

namespace HalBridge

namespace Aidl

inductive Scalar where
  | boolean
  | byte
  | char
  | int
  | long
  | float
  | double
deriving DecidableEq

namespace Scalar

def toText : Scalar → String
  | .boolean => "boolean"
  | .byte => "byte"
  | .char => "char"
  | .int => "int"
  | .long => "long"
  | .float => "float"
  | .double => "double"

/-- The C++ type of an AIDL scalar. -/
def cppText : Scalar → String
  | .boolean => "bool"
  | .byte => "int8_t"
  | .char => "char16_t"
  | .int => "int32_t"
  | .long => "int64_t"
  | .float => "float"
  | .double => "double"

end Scalar

end Aidl

/-- The AIDL scalar that a HIDL scalar becomes. AIDL has no unsigned types but `char`. -/
def Scalar.aidl : Scalar → Aidl.Scalar
  | .bool => .boolean
  | .int8 | .uint8 => .byte
  | .int16 => .char
  | .uint16 | .int32 | .uint32 => .int
  | .int64 | .uint64 => .long
  | .float => .float
  | .double => .double

def Scalar.aidlText (scalar : Scalar) : String :=
  scalar.aidl.toText

end HalBridge
