import HalBridge.Aidl.Scalar
import HalBridge.Converter.Target
import HalBridge.Shape.Descriptor

/-!
Transfers: how one value that is copied as a whole gets from HIDL to AIDL. The value is read by an
expression, checked against the range of the AIDL type where that is narrower, and cast.
-/

namespace HalBridge

/-- A value that is copied as a whole. -/
inductive Atom where
  | scalar (scalar : Scalar)
  | enum (name : QualifiedName) (backing : Scalar)
  | string
deriving DecidableEq

def Descriptor.atom? : Descriptor → Option Atom
  | .scalar s => some (.scalar s)
  | .enum q backing _ => some (.enum q backing)
  | .string => some .string
  | _ => none

/-- A check that a value is not negative and, if there is an upper bound, not above it. -/
structure RangeCheck where
  upper : Option Nat
  /-- Whether the bound is written as a long literal. -/
  long : Bool
deriving DecidableEq

namespace RangeCheck

def bound (check : RangeCheck) (upper : Nat) : String :=
  toString upper ++ (if check.long then "L" else "")

/-- The condition under which the value of an expression is out of range. -/
def condition (check : RangeCheck) (expr : String) : String :=
  match check.upper with
  | none => expr ++ " < 0"
  | some upper => expr ++ " > " ++ check.bound upper ++ " || " ++ expr ++ " < 0"

def lines (check : RangeCheck) (target : Target) (expr : String) : List String :=
  ["// FIXME This requires conversion between signed and unsigned. Change this if it "
     ++ "doesn't suit your needs.",
   "if (" ++ check.condition expr ++ ") \x7b",
   "    " ++ target.failure expr,
   "\x7d"]

end RangeCheck

/-- The check that a scalar needs: its AIDL type is signed or, for `int16`, unsigned. -/
def Scalar.rangeCheck? : Scalar → Option RangeCheck
  | .uint8 => some ⟨some 127, false⟩
  | .int16 => some ⟨none, false⟩
  | .uint32 => some ⟨some 2147483647, false⟩
  | .uint64 => some ⟨some 9223372036854775807, true⟩
  | _ => none

/-- Enums are not checked when they are copied; their values are asserted at compile time. -/
def Atom.rangeCheck? : Atom → Option RangeCheck
  | .scalar s => s.rangeCheck?
  | _ => none

/-- How the type of a value is changed. -/
inductive Cast where
  | keep
  | toScalar (type : Aidl.Scalar)
  | toEnum (type : String)
  /-- From a Java `short` to a `char`. -/
  | toChar
  /-- From a Java `short` that holds an unsigned number to an `int`. -/
  | fromUnsignedShort
  /-- From UTF-8 to the string type of the C++ target. -/
  | toString16
deriving DecidableEq

def Cast.apply (cast : Cast) (expr : String) : String :=
  match cast with
  | .keep => expr
  | .toScalar type => "static_cast<" ++ type.cppText ++ ">(" ++ expr ++ ")"
  | .toEnum type => "static_cast<" ++ type ++ ">(" ++ expr ++ ")"
  | .toChar => "(char) " ++ expr
  | .fromUnsignedShort => "Short.toUnsignedInt(" ++ expr ++ ")"
  | .toString16 => "String16(" ++ expr ++ ".c_str())"

/-- The cast that Java needs for a scalar, be it the scalar of an enum. -/
def Cast.ofJavaScalar : Scalar → Cast
  | .int16 => .toChar
  | .uint16 => .fromUnsignedShort
  | _ => .keep

namespace Target

def castOf (target : Target) (atom : Atom) : Cast :=
  match target, atom with
  | .cpp, .string => .toString16
  | .ndk, .string | .java, .string => .keep
  | .ndk, .enum q _ | .cpp, .enum q _ => .toEnum (target.canonicalType q)
  | .ndk, .scalar s | .cpp, .scalar s => .toScalar s.aidl
  | .java, .enum _ backing => Cast.ofJavaScalar backing
  | .java, .scalar s => Cast.ofJavaScalar s

/-- The comments that go with a converted value. -/
def valueComments (target : Target) (atom : Atom) : List String :=
  match target, atom with
  | .cpp, .string =>
      ["// FIXME: a hidl_string that is not valid UTF-8 becomes an empty String16."]
  | _, _ => []

/-- The type of the elements of a container. -/
def elementType (target : Target) (atom : Atom) : String :=
  match target, atom with
  | .ndk, .string => "std::string"
  | .cpp, .string => "::android::String16"
  | .java, .string => "String"
  | .ndk, .enum q _ | .cpp, .enum q _ => target.canonicalType q
  | .ndk, .scalar s | .cpp, .scalar s => s.aidl.cppText
  | .java, .enum _ backing => backing.aidlText
  | .java, .scalar s => s.aidlText

end Target

/-- How the element at index `i` of a container is read. -/
inductive ElementRead where
  | index
  | get
  /-- A boxed short has to be unboxed before it is cast to a character. -/
  | getShort
deriving DecidableEq

def ElementRead.apply (read : ElementRead) (source : String) : String :=
  match read with
  | .index => source ++ "[i]"
  | .get => source ++ ".get(i)"
  | .getShort => source ++ ".get(i).shortValue()"

/-- Java reads a vector through its accessor; all other containers are indexed. -/
def Target.elementRead (target : Target) (fixed : Bool) (element : Option Atom) : ElementRead :=
  match target, fixed with
  | .java, false => if element = some (.scalar .int16) then .getShort else .get
  | _, _ => .index

/-- The transfer of the value of one expression. -/
structure Transfer where
  source : String
  check : Option RangeCheck
  comments : List String
  cast : Cast

namespace Transfer

def of (target : Target) (atom : Atom) (source : String) : Transfer :=
  { source, check := atom.rangeCheck?, comments := target.valueComments atom
    cast := target.castOf atom }

/-- The lines before the value is written. -/
def preparation (transfer : Transfer) (target : Target) : List String :=
  (match transfer.check with
    | none => []
    | some check => check.lines target transfer.source)
  ++ transfer.comments

def value (transfer : Transfer) : String :=
  transfer.cast.apply transfer.source

end Transfer

end HalBridge
