import HalBridge.Aidl.Scalar
import HalBridge.QualifiedName.Canonical
import HalBridge.Replacement
import HalBridge.Shape.Basic
import HalBridge.Text.Optional
import HalBridge.Text.Order

/-!
How AIDL spells a type, and which imports the spelling needs.
-/

namespace HalBridge

/-- The spelling of a named type from a definition in the package of `owner`. A replaced type,
found by the text of its name, has the spelling that `replaced` gives. -/
def QualifiedName.aidlText (q owner : QualifiedName) (replaced : List (String × Option String)) :
    Option String :=
  match replaced.lookup q.toText with
  | some canonical => canonical
  | none =>
      if q.canonicalPackage = owner.canonicalPackage then some q.canonicalTypeName
      else some q.canonicalName

/-- The spelling of a shape; it is absent only for a replaced type without a spelling. -/
def Shape.aidlText (owner : QualifiedName) (replaced : List (String × Option String)) :
    Shape → Option String
  | .scalar s => some s.aidlText
  | .string => some "String"
  | .vec element _ => some (Text.orNone (element.aidlText owner replaced) ++ "[]")
  | .array element _ _ => some (Text.orNone (element.aidlText owner replaced) ++ "[]")
  | .special .handle => some "NativeHandle"
  | .special s => some ("/* FIXME: " ++ s.toText ++ " */ Object")
  | .named ref => ref.name.aidlText owner replaced

/-- The type that carries a handle in AIDL. -/
def nativeHandle : String := "android.hardware.common.NativeHandle"

/-- The import that a member with this shape needs in the package of `owner`. -/
def Shape.import? (owner : QualifiedName) (registry : Registry) (shape : Shape) :
    Option String :=
  match shape.base with
  | .special .handle => some nativeHandle
  | .named ref =>
      match registry.lookup ref.name with
      | some entry => entry.importName.filter fun name => !name.isEmpty
      | none =>
          if ref.name.canonicalPackage = owner.canonicalPackage then none
          else some ref.name.canonicalName
  | _ => none

def imports (owner : QualifiedName) (registry : Registry) (shapes : List Shape) : List String :=
  Text.sortedDistinct (shapes.filterMap (Shape.import? owner registry))

end HalBridge
