import HalBridge.Model.Chain

/-!
Shapes: types with every typedef replaced by what it stands for, at any depth. A container keeps
the text it was written with as its label.
-/

namespace HalBridge

inductive Shape where
  | scalar (scalar : Scalar)
  | string
  | vec (element : Shape) (label : String)
  | array (element : Shape) (size : ArraySize) (label : String)
  | special (special : Special)
  | named (ref : Ref)
deriving DecidableEq

namespace Shape

/-- What is left of a shape without the vectors and arrays around it. -/
def base : Shape → Shape
  | .vec element _ => element.base
  | .array element _ _ => element.base
  | shape => shape

end Shape

namespace Catalog

/-- The shape of a type, with `jump` for the shape of what a typedef stands for. -/
def shapeWith (catalog : Catalog) (jump : QualifiedName → Ty → Except Fault Shape) :
    Ty → Except Fault Shape
  | .scalar scalar => .ok (.scalar scalar)
  | .string => .ok .string
  | .vec element => do
      let shape ← catalog.shapeWith jump element
      return .vec shape (catalog.typeText (.vec element))
  | .array element size => do
      let shape ← catalog.shapeWith jump element
      return .array shape size (catalog.typeText (.array element size))
  | .special special => .ok (.special special)
  | .named ref =>
      match catalog.typedefOf? (.named ref) with
      | none => .ok (.named ref)
      | some q =>
          match catalog.resolveAlias (.named ref) with
          | .ok type => jump q type
          | .error chain => .error (.chain chain)

/-- The shape of a type that unfolds at most `depth` typedefs inside one another. -/
def shapeAt (catalog : Catalog) : Nat → Ty → Except Fault Shape
  | 0 => catalog.shapeWith fun q _ => .error (.endlessType q)
  | depth + 1 => catalog.shapeWith fun _ type => catalog.shapeAt depth type

/-- The shape of a type. Typedefs nested more deeply than there are declarations repeat one of
them, so such a type contains itself and has no shape. -/
def shape (catalog : Catalog) (type : Ty) : Except Fault Shape :=
  catalog.shapeAt catalog.decls.length type

end Catalog

end HalBridge
