import HalBridge.Model.Catalog
import HalBridge.Text.Optional

/-!
HIDL texts: types and declarations the way a `.hal` file spells them.
-/

namespace HalBridge

/-- The spelling of a type inside a declaration of `scope`; a type of the same release is named
without it. -/
def Ty.hidlText (scope : QualifiedName) : Ty → String
  | .scalar s =>
      match s with
      | .bool | .float | .double => s.toText
      | _ => s.toText ++ "_t"
  | .string => "string"
  | .vec element => "vec<" ++ element.hidlText scope ++ ">"
  | .array element size => element.hidlText scope ++ "[" ++ size.toText ++ "]"
  | .special s => s.toText
  | .named ref => if ref.name.release = scope.release then ref.name.localName else ref.name.toText

def Field.hidlText (scope : QualifiedName) (field : Field) : String :=
  "    " ++ field.type.hidlText scope ++ " " ++ Text.orNone field.name ++ ";"

def EnumValue.hidlText (value : EnumValue) : String :=
  let assigned :=
    match value.value with
    | none => ""
    | some text => " = " ++ text
  "    " ++ Text.orNone value.name ++ assigned ++ ","

/-- The declaration of a named type without its nested types, one line per entry. -/
def Catalog.hidlDefinition (catalog : Catalog) (ref : Ref) : List String :=
  let q := ref.name
  let name := Text.orNone q.name
  match (catalog.decl? ref).map Decl.body with
  | some (.compound style fields) =>
      (style.toText ++ " " ++ name ++ " \x7b") :: fields.map (·.hidlText q) ++ ["\x7d;"]
  | some (.enum storage values) =>
      ("enum " ++ name ++ " : " ++ storage.hidlText q ++ " \x7b")
        :: values.map EnumValue.hidlText ++ ["\x7d;"]
  | some (.typedef aliased) => ["typedef " ++ aliased.hidlText q ++ " " ++ name ++ ";"]
  | _ => [catalog.keyword ref ++ " " ++ name ++ ";"]

end HalBridge
