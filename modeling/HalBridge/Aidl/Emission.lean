import HalBridge.Aidl.Definition
import HalBridge.Aidl.Spelling
import HalBridge.Hidl
import HalBridge.Merge

/-!
The AIDL definition of each named type. What AIDL cannot express is written as a stub or a comment
and reported with a note.
-/

namespace HalBridge.Aidl

/-- The path of the file that defines a type. -/
def filePath (q : QualifiedName) : String :=
  q.canonicalPath ++ "/" ++ q.canonicalTypeName ++ ".aidl"

/-- The HIDL definition of a type as comment lines. -/
def definitionComment (catalog : Catalog) (ref : Ref) : List String :=
  ("// This is the HIDL definition of " ++ ref.name.toText)
    :: (catalog.hidlDefinition ref).map ("// " ++ ·)

/-- The note that a member of this shape has no equivalent, if it has none. -/
def shapeNote? (owner : QualifiedName) (field : Field) (shape : Shape) : Option Note :=
  match shape.base with
  | .special .handle => none
  | .special special =>
      some {
        kind := .unsupported
        message :=
          "Field \"" ++ Text.orNone field.name ++ "\" of " ++ owner.toText ++ " has type "
            ++ special.toText ++ ", which has no AIDL equivalent." }
  | _ => none

def member (registry : Registry) (owner : QualifiedName) (field : Field) (shape : Shape) :
    Member :=
  { type := Text.orNone (shape.aidlText owner registry.aidlNames)
    name := Text.orNone field.name
    comment := docComment field.comment }

/-- The members of a type with these fields, and their shapes. -/
def members (catalog : Catalog) (registry : Registry) (owner : QualifiedName) :
    List Field → Noting (List Member × List Shape)
  | [] => return ([], [])
  | field :: rest => do
      match catalog.shape field.type with
      | .error fault => throw fault
      | .ok shape =>
          modify (·.extend (shapeNote? owner field shape).toList)
          let (others, shapes) ← members catalog registry owner rest
          return (member registry owner field shape :: others, shape :: shapes)

def enumerator (value : EnumValue) : Enumerator :=
  { name := Text.orNone value.name, value := value.value, comment := docComment value.comment }

/-- The definition of a compound type with merged fields. -/
def compoundDefinition (catalog : Catalog) (registry : Registry) (ref : Ref)
    (schema : MergedSchema) (outline : Definition) : Noting Definition := do
  match schema.style with
  | .union =>
      leaveNote .unsupported
        ("Union " ++ ref.name.toText ++ " was emitted as an empty parcelable.")
      return { outline with
        trailer :=
          ("// Cannot convert unions since AIDL requires a discriminator. "
            ++ "Use a safe_union or a parcelable with explicit fields.")
          :: definitionComment catalog ref }
  | .struct =>
      let (members, shapes) ← members catalog registry ref.name schema.fields
      return { outline with
        body := .parcelable members, imports := imports ref.name registry shapes }
  | .safeUnion =>
      let (members, shapes) ← members catalog registry ref.name schema.fields
      return { outline with
        body := .union members, imports := imports ref.name registry shapes }

/-- The definition of a named type. A compound type needs its merged schema. -/
def definition (catalog : Catalog) (registry : Registry) (ref : Ref)
    (schema : Option MergedSchema) : Noting Definition := do
  let q := ref.name
  let decl := catalog.decl? ref
  let outline : Definition :=
    { package := q.canonicalPackage, name := q.canonicalTypeName, imports := []
      comment := docComment (decl.bind Decl.comment), body := .stub, trailer := [] }
  match decl.map Decl.body with
  | some (.enum _ _) =>
      match catalog.enumScalar q with
      | .error chain => throw (.chain chain)
      | .ok scalar =>
          return { outline with
            body := .enum scalar.aidlText ((catalog.valuesFromRoot q).map enumerator) }
  | some (.compound _ _) =>
      match schema with
      | none => throw (.unmerged q)
      | some schema => compoundDefinition catalog registry ref schema outline
  | some (.typedef aliased) =>
      leaveNote .unsupported
        ("Typedef " ++ q.toText ++ " cannot be converted since AIDL does not support typedefs. "
          ++ "References to it use the aliased type.")
      return { outline with
        comment := none
        body := .nothing
        trailer :=
          ("// Cannot convert typedef " ++ aliased.hidlText q ++ " " ++ q.toText
            ++ " since AIDL does not support typedefs.")
          :: definitionComment catalog ref }
  | _ =>
      leaveNote .unsupported ("No AIDL conversion for " ++ catalog.refText ref)
      return { outline with
        trailer := ["// FIXME: " ++ catalog.refText ref ++ " has no AIDL conversion."] }

end HalBridge.Aidl
