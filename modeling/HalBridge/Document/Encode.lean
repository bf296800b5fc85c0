import HalBridge.Document.Basic
import HalBridge.Json.Basic

/-!
Documents as JSON values: each part as a member, an absent one as null.
-/

namespace HalBridge.Document

def textJson : Option String → Json
  | none => .null
  | some text => .str text

def entryJson {α : Type} (encode : α → Json) : Option α → Json
  | none => .null
  | some value => encode value

def listJson {α : Type} (encode : α → Json) : Option (List α) → Json
  | none => .null
  | some items => .arr (items.map encode)

def sizeJson : Option ArraySize → Json
  | none => .null
  | some (.count n) => .int n
  | some (.flag b) => .bool b

mutual

def TypeRef.toJson : TypeRef → Json
  | ⟨kind, scalar, ref, element, size⟩ =>
      .obj [("kind", textJson kind), ("scalar", textJson scalar), ("ref", textJson ref),
        ("element", TypeRef.optionJson element), ("size", sizeJson size)]

def TypeRef.optionJson : Option TypeRef → Json
  | none => .null
  | some ref => TypeRef.toJson ref

end

def FieldDef.toJson (field : FieldDef) : Json :=
  .obj [("name", textJson field.name), ("type", TypeRef.optionJson field.type),
    ("comment", textJson field.comment)]

def EnumValueDef.toJson (value : EnumValueDef) : Json :=
  .obj [("name", textJson value.name), ("value", textJson value.value),
    ("comment", textJson value.comment)]

mutual

def TypeDef.toJson : TypeDef → Json
  | ⟨name, kind, fields, subTypes, storage, values, aliased, comment⟩ =>
      .obj [("name", textJson name), ("kind", textJson kind),
        ("fields", listJson (entryJson FieldDef.toJson) fields),
        ("sub_types", TypeDef.subTypesJson subTypes),
        ("storage", TypeRef.optionJson storage),
        ("values", listJson (entryJson EnumValueDef.toJson) values),
        ("aliased", TypeRef.optionJson aliased), ("comment", textJson comment)]

def TypeDef.subTypesJson : Option (List (Option TypeDef)) → Json
  | none => .null
  | some subTypes => .arr (TypeDef.itemsJson subTypes)

def TypeDef.itemsJson : List (Option TypeDef) → List Json
  | [] => []
  | none :: rest => .null :: TypeDef.itemsJson rest
  | some first :: rest => TypeDef.toJson first :: TypeDef.itemsJson rest

end

def Release.toJson (release : Release) : Json :=
  .obj [("package", textJson release.package), ("version", textJson release.version),
    ("types", listJson (entryJson TypeDef.toJson) release.types),
    ("unhandled_comments", listJson Json.str release.unhandledComments)]

end HalBridge.Document
