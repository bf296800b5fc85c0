import HalBridge.Document.Basic
import HalBridge.Json.Display
import HalBridge.Text.Digit

/-!
Decoding documents from JSON. Decoding is lenient: unknown members are ignored, a value in place
of a text stands for its own text, and anything with parts may stand in place of a list. The
members of an object are decoded in the order of the declared parts, so the first fault in that
order is the one reported.
-/

namespace HalBridge.Document

inductive DecodeError where
  | missing (key : String)
  | notAnObject
  | unreadable
  /-- A number is infinite where a finite one is needed. -/
  | infinite
deriving DecidableEq

abbrev Members := List (String × Json)

def isNull : Json → Bool
  | .null => true
  | _ => false

def textOf : Json → Option String
  | .null => none
  | value => some value.display

def requiredText (key : String) (members : Members) : Except DecodeError (Option String) :=
  match members.lookup key with
  | none => .error (.missing key)
  | some value => .ok (textOf value)

def optionalText (key : String) (members : Members) : Option String :=
  (members.lookup key).bind textOf

/-- The texts of a list; a string gives its characters and an object its keys. -/
def textsOf : Json → Except DecodeError (List String)
  | .arr items => .ok (items.map Json.display)
  | .str text => .ok (text.toList.map String.singleton)
  | .obj members => .ok (members.map Prod.fst)
  | _ => .error .unreadable

/-- A list of texts, `missing` if the member is left out. -/
def optionalTexts (key : String) (missing : Option (List String)) (members : Members) :
    Except DecodeError (Option (List String)) :=
  match members.lookup key with
  | none => .ok missing
  | some .null => .ok none
  | some value => (textsOf value).map some

/-- The outcome for a value other than a list where objects are listed: the characters of a string
and the keys of an object are no objects. -/
def noRecords {α : Type} : Json → Except DecodeError (List α)
  | .str text => if text.isEmpty then .ok [] else .error .notAnObject
  | .obj members => if members.isEmpty then .ok [] else .error .notAnObject
  | _ => .error .unreadable

/-- An entry of a list of objects, which may be null. -/
def entry {α : Type} (decode : Json → Except DecodeError α) (item : Json) :
    Except DecodeError (Option α) :=
  if isNull item then .ok none else (decode item).map some

/-- A list of objects, empty if the member is left out. -/
def records {α : Type} (decode : Json → Except DecodeError α) (key : String) (members : Members) :
    Except DecodeError (Option (List (Option α))) :=
  match members.lookup key with
  | none => .ok (some [])
  | some .null => .ok none
  | some (.arr items) => (items.mapM (entry decode)).map some
  | some value => (noRecords value).map some

def sizeOf? : Json → Except DecodeError ArraySize
  | .int n => .ok (.count n)
  | .bool b => .ok (.flag b)
  | .real x =>
      match x.truncate? with
      | some n => .ok (.count n)
      | none => .error .infinite
  | .infinite _ => .error .infinite
  | .str text =>
      match Text.readInteger text with
      | .ok n => .ok (.count n)
      | .error _ => .error .unreadable
  | _ => .error .unreadable

def optionalSize (key : String) (members : Members) : Except DecodeError (Option ArraySize) :=
  match members.lookup key with
  | none | some .null => .ok none
  | some value => (sizeOf? value).map some

mutual

def TypeRef.decode : Json → Except DecodeError TypeRef
  | .obj members => do
      let kind ← requiredText "kind" members
      let scalar := optionalText "scalar" members
      let ref := optionalText "ref" members
      let element ← TypeRef.decodeElement members
      let size ← optionalSize "size" members
      return { kind, scalar, ref, element, size }
  | _ => .error .notAnObject

def TypeRef.decodeElement : Members → Except DecodeError (Option TypeRef)
  | [] => .ok none
  | (key, value) :: rest =>
      if key = "element" then
        if isNull value then .ok none else (TypeRef.decode value).map some
      else TypeRef.decodeElement rest

end

def optionalType (key : String) (members : Members) : Except DecodeError (Option TypeRef) :=
  match members.lookup key with
  | none | some .null => .ok none
  | some value => (TypeRef.decode value).map some

def requiredType (key : String) (members : Members) : Except DecodeError (Option TypeRef) :=
  match members.lookup key with
  | none => .error (.missing key)
  | some .null => .ok none
  | some value => (TypeRef.decode value).map some

def FieldDef.decode : Json → Except DecodeError FieldDef
  | .obj members => do
      let name ← requiredText "name" members
      let type ← requiredType "type" members
      return { name, type, comment := optionalText "comment" members }
  | _ => .error .notAnObject

def EnumValueDef.decode : Json → Except DecodeError EnumValueDef
  | .obj members => do
      let name ← requiredText "name" members
      let value := optionalText "value" members
      return { name, value, comment := optionalText "comment" members }
  | _ => .error .notAnObject

mutual

def TypeDef.decode : Json → Except DecodeError TypeDef
  | .obj members => do
      let name ← requiredText "name" members
      let kind ← requiredText "kind" members
      let fields ← records FieldDef.decode "fields" members
      let subTypes ← TypeDef.decodeSubTypes members
      let storage ← optionalType "storage" members
      let values ← records EnumValueDef.decode "values" members
      let aliased ← optionalType "aliased" members
      let comment := optionalText "comment" members
      return { name, kind, fields, subTypes, storage, values, aliased, comment }
  | _ => .error .notAnObject

def TypeDef.decodeSubTypes : Members → Except DecodeError (Option (List (Option TypeDef)))
  | [] => .ok (some [])
  | (key, value) :: rest =>
      if key = "sub_types" then
        if isNull value then .ok none else (TypeDef.decodeList value).map some
      else TypeDef.decodeSubTypes rest

def TypeDef.decodeList : Json → Except DecodeError (List (Option TypeDef))
  | .arr items => TypeDef.decodeItems items
  | value => noRecords value

def TypeDef.decodeItems : List Json → Except DecodeError (List (Option TypeDef))
  | [] => .ok []
  | item :: rest => do
      let first ← if isNull item then .ok none else (TypeDef.decode item).map some
      let others ← TypeDef.decodeItems rest
      return first :: others

end

def Release.decode : Json → Except DecodeError Release
  | .obj members => do
      let package ← requiredText "package" members
      let version ← requiredText "version" members
      let types ← records TypeDef.decode "types" members
      let unhandledComments ← optionalTexts "unhandled_comments" (some []) members
      return { package, version, types, unhandledComments }
  | _ => .error .notAnObject

end HalBridge.Document
