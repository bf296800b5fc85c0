import HalBridge.Resolver.Basic

/-!
The first phase of loading a release: every type is declared under its name, with placeholders for
the types it refers to.
-/

namespace HalBridge

open Document

inductive DeclKind where
  | compound (style : CompoundStyle)
  | enum
  | typedef
  | interface

def DeclKind.ofText? : Option String → Option DeclKind
  | some "struct" => some (.compound .struct)
  | some "union" => some (.compound .union)
  | some "safe_union" => some (.compound .safeUnion)
  | some "enum" => some .enum
  | some "typedef" => some .typedef
  | some "interface" => some .interface
  | _ => none

namespace Resolver

def enumValue : Option EnumValueDef → Except Fault EnumValue
  | none => .error .absentObject
  | some ⟨name, value, comment⟩ => .ok { name, value, comment }

/-- What a type is before its references are resolved: a compound has no fields, an enum is backed
by `int32` and a typedef stands for a string. -/
def placeholder (kind : DeclKind) (values : Option (List (Option EnumValueDef))) :
    Except Fault Body :=
  match kind with
  | .compound style => .ok (.compound style [])
  | .enum =>
      match values with
      | none => .error .absentList
      | some values => (values.mapM enumValue).map (.enum (.scalar .int32))
  | .typedef => .ok (.typedef .string)
  | .interface => .ok .interface

/-- Declared types with the definitions that their references are resolved from. -/
abbrev Pending := List (QualifiedName × TypeDef)

/-- Enters a declaration without its nested types; a name can be declared once. -/
def enter (scopes : List QualifiedName) (q : QualifiedName) (definition : TypeDef) :
    Loading Unit := do
  let some kind := DeclKind.ofText? definition.kind
    | throw (.input (.unknownKind definition.kind definition.name))
  if (← get).catalog.contains q then
    throw (.input (.redeclared q))
  match placeholder kind definition.values with
  | .error fault => throw fault
  | .ok body =>
      modifyCatalog (·.add
        { name := q, comment := definition.comment, scopes, subTypes := [], body })

mutual

/-- Declares a type of the release `key` and the types nested in it, outermost first. -/
def declare (key : QualifiedName) (scopes : List QualifiedName) :
    TypeDef → Loading (QualifiedName × Pending)
  | ⟨name, kind, fields, subTypes, storage, values, aliased, comment⟩ => do
      let definition : TypeDef :=
        ⟨name, kind, fields, subTypes, storage, values, aliased, comment⟩
      let q := (scopes.head?.getD key).nested name
      enter scopes q definition
      match subTypes with
      | none => throw .absentList
      | some definitions =>
          let (nested, pending) ← declareAll key (q :: scopes) definitions
          modifyCatalog (·.update q fun decl => { decl with subTypes := nested })
          return (q, (q, definition) :: pending)

def declareAll (key : QualifiedName) (scopes : List QualifiedName) :
    List (Option TypeDef) → Loading (List QualifiedName × Pending)
  | [] => return ([], [])
  | none :: _ => throw .absentObject
  | some definition :: rest => do
      let (q, pending) ← declare key scopes definition
      let (names, others) ← declareAll key scopes rest
      return (q :: names, pending ++ others)

end

end Resolver

end HalBridge
