import HalBridge.Model.Chain
import HalBridge.Resolver.Declaration
import HalBridge.Text.Lines

/-!
The second phase of loading a release: the types that a declaration refers to are resolved. How a
name outside the release is looked up is a parameter.
-/

namespace HalBridge.Resolver

open Document

/-- The name that a dotted path has when it is declared inside `scope`. -/
def within (scope : QualifiedName) (path : List String) : QualifiedName :=
  path.foldl (fun q name => q.nested (some name)) scope

/-- The declaration that a relative path means: the first found from the innermost scope outwards,
down to the release itself. -/
def findRelative? (catalog : Catalog) (scope : Decl) (path : List String) :
    Option QualifiedName :=
  (scope.name :: scope.scopes ++ [scope.name.release]).findSome? fun outer =>
    let q := within outer path
    if catalog.contains q then some q else none

/-- Resolves a name written in a declaration; one with an `@` is a qualified name. -/
def resolveName (lookup : QualifiedName → Loading Ref) (scope : Decl) (reference : String) :
    Loading Ref := do
  if reference.toList.contains '@' then
    match QualifiedName.parse reference with
    | .error .malformed => throw (.input (.malformedReference reference scope.name))
    | .error (.overlong length) => throw (.overlongVersion length)
    | .ok q => lookup q
  else
    let path := Text.split '.' reference
    match findRelative? (← get).catalog scope path with
    | some q => return .declared q
    | none => lookup (.ofPath scope.name.package scope.name.version path)

/-- Resolves a type written in the declaration `scope`. -/
def resolveType (lookup : QualifiedName → Loading Ref) (scope : Decl) : TypeRef → Loading Ty
  | ⟨some "scalar", scalar, _, _, _⟩ =>
      match scalar.bind Scalar.ofText? with
      | some scalar => return .scalar scalar
      | none => throw (.input (.unknownScalar scalar scope.name))
  | ⟨some "string", _, _, _, _⟩ => return .string
  | ⟨some "vec", _, _, none, _⟩ => throw (.input (.missingElement "vec" scope.name))
  | ⟨some "vec", _, _, some element, _⟩ => return .vec (← resolveType lookup scope element)
  | ⟨some "array", _, _, none, _⟩ => throw (.input (.missingElement "array" scope.name))
  | ⟨some "array", _, _, some element, size⟩ => do
      let element ← resolveType lookup scope element
      match size with
      | none => throw (.input (.invalidSize scope.name))
      | some size =>
          if 0 < size.value then return .array element size
          else throw (.input (.invalidSize scope.name))
  | ⟨some "named", _, ref, _, _⟩ =>
      match ref with
      | none | some "" => throw (.input (.emptyReference scope.name))
      | some reference => return .named (← resolveName lookup scope reference)
  | ⟨kind, _, _, _, _⟩ =>
      match kind.bind Special.ofText? with
      | some special => return .special special
      | none => throw (.input (.unknownTypeKind kind scope.name))

def resolveField (lookup : QualifiedName → Loading Ref) (scope : Decl) :
    Option FieldDef → Loading Field
  | none | some ⟨_, none, _⟩ => throw .absentObject
  | some ⟨name, some type, comment⟩ => do
      let type ← resolveType lookup scope type
      return {
        name, type, owner := scope.name, origin := scope.name.version, access := name, comment }

/-- Whether a type can back an enum. -/
def backsEnum (catalog : Catalog) : Ty → Bool
  | .scalar _ => true
  | type => (catalog.enumOf? type).isSome

def setBody (q : QualifiedName) (body : Body) : Loading Unit :=
  modifyCatalog (·.update q fun decl => { decl with body })

/-- Resolves the references of one declaration. -/
def resolveDecl (lookup : QualifiedName → Loading Ref) (scope : Decl) (definition : TypeDef) :
    Loading Unit := do
  match scope.body with
  | .compound style _ =>
      match definition.fields with
      | none => throw .absentList
      | some fields =>
          let fields ← fields.mapM (resolveField lookup scope)
          setBody scope.name (.compound style fields)
  | .enum _ values =>
      match definition.storage with
      | none => throw (.input (.missingStorage scope.name))
      | some storage =>
          let storage ← resolveType lookup scope storage
          setBody scope.name (.enum storage values)
          if !backsEnum (← get).catalog storage then
            throw (.input (.invalidStorage scope.name))
  | .typedef _ =>
      match definition.aliased with
      | none => throw (.input (.missingAliased scope.name))
      | some aliased =>
          let aliased ← resolveType lookup scope aliased
          setBody scope.name (.typedef aliased)
  | .interface => pure ()

/-- Resolves the references of declared types in the order of declaration. -/
def resolvePending (lookup : QualifiedName → Loading Ref) : Pending → Loading Unit
  | [] => pure ()
  | (q, definition) :: rest => do
      if let some scope := (← get).catalog.find? q then
        resolveDecl lookup scope definition
      resolvePending lookup rest

end HalBridge.Resolver
