import HalBridge.Model.Catalog
import HalBridge.Note

/-!
Merging a compound type with the older versions that it embeds. A minor version extends a type by
a field that holds the version before; the walk below expands such fields in place, and of the
fields with one name the one of the newest version is kept.
-/

namespace HalBridge

/-- A compound type with the fields of all of its reachable versions. -/
structure MergedSchema where
  name : QualifiedName
  style : CompoundStyle
  fields : List Field
  subTypes : List QualifiedName

def MergedSchema.field? (schema : MergedSchema) (name : String) : Option Field :=
  schema.fields.find? (·.name = some name)

namespace Merge

/-- What the walk meets: a field, with its access path, or a version reference that leads back to
a type it has entered. -/
inductive Step where
  | field (field : Field)
  | back (path : String) (owner target : QualifiedName)

/-- The types entered so far, in order, and what was met in them. -/
structure Walk where
  entered : List QualifiedName := []
  steps : List Step := []

namespace Walk

def enter (walk : Walk) (q : QualifiedName) : Walk :=
  { walk with entered := walk.entered ++ [q] }

def meet (walk : Walk) (step : Step) : Walk :=
  { walk with steps := walk.steps ++ [step] }

@[simp]
theorem entered_enter (walk : Walk) (q : QualifiedName) :
    (walk.enter q).entered = walk.entered ++ [q] := rfl

@[simp]
theorem steps_enter (walk : Walk) (q : QualifiedName) : (walk.enter q).steps = walk.steps := rfl

@[simp]
theorem entered_meet (walk : Walk) (step : Step) : (walk.meet step).entered = walk.entered := rfl

@[simp]
theorem steps_meet (walk : Walk) (step : Step) :
    (walk.meet step).steps = walk.steps ++ [step] := rfl

end Walk

end Merge

namespace Catalog

open Merge

def compound? (catalog : Catalog) (q : QualifiedName) : Option (CompoundStyle × List Field) :=
  match (catalog.find? q).map Decl.body with
  | some (.compound style fields) => some (style, fields)
  | _ => none

/-- The other version of `q` that a field of `q` embeds. -/
def versionTarget? (catalog : Catalog) (q : QualifiedName) (field : Field) :
    Option QualifiedName :=
  match field.type with
  | .named (.declared target) =>
      if (catalog.compound? target).isSome && target ≠ q && target.sameLineage q then some target
      else none
  | _ => none

def fieldsOf (catalog : Catalog) (q : QualifiedName) : List Field :=
  ((catalog.compound? q).map Prod.snd).getD []

/-- Walks fields of `q` that are reached by the path `path`, with `descend` for the fields of an
embedded version. -/
def walkFields (catalog : Catalog) (descend : QualifiedName → String → Walk → Walk)
    (q : QualifiedName) (path : String) : List Field → Walk → Walk
  | [], walk => walk
  | field :: rest, walk =>
      let reached := path ++ Text.orNone field.name
      let walk :=
        match catalog.versionTarget? q field with
        | some target =>
            if target ∈ walk.entered then walk.meet (.back reached q target)
            else descend target (reached ++ ".") walk
        | none => walk.meet (.field { field with access := field.name.map (path ++ ·) })
      catalog.walkFields descend q path rest walk

/-- Enters `q` and walks its fields, at most `depth` versions deep. -/
def walkAt (catalog : Catalog) : Nat → QualifiedName → String → Walk → Walk
  | 0, _, _, walk => walk
  | depth + 1, q, path, walk =>
      catalog.walkFields (catalog.walkAt depth) q path (catalog.fieldsOf q) (walk.enter q)

/-- The walk from `q`. No type is entered twice, so the declarations bound its depth. -/
def walk (catalog : Catalog) (q : QualifiedName) : Walk :=
  catalog.walkAt catalog.decls.length q "" {}

/-- The note that one of two fields of a name is discarded. -/
def collisionNote (catalog : Catalog) (kept discarded : Field) (name : String)
    (owner : QualifiedName) : Note :=
  { kind := .collision
    message :=
      s!"Found conflicting field name \"{name}\" in different versions of "
        ++ owner.localName ++ ". Keeping " ++ catalog.typeText kept.type
        ++ " from " ++ kept.origin.toText ++ " and discarding "
        ++ catalog.typeText discarded.type ++ " from " ++ discarded.origin.toText ++ "." }

def backNote (path : String) (owner target : QualifiedName) : Note :=
  { kind := .unsupported
    message :=
      s!"Version reference cycle: field \"{path}\" of {owner} refers back to {target}. "
        ++ "Skipping it." }

/-- Records a field: the first of its name is added at the end; a later one takes the place of the
recorded one unless it is of an older version. -/
def recordField (catalog : Catalog) (field : Field) (name : String) :
    List Field → List Field × List Note
  | [] => ([field], [])
  | existing :: rest =>
      if existing.name = some name then
        if existing.origin ≤ field.origin then
          (field :: rest, [catalog.collisionNote field existing name field.owner])
        else (existing :: rest, [catalog.collisionNote existing field name field.owner])
      else
        let (recorded, notes) := catalog.recordField field name rest
        (existing :: recorded, notes)

/-- Records what a walk met, in order. A field without a name has no access path. -/
def recordSteps (catalog : Catalog) :
    List Step → List Field → Notes → Except Fault (List Field × Notes)
  | [], fields, notes => .ok (fields, notes)
  | .back path owner target :: rest, fields, notes =>
      catalog.recordSteps rest fields (notes.add (backNote path owner target))
  | .field field :: rest, fields, notes =>
      match field.name with
      | none => .error .absentText
      | some name =>
          let (fields, collisions) := catalog.recordField field name fields
          catalog.recordSteps rest fields (notes.extend collisions)

/-- The distinct members of a list, in the order of their first occurrence. -/
def distinct (names : List QualifiedName) : List QualifiedName :=
  names.foldl (fun seen q => if q ∈ seen then seen else seen ++ [q]) []

def subTypesOf (catalog : Catalog) (q : QualifiedName) : List QualifiedName :=
  ((catalog.find? q).map Decl.subTypes).getD []

/-- Merges a compound type with every version reachable through version references, adding notes
on discarded fields and skipped references to `notes`. -/
def merge (catalog : Catalog) (q : QualifiedName) (notes : Notes) :
    Except Fault (MergedSchema × Notes) :=
  match catalog.compound? q with
  | none => .error (.notACompound q)
  | some (style, _) => do
      let walk := catalog.walk q
      let (fields, notes) ← catalog.recordSteps walk.steps [] notes
      let subTypes := distinct (walk.entered.flatMap catalog.subTypesOf)
      return ({ name := q, style, fields, subTypes }, notes)

end Catalog

end HalBridge
