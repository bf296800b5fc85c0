import HalBridge.Converter.Write
import HalBridge.Model.Catalog
import HalBridge.Note
import HalBridge.Replacement

/-!
Plans: what is done with one field. A plan does not depend on the target; a field that cannot be
converted is marked in the code and reported with a note.
-/

namespace HalBridge

inductive FieldPlan where
  | unhandled (special : Special)
  | plainUnion (type : QualifiedName)
  | unknownType (type : QualifiedName)
  | nestedContainer
  | compoundElements (label : String)
  | snippet (lines : List String)
  | call (type : QualifiedName)
  | copy (atom : Atom)
  | fill (fixed : Bool) (element : Atom)

namespace FieldPlan

/-- The plan for a named type that has a discriminator or needs none. -/
def ofNamed (converted : QualifiedName → Bool) (registry : Registry) (q : QualifiedName) :
    FieldPlan :=
  if converted q then .call q
  else
    match registry.lookup q with
    | some entry => .snippet entry.lines
    | none => .unknownType q

def ofElement (fixed : Bool) (element : Descriptor) : FieldPlan :=
  match element.atom? with
  | some atom => .fill fixed atom
  | none => if element.isContainer then .nestedContainer else .compoundElements element.label

/-- The plan for a field. `converted` tells which types have a function of their own. -/
def of (converted : QualifiedName → Bool) (registry : Registry) : Descriptor → FieldPlan
  | .record q _ => ofNamed converted registry q
  | .union q safe _ => if safe then ofNamed converted registry q else .plainUnion q
  | .sequence element _ => ofElement false element
  | .fixedArray element _ _ => ofElement true element
  | .scalar s => .copy (.scalar s)
  | .enum q backing _ => .copy (.enum q backing)
  | .string => .copy .string
  | .unsupported s => .unhandled s

/-- The line that keeps the code from compiling until the field is converted by hand. -/
def marker? (plan : FieldPlan) (name : String) : Option String :=
  match plan with
  | .unhandled special => some ("#error FIXME Unhandled type: " ++ special.toText)
  | .plainUnion q =>
      some ("#error FIXME Cannot translate union without discriminator: " ++ q.toText)
  | .unknownType q => some ("#error FIXME Unknown type: " ++ q.toText)
  | .nestedContainer =>
      some ("#error Nested arrays and vectors are currently not supported. Needs "
        ++ "implementation for field: " ++ name)
  | .compoundElements _ =>
      some ("#error Arrays of NamedTypes are not currently supported. Needs "
        ++ "implementation for field: " ++ name)
  | _ => none

/-- The note on a field `name` of `owner` that is not converted. -/
def note? (plan : FieldPlan) (owner : QualifiedName) (name : String) : Option Note :=
  match plan with
  | .unhandled special =>
      some ⟨.unsupported, "An unhandled type was found in translation: " ++ special.toText
        ++ " (field \"" ++ name ++ "\" of " ++ owner.toText ++ ")"⟩
  | .plainUnion q =>
      some ⟨.unsupported, "Field \"" ++ name ++ "\" of " ++ owner.toText ++ " is the union "
        ++ q.toText ++ ", which has no discriminator and cannot be translated."⟩
  | .unknownType q =>
      some ⟨.unknownType, "An unknown named type was found in translation: " ++ q.toText
        ++ " (field \"" ++ name ++ "\" of " ++ owner.toText ++ ")"⟩
  | .nestedContainer =>
      some ⟨.unsupported, "Nested arrays and vectors are not supported for field \"" ++ name
        ++ "\" of " ++ owner.toText ++ "."⟩
  | .compoundElements label =>
      some ⟨.unsupported, "Arrays of " ++ label ++ " are not supported for field \"" ++ name
        ++ "\" of " ++ owner.toText ++ "."⟩
  | _ => none

/-- The lines that convert the field `name` of `owner`, which `source` reads. -/
def lines (plan : FieldPlan) (target : Target) (access : Access) (owner : QualifiedName)
    (source name : String) : List String :=
  match plan with
  | .snippet lines => lines
  | .call type => target.call access owner type source name
  | .copy atom =>
      let transfer := Transfer.of target atom source
      transfer.preparation target ++ [target.assign access owner name transfer.value]
  | .fill fixed element =>
      let read := (target.elementRead fixed (some element)).apply source
      let transfer := Transfer.of target element read
      target.loop source fixed (target.elementType element) (transfer.preparation target)
        transfer.value (target.sink access owner name)
  | plan => (plan.marker? name).toList

end FieldPlan

end HalBridge
