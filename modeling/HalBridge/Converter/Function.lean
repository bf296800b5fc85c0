import HalBridge.Converter.Plan
import HalBridge.Merge

/-!
Converter functions: one for each merged compound type, with a block for each field. A union
without a discriminator gets a stub only.
-/

namespace HalBridge

/-- A field with what is done about it. -/
structure FieldBlock where
  field : Field
  plan : FieldPlan

/-- The function that converts values of one type; without blocks it is a stub. -/
structure ConverterFunction where
  target : Target
  type : QualifiedName
  access : Access
  blocks : Option (List FieldBlock)

namespace FieldBlock

def name (block : FieldBlock) : String :=
  Text.orNone block.field.name

def note? (block : FieldBlock) (owner : QualifiedName) : Option Note :=
  block.plan.note? owner block.name

def lines (block : FieldBlock) (target : Target) (access : Access) (owner : QualifiedName) :
    List String :=
  block.plan.lines target access owner (access.read (Text.orNone block.field.access)) block.name

/-- The case for a field of a safe union. -/
def caseLines (block : FieldBlock) (target : Target) (owner : QualifiedName) : List String :=
  [Text.indentation ++ target.caseLabel owner block.name]
    ++ Text.indentLines (Text.indentLines (block.lines target .accessor owner))
    ++ [Text.indentation ++ Text.indentation ++ "break;"]

end FieldBlock

namespace ConverterFunction

def isStub (function : ConverterFunction) : Bool :=
  function.blocks.isNone

def signature (function : ConverterFunction) : String :=
  function.target.signature function.type

/-- The body of a function with these blocks. -/
def bodyLines (target : Target) (type : QualifiedName) (access : Access)
    (blocks : List FieldBlock) : List String :=
  match access with
  | .member =>
      target.prologue type ++ blocks.flatMap (·.lines target .member type) ++ [target.epilogue]
  | .accessor =>
      target.prologue type ++ [Target.switchOpen] ++ blocks.flatMap (·.caseLines target type)
        ++ Text.indentLines target.defaultCase ++ ["\x7d", target.epilogue]

def body? (function : ConverterFunction) : Option (List String) :=
  function.blocks.map (bodyLines function.target function.type function.access)

def stubNote (type : QualifiedName) : Note :=
  ⟨.unsupported, "Cannot translate union " ++ type.toText ++ ": without a discriminator no field "
    ++ "can be chosen safely. Fill out the translate function by hand."⟩

/-- What is to be reported about a function, each note once. -/
def notes (function : ConverterFunction) : List Note :=
  match function.blocks with
  | none => [stubNote function.type]
  | some blocks =>
      (({} : Notes).extend (blocks.filterMap (·.note? function.type))).entries

def text (function : ConverterFunction) : String :=
  match function.body? with
  | none =>
      "// FIXME not enough information to safely convert. Remove this function or "
        ++ "fill it out using the custom discriminators.\n// " ++ function.signature ++ "\n"
  | some body =>
      Text.joinLines ((function.signature ++ " \x7b") :: Text.indentLines body ++ ["\x7d"])
        ++ "\n"

end ConverterFunction

namespace Catalog

def fieldBlock (catalog : Catalog) (converted : QualifiedName → Bool) (registry : Registry)
    (field : Field) : Except Fault FieldBlock :=
  (catalog.describe field.type).map fun descriptor =>
    { field, plan := FieldPlan.of converted registry descriptor }

/-- The function that converts values of a merged type. -/
def converterFunction (catalog : Catalog) (target : Target) (converted : QualifiedName → Bool)
    (registry : Registry) (schema : MergedSchema) : Except Fault ConverterFunction :=
  match schema.style with
  | .union => .ok { target, type := schema.name, access := .member, blocks := none }
  | .struct =>
      (schema.fields.mapM (catalog.fieldBlock converted registry)).map fun blocks =>
        { target, type := schema.name, access := .member, blocks := some blocks }
  | .safeUnion =>
      (schema.fields.mapM (catalog.fieldBlock converted registry)).map fun blocks =>
        { target, type := schema.name, access := .accessor, blocks := some blocks }

/-- Generates a function and leaves its notes. -/
def emitFunction (catalog : Catalog) (target : Target) (converted : QualifiedName → Bool)
    (registry : Registry) (schema : MergedSchema) : Noting ConverterFunction := do
  match catalog.converterFunction target converted registry schema with
  | .error fault => throw fault
  | .ok function =>
      modify (·.extend function.notes)
      return function

end Catalog

end HalBridge
