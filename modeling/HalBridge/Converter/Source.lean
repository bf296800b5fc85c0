import HalBridge.Aidl.Definition
import HalBridge.Converter.Function
import HalBridge.Model.Chain
import HalBridge.Text.Order

/-!
The generated source files of one target: a header with the declarations of all functions, if the
target has headers, and a source file with their definitions.
-/

namespace HalBridge

namespace Converter

/-- The text of a header with the functions that are not stubs. -/
def headerText (includes : List String) (functions : List ConverterFunction) : String :=
  let declarations :=
    (functions.filter fun function => !function.isStub).map fun function =>
      function.signature ++ ";\n"
  licenseLine ++ "\n#pragma once\n\n" ++ String.join (includes.map (· ++ "\n"))
    ++ "namespace android::h2a \x7b\n\n" ++ String.join declarations
    ++ "\x7d  // namespace android::h2a\n"

/-- The text of a C++ source, with the checks of enumerators before the functions. -/
def cppText (header : String) (asserts : List String) (functions : List ConverterFunction) :
    String :=
  licenseLine ++ "\n#include \"" ++ header ++ "\"\n\nnamespace android::h2a \x7b\n\n"
    ++ String.join (asserts.map (· ++ "\n"))
    ++ String.join (functions.map fun function => function.text ++ "\n")
    ++ "\x7d  // namespace android::h2a\n"

/-- The text of a Java source, which leaves out stubs. -/
def javaText (package : String) (functions : List ConverterFunction) : String :=
  let methods :=
    (functions.filter fun function => !function.isStub).map fun function =>
      Text.indentBlock function.text ++ "\n"
  licenseLine ++ "\npackage " ++ package ++ ";\n\npublic class Translate \x7b\n"
    ++ String.join methods ++ "\x7d\n"

end Converter

namespace Catalog

/-- Groups types by AIDL package, keeping their order inside each package. -/
def byPackage (types : List Ref) : List Ref :=
  Text.sortBy (·.name.canonicalPackage) types

def interfaceName? (catalog : Catalog) (ref : Ref) : Option (Option String) :=
  ((catalog.decl? ref).bind catalog.enclosingInterface?).map (·.name.name)

/-- The includes that a header needs for these types. -/
def includes (catalog : Catalog) (target : Target) (types : List Ref) : List String :=
  Text.sortedDistinct (types.flatMap fun ref =>
    [target.canonicalInclude ref.name,
     Target.legacyInclude ref.name (catalog.interfaceName? ref)])

/-- The checks of all enumerators of the enums among these types. -/
def enumAsserts (catalog : Catalog) (target : Target) (types : List Ref) : List String :=
  types.flatMap fun ref =>
    if (catalog.enumOf? (.named ref)).isSome then
      (catalog.valuesFromRoot ref.name).map fun value =>
        target.enumAssert ref.name (Text.orNone value.name)
    else []

/-- The functions for those of the types that have a merged schema. -/
def emitFunctions (catalog : Catalog) (target : Target) (converted : QualifiedName → Bool)
    (schemas : List (QualifiedName × MergedSchema)) (registry : Registry) :
    List Ref → Noting (List ConverterFunction)
  | [] => return []
  | ref :: rest =>
      match schemas.lookup ref.name with
      | none => catalog.emitFunctions target converted schemas registry rest
      | some schema => do
          let function ← catalog.emitFunction target converted registry schema
          let others ← catalog.emitFunctions target converted schemas registry rest
          return function :: others

/-- The files of one target for the package of `q`: the functions for `types`, each of which may
call the others. -/
def converterFiles (catalog : Catalog) (target : Target) (q : QualifiedName) (types : List Ref)
    (schemas : List (QualifiedName × MergedSchema)) (registry : Registry) :
    Noting (List (String × String)) := do
  let converted (q : QualifiedName) : Bool := types.any (·.name = q)
  let types := byPackage types
  let functions ← catalog.emitFunctions target converted schemas registry types
  match target.headerFile? q with
  | some header =>
      return [
        ("include/" ++ header, Converter.headerText (catalog.includes target types) functions),
        (target.sourceFile q,
          Converter.cppText header (catalog.enumAsserts target types) functions)]
  | none => return [(target.sourceFile q, Converter.javaText q.canonicalPackage functions)]

end Catalog

end HalBridge
