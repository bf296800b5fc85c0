import HalBridge.Aidl.Emission
import HalBridge.Conversion.Collection
import HalBridge.Converter.Source
import HalBridge.FileSet

/-!
A conversion run for one package: it loads every minor release of the package, keeps the newest
declaration of each type, and generates the AIDL definitions, the converter code for all targets
and the log. Nothing is written to disk.
-/

namespace HalBridge

/-- The result of a run. -/
structure Conversion where
  name : QualifiedName
  catalog : Catalog
  types : List QualifiedName
  schemas : List (QualifiedName × MergedSchema)
  notes : Notes
  files : FileSet

namespace Catalog

/-- Merges a type and leaves the notes of the merge. -/
def mergeNoting (catalog : Catalog) (q : QualifiedName) : Noting MergedSchema := do
  match catalog.merge q (← get) with
  | .error fault => throw fault
  | .ok (schema, notes) =>
      set notes
      return schema

/-- The merged schemas of the compounds among these types. -/
def mergeAll (catalog : Catalog) :
    List QualifiedName → Noting (List (QualifiedName × MergedSchema))
  | [] => return []
  | q :: rest => do
      if (catalog.compound? q).isSome then
        let schema ← catalog.mergeNoting q
        let others ← catalog.mergeAll rest
        return (q, schema) :: others
      else catalog.mergeAll rest

/-- The AIDL file of each type. -/
def aidlFiles (catalog : Catalog) (registry : Registry)
    (schemas : List (QualifiedName × MergedSchema)) :
    List QualifiedName → Noting (List (String × String))
  | [] => return []
  | q :: rest => do
      let definition ← Aidl.definition catalog registry (.declared q) (schemas.lookup q)
      let others ← catalog.aidlFiles registry schemas rest
      return (Aidl.filePath q, definition.text) :: others

/-- Whether converter code deals with a type. -/
def isConvertible (catalog : Catalog) (q : QualifiedName) : Bool :=
  (catalog.compound? q).isSome || catalog.isEnum q

/-- The converter files of each target. -/
def targetFiles (catalog : Catalog) (q : QualifiedName) (types : List Ref)
    (schemas : List (QualifiedName × MergedSchema)) (registry : Registry) :
    List Target → Noting (List (String × String))
  | [] => return []
  | target :: rest => do
      let files ← catalog.converterFiles target q types schemas registry
      let others ← catalog.targetFiles q types schemas registry rest
      return files ++ others

/-- Generates all files but the log for the types of a run. -/
def generate (catalog : Catalog) (registry : Registry) (q : QualifiedName)
    (types : List QualifiedName) :
    Noting (List (QualifiedName × MergedSchema) × List (String × String)) := do
  let schemas ← catalog.mergeAll types
  let definitions ← catalog.aidlFiles registry schemas types
  let convertible := (types.filter catalog.isConvertible).map Ref.declared
  let sources ← catalog.targetFiles q convertible schemas registry Target.all
  return (schemas, definitions ++ sources)

end Catalog

namespace Conversion

def logFile : String := "conversion.log"

def logTitle (q : QualifiedName) : String :=
  s!"Notes relating to hidl2aidl conversion of {q} to " ++ q.canonicalPackage
    ++ " (if any) follow:"

/-- The comments that the front end could not attach to any declaration, as notes. -/
def commentNotes : List QualifiedName → Notes → Loading Notes
  | [], notes => return notes
  | release :: rest, notes => do
      let document ← Resolver.document release
      match document.unhandledComments with
      | none => throw .absentList
      | some comments =>
          let added := comments.map fun comment => ⟨.unhandledComments, comment⟩
          commentNotes rest (notes.extend added)

/-- Converts a package from the documents of these releases. -/
def convert (q : QualifiedName) (releases : List QualifiedName) (registry : Registry) :
    Loading Conversion := do
  let notes ← commentNotes releases {}
  let types ← Resolver.collectTypes releases
  let catalog := (← get).catalog
  match (catalog.generate registry q types).run notes with
  | .error fault _ => throw fault
  | .ok (schemas, files) notes =>
      let files := (({} : FileSet).putAll files).put logFile (notes.log (logTitle q))
      return { name := q, catalog, types, schemas, notes, files }

/-- Converts the package that a request names, with a resolver that has loaded nothing yet. -/
def run (request : String) (force : Bool) (registry : Registry) : Loading Conversion := do
  let repository := (← get).repository
  match repository.checkRequest request force with
  | .error fault => throw fault
  | .ok q =>
      match repository.covered q with
      | .error fault => throw fault
      | .ok releases => convert q releases registry

end Conversion

end HalBridge
