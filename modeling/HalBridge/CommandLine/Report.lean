import HalBridge.Console.Table
import HalBridge.Conversion.Run
import HalBridge.Disk.Path
import HalBridge.Json.Printer

/-!
What the command line prints about a run. Names of fields, accesses and paths are printed as
marked-up text; everything else that comes from the input is escaped.
-/

namespace HalBridge.CommandLine

open Console

/-- The lines of a marked-up text. -/
def shown (text : String) : Except Fault (List String) :=
  (glyphs text).map shownLines

def column (header : String) (cells : List String) (justification : Justification) :
    Except Fault Column := do
  return { cells := ← (header :: cells).mapM glyphs, justification }

/-- The table of the fields of a type. -/
def fieldTable (catalog : Catalog) (fields : List Field) : Except Fault (List String) := do
  let names ← column "Field" (fields.map fun field => field.name.getD "") .left
  let types ← column "Type" (fields.map fun field => escape (catalog.typeText field.type)) .left
  let versions ← column "Version" (fields.map fun field => field.origin.toText) .right
  let accesses ← column "Access" (fields.map fun field => field.access.getD "") .left
  return tableLines [names, types, versions, accesses]

def typeLines (result : Conversion) (q : QualifiedName) : Except Fault (List String) := do
  let heading ← shown ("[bold cyan]" ++ escape q.toText ++ "[/bold cyan] [dim]"
    ++ result.catalog.keyword (.declared q) ++ " -> " ++ q.canonicalName ++ "[/dim]")
  let table ←
    match result.schemas.lookup q with
    | none => pure []
    | some schema => fieldTable result.catalog schema.fields
  return heading ++ table ++ [""]

def noteLines (note : Note) : Except Fault (List String) :=
  shown ("[dim]" ++ note.kind.toText ++ "[/dim] " ++ escape note.message)

/-- The report on all types and notes of a run. -/
def plainReport (result : Conversion) : Except Fault (List String) := do
  let types ← result.types.mapM (typeLines result)
  let notes ← result.notes.entries.mapM noteLines
  return types.flatten ++ (if notes.isEmpty then [] else "Notes" :: notes.flatten)

def textJson (text : Option String) : Json :=
  (text.map Json.str).getD .null

def fieldJson (catalog : Catalog) (field : Field) : Json :=
  .obj [("name", textJson field.name), ("type", .str (catalog.typeText field.type)),
    ("version", .str field.origin.toText), ("access", textJson field.access)]

def typeJson (result : Conversion) (q : QualifiedName) : Json :=
  let fields :=
    match result.schemas.lookup q with
    | none => []
    | some schema => [("fields", .arr (schema.fields.map (fieldJson result.catalog)))]
  .obj ([("aidl", .str q.canonicalName),
    ("kind", .str (result.catalog.keyword (.declared q)))] ++ fields)

def noteJson (note : Note) : Json :=
  .obj [("kind", .str note.kind.toText), ("message", .str note.message)]

/-- The report as a JSON value; of types with the same text the last one counts. -/
def jsonReport (result : Conversion) : Json :=
  let types := result.types.foldl
    (fun members q => Json.setMember q.toText (typeJson result q) members) []
  .obj [("package", .str result.name.toText), ("types", .obj types),
    ("notes", .arr (result.notes.entries.map noteJson))]

/-- The report on a conversion whose files were written to these paths. -/
def convertReport (result : Conversion) (paths : List Path) : Except Fault (List String) := do
  let rows ← paths.mapM fun path => glyphs path.toText
  let summary ←
    if result.notes.size = 0 then shown "[green]Converted without notes.[/green]"
    else
      let count := toString result.notes.size
        ++ (if result.notes.size = 1 then " note" else " notes")
      let log := (paths.getLast?.map Path.toText).getD ""
      shown ("[yellow]" ++ count ++ "[/yellow] written to " ++ escape log
        ++ ", review them before using the output.")
  return tableLines [{ cells := rows }] ++ summary

end HalBridge.CommandLine
