import HalBridge.Json.Printer
import HalBridge.Repository

/-!
# Sample documents

Release documents for small repositories, put together from JSON values. A type or declaration has
just the members that its kind needs.
-/

namespace HalBridge.Sample

/-- A type that needs nothing but its kind. -/
def plain (kind : String) : Json :=
  .obj [("kind", .str kind)]

def scalar (name : String) : Json :=
  .obj [("kind", .str "scalar"), ("scalar", .str name)]

def named (reference : String) : Json :=
  .obj [("kind", .str "named"), ("ref", .str reference)]

def vec (element : Json) : Json :=
  .obj [("kind", .str "vec"), ("element", element)]

/-- A declaration of some kind with members of its own. -/
def declaration (kind name : String) (members : Document.Members) : Json :=
  .obj (("name", .str name) :: ("kind", .str kind) :: members)

def fields (entries : List (String × Json)) : Json :=
  .arr (entries.map fun entry => .obj [("name", .str entry.1), ("type", entry.2)])

def struct (name : String) (entries : List (String × Json)) (subTypes : List Json := []) : Json :=
  declaration "struct" name [("fields", fields entries), ("sub_types", .arr subTypes)]

def interface (name : String) (subTypes : List Json := []) : Json :=
  declaration "interface" name [("sub_types", .arr subTypes)]

def typeAlias (name : String) (aliased : Json) : Json :=
  declaration "typedef" name [("aliased", aliased)]

def enum (name : String) (storage : Json) (values : List String) : Json :=
  declaration "enum" name [("storage", storage),
    ("values", .arr (values.map fun value => .obj [("name", .str value)]))]

/-- The text of a release document. -/
def document (package version : String) (types : List Json) : String :=
  (Json.obj [("package", .str package), ("version", .str version), ("types", .arr types)]).compact

/-- The file of a release in the root directory. -/
def release (package version : String) (types : List Json) : Place × Node :=
  ([package ++ "@" ++ version ++ ".json"], .file (document package version types))

/-- A repository with these files in its root directory. -/
def repository (files : List (Place × Node)) : Repository :=
  { disk := { nodes := files } }

end HalBridge.Sample
