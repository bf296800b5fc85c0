import HalBridge.Merge
import HalBridge.Resolver.Loading

/-!
Collecting the types of a run: the newest declaration of every type that the releases declare,
directly, nested, or nested in an older version that is merged into a newer one.
-/

namespace HalBridge

/-- What the versions of a type under one major version have in common. -/
structure Lineage where
  package : String
  major : Nat
  names : List String
deriving DecidableEq

def QualifiedName.lineage (q : QualifiedName) : Lineage :=
  { package := q.package, major := q.version.major, names := q.names }

/-- The types seen so far and, in the order of first sight, the newest of each lineage. -/
structure Collection where
  seen : List QualifiedName := []
  newest : List (Lineage × QualifiedName) := []

namespace Collection

/-- Takes a type as the newest of its lineage unless a newer one is known. -/
def choose (q : QualifiedName) : List (Lineage × QualifiedName) → List (Lineage × QualifiedName)
  | [] => [(q.lineage, q)]
  | (lineage, current) :: rest =>
      if lineage = q.lineage then
        if current.version ≤ q.version then (lineage, q) :: rest else (lineage, current) :: rest
      else (lineage, current) :: choose q rest

def visit (collection : Collection) (q : QualifiedName) : Collection :=
  { seen := q :: collection.seen, newest := choose q collection.newest }

end Collection

namespace Catalog

/-- The types nested in `q`, and for a compound those nested in the versions merged into it. -/
def nestedTypes (catalog : Catalog) (q : QualifiedName) : Except Fault (List QualifiedName) :=
  let own := catalog.subTypesOf q
  match catalog.compound? q with
  | none => .ok own
  | some _ =>
      (catalog.merge q {}).map fun (schema, _) =>
        own ++ schema.subTypes.filter fun nested => !own.contains nested

/-- Visits `q` and what is nested in it, at most `depth` levels deep, in order of declaration. -/
def collectAt (catalog : Catalog) :
    Nat → QualifiedName → Collection → Except Fault Collection
  | 0, _, collection => .ok collection
  | depth + 1, q, collection =>
      if q ∈ collection.seen then .ok collection
      else do
        let nested ← catalog.nestedTypes q
        nested.foldlM (fun collection q => catalog.collectAt depth q collection)
          (collection.visit q)

/-- Visits each of the types; none is visited twice, so the declarations bound the depth. -/
def collectFrom (catalog : Catalog) (roots : List QualifiedName) (collection : Collection) :
    Except Fault Collection :=
  roots.foldlM (fun collection q => catalog.collectAt catalog.decls.length q collection)
    collection

/-- The collected types; interfaces are scopes only and are left out. -/
def chosenTypes (catalog : Catalog) (collection : Collection) : List QualifiedName :=
  (collection.newest.map Prod.snd).filter fun q =>
    !((catalog.find? q).any Decl.isInterface)

end Catalog

namespace Resolver

/-- Loads releases in turn and collects from each. -/
def collectReleases : List QualifiedName → Collection → Loading Collection
  | [], collection => return collection
  | release :: rest, collection => do
      let roots ← loadRelease release
      match (← get).catalog.collectFrom roots collection with
      | .error fault => throw fault
      | .ok collection => collectReleases rest collection

/-- The newest declaration of every type reachable from the releases, in first-seen order. -/
def collectTypes (releases : List QualifiedName) : Loading (List QualifiedName) := do
  let collection ← collectReleases releases {}
  return (← get).catalog.chosenTypes collection

end Resolver

end HalBridge
