import HalBridge.Model.Catalog
import HalBridge.Repository

/-!
The state in which releases are resolved. A failing step keeps what was done before it, since later
steps see it.
-/

namespace HalBridge

/-- The releases loaded so far. `roots` holds the top-level types of each release whose types are
all declared; `resolving` counts the releases whose references are being resolved, and `unchecked`
holds the types whose chains are still to be checked for cycles. -/
structure Resolver where
  repository : Repository
  catalog : Catalog := {}
  roots : List (QualifiedName × List QualifiedName) := []
  resolving : Nat := 0
  unchecked : List QualifiedName := []

abbrev Loading := EStateM Fault Resolver

namespace Resolver

def isLoaded (resolver : Resolver) (key : QualifiedName) : Bool :=
  (resolver.roots.lookup key).isSome

def modifyCatalog (change : Catalog → Catalog) : Loading Unit :=
  modify fun resolver => { resolver with catalog := change resolver.catalog }

/-- Reads the document of a release. -/
def document (key : QualifiedName) : Loading Document.Release := fun resolver =>
  match resolver.repository.load key with
  | (.ok release, repository) => .ok release { resolver with repository }
  | (.error fault, repository) => .error fault { resolver with repository }

/-- Runs an action as one more release being resolved, whatever its outcome. -/
def whileResolving (action : Loading Unit) : Loading Unit := fun resolver =>
  match action { resolver with resolving := resolver.resolving + 1 } with
  | .ok () resolver => .ok () { resolver with resolving := resolver.resolving - 1 }
  | .error fault resolver => .error fault { resolver with resolving := resolver.resolving - 1 }

end Resolver

end HalBridge
