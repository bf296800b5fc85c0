import HalBridge.Resolver.Reference

/-!
Loading releases. A release that another one refers to is loaded on demand, if it exists; a name
that no release declares is external.
-/

namespace HalBridge.Resolver

/-- The type of a name, with `load` for loading the release that it belongs to. -/
def lookupWith (load : QualifiedName → Loading Unit) (q : QualifiedName) : Loading Ref := do
  if (← get).catalog.contains q then return .declared q
  let resolver ← get
  if resolver.isLoaded q.release then return .external q
  match resolver.repository.holds q.release with
  | .error fault => throw fault
  | .ok false => return .external q
  | .ok true =>
      load q.release
      return (← get).catalog.ref q

/-- Checks that the chain which starts at a typedef or an enum ends. -/
def checkChain (catalog : Catalog) (q : QualifiedName) : Except ChainError Unit :=
  if catalog.isTypedef q then
    (catalog.resolveAlias (.named (.declared q))).map fun _ => ()
  else if catalog.isEnum q then (catalog.enumScalar q).map fun _ => ()
  else .ok ()

def checkChains (catalog : Catalog) : List QualifiedName → Except ChainError Unit
  | [] => .ok ()
  | q :: rest => do
      checkChain catalog q
      checkChains catalog rest

/-- Checks all chains that are still unchecked, once no release is being resolved. -/
def checkUnchecked : Loading Unit := do
  let resolver ← get
  if resolver.resolving = 0 then
    set { resolver with unchecked := [] }
    if let .error chain := checkChains resolver.catalog resolver.unchecked then
      throw (.input (.endlessChain chain))

/-- Loads a release, with `load` for loading the releases that it refers to, and returns its
top-level types. -/
def loadWith (load : QualifiedName → Loading Unit) (key : QualifiedName) :
    Loading (List QualifiedName) := do
  if let some roots := (← get).roots.lookup key then return roots
  let release ← document key
  match release.types with
  | none => throw .absentList
  | some definitions =>
      let (roots, pending) ← declareAll key [] definitions
      modify fun resolver => { resolver with roots := resolver.roots ++ [(key, roots)] }
      whileResolving (resolvePending (lookupWith load) pending)
      modify fun resolver =>
        { resolver with unchecked := resolver.unchecked ++ pending.map Prod.fst }
      checkUnchecked
      return roots

/-- Loads a release and, at most `depth` deep, the releases that it refers to. -/
def loadAt : Nat → QualifiedName → Loading (List QualifiedName)
  | 0 => loadWith fun _ => pure ()
  | depth + 1 => loadWith fun key => do
      let _ ← loadAt depth key

/-- Loads the release that a name belongs to. Each release loaded on demand has a file of its own,
so the number of places on the disk bounds the depth. -/
def loadRelease (q : QualifiedName) : Loading (List QualifiedName) := do
  loadAt (← get).repository.disk.size q.release

/-- The type of a name, loading its release if need be. -/
def lookup (q : QualifiedName) : Loading Ref :=
  lookupWith (fun key => do let _ ← loadRelease key) q

end HalBridge.Resolver
