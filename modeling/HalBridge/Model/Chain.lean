import HalBridge.Fault
import HalBridge.Model.Catalog

/-!
Chains of typedefs and of parent enums. A chain is followed until it ends or comes back to a
member it has passed.
-/

namespace HalBridge

/-- The members of a chain in the order they are passed, and the one it comes back to if it does
not end. -/
structure Chain where
  path : List QualifiedName
  repeated : Option QualifiedName

namespace Chain

/-- Follows `next` from `current`, which comes after `path`, for at most `bound` further steps. -/
def followFrom (next : QualifiedName → Option QualifiedName) :
    Nat → List QualifiedName → QualifiedName → Chain
  | bound, path, current =>
      if current ∈ path then ⟨path, some current⟩
      else
        match next current, bound with
        | none, _ => ⟨path ++ [current], none⟩
        | some _, 0 => ⟨path ++ [current], some current⟩
        | some following, bound + 1 => followFrom next bound (path ++ [current]) following

/-- Follows `next` from `start` for at most `bound` steps. -/
def follow (next : QualifiedName → Option QualifiedName) (bound : Nat) (start : QualifiedName) :
    Chain :=
  followFrom next bound [] start

end Chain

namespace Catalog

/-- What a typedef stands for. -/
def aliased? (catalog : Catalog) (q : QualifiedName) : Option Ty :=
  match (catalog.find? q).map Decl.body with
  | some (.typedef aliased) => some aliased
  | _ => none

def isTypedef (catalog : Catalog) (q : QualifiedName) : Bool :=
  (catalog.aliased? q).isSome

/-- The typedef that a type refers to. -/
def typedefOf? (catalog : Catalog) : Ty → Option QualifiedName
  | .named (.declared q) => if catalog.isTypedef q then some q else none
  | _ => none

/-- The typedefs from `q` on; every step needs a declaration, so their number bounds it. -/
def typedefChain (catalog : Catalog) (q : QualifiedName) : Chain :=
  Chain.follow (fun q => (catalog.aliased? q).bind catalog.typedefOf?) catalog.decls.length q

/-- The type that a chain of typedefs stands for. -/
def resolveAlias (catalog : Catalog) (type : Ty) : Except ChainError Ty :=
  match catalog.typedefOf? type with
  | none => .ok type
  | some q =>
      let chain := catalog.typedefChain q
      match chain.repeated with
      | some again => .error (.typedefCycle again)
      | none => .ok ((chain.path.getLast?.bind catalog.aliased?).getD type)

/-- The storage of an enum: a scalar, or the enum that it extends. -/
def storage? (catalog : Catalog) (q : QualifiedName) : Option Ty :=
  match (catalog.find? q).map Decl.body with
  | some (.enum storage _) => some storage
  | _ => none

def isEnum (catalog : Catalog) (q : QualifiedName) : Bool :=
  (catalog.storage? q).isSome

def enumOf? (catalog : Catalog) : Ty → Option QualifiedName
  | .named (.declared q) => if catalog.isEnum q then some q else none
  | _ => none

def parentEnum? (catalog : Catalog) (q : QualifiedName) : Option QualifiedName :=
  (catalog.storage? q).bind catalog.enumOf?

/-- An enum and the enums that it extends, nearest first. -/
def enumChain (catalog : Catalog) (q : QualifiedName) : Chain :=
  Chain.follow catalog.parentEnum? catalog.decls.length q

/-- The scalar at the end of a chain of enums. -/
def enumScalar (catalog : Catalog) (q : QualifiedName) : Except ChainError Scalar :=
  let chain := catalog.enumChain q
  match chain.repeated with
  | some _ => .error (.enumCycle q)
  | none =>
      match chain.path.getLast?.bind catalog.storage? with
      | some (.scalar scalar) => .ok scalar
      | _ => .error (.enumWithoutScalar q)

def ownValues (catalog : Catalog) (q : QualifiedName) : List EnumValue :=
  match (catalog.find? q).map Decl.body with
  | some (.enum _ values) => values
  | _ => []

/-- The values of the enums that an enum extends, the farthest first, then its own. -/
def valuesFromRoot (catalog : Catalog) (q : QualifiedName) : List EnumValue :=
  (catalog.enumChain q).path.reverse.flatMap catalog.ownValues

end Catalog

end HalBridge
