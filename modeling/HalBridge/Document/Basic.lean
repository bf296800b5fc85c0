/-!
Release documents: the declarations of one package version as its front end wrote them, with
references still given as texts. A null is kept as an absent value wherever it stands, also as an
entry of a list.
-/

namespace HalBridge

/-- The size of an array. A document may give a truth value, which counts as 1 or 0. -/
inductive ArraySize where
  | count (value : Int)
  | flag (value : Bool)
deriving DecidableEq

namespace ArraySize

def value : ArraySize → Int
  | .count n => n
  | .flag b => if b then 1 else 0

def toText : ArraySize → String
  | .count n => toString n
  | .flag b => if b then "True" else "False"

end ArraySize

namespace Document

/-- A type as written: `kind` says which of the other parts matter. -/
structure TypeRef where
  kind : Option String
  scalar : Option String
  ref : Option String
  element : Option TypeRef
  size : Option ArraySize

structure FieldDef where
  name : Option String
  type : Option TypeRef
  comment : Option String

/-- An enumerator; without a value it continues from the one before. -/
structure EnumValueDef where
  name : Option String
  value : Option String
  comment : Option String

/-- The declaration of a named type. -/
structure TypeDef where
  name : Option String
  kind : Option String
  fields : Option (List (Option FieldDef))
  subTypes : Option (List (Option TypeDef))
  storage : Option TypeRef
  values : Option (List (Option EnumValueDef))
  aliased : Option TypeRef
  comment : Option String

/-- All declarations of one package version. -/
structure Release where
  package : Option String
  version : Option String
  types : Option (List (Option TypeDef))
  unhandledComments : Option (List String)

end Document

end HalBridge
