import HalBridge.Model.Type

/-!
Declarations of named types and the catalogue that holds them in the order of declaration.
-/

namespace HalBridge

inductive CompoundStyle where
  | struct
  | union
  | safeUnion
deriving DecidableEq

def CompoundStyle.toText : CompoundStyle → String
  | .struct => "struct"
  | .union => "union"
  | .safeUnion => "safe_union"

/-- A field of a compound type. `access` is the path that reaches the field from a value of the
newest version: its own name where it is declared, a longer path after merging. -/
structure Field where
  name : Option String
  type : Ty
  owner : QualifiedName
  origin : Version
  access : Option String
  comment : Option String

structure EnumValue where
  name : Option String
  value : Option String
  comment : Option String

/-- What a declaration declares. -/
inductive Body where
  | compound (style : CompoundStyle) (fields : List Field)
  | enum (storage : Ty) (values : List EnumValue)
  | typedef (aliased : Ty)
  | interface

def Body.keyword : Body → String
  | .compound style _ => style.toText
  | .enum _ _ => "enum"
  | .typedef _ => "typedef"
  | .interface => "interface"

/-- The declaration of a named type. `scopes` are the declarations around it, innermost first. -/
structure Decl where
  name : QualifiedName
  comment : Option String
  scopes : List QualifiedName
  subTypes : List QualifiedName
  body : Body

namespace Decl

def parent (decl : Decl) : Option QualifiedName :=
  decl.scopes.head?

def keyword (decl : Decl) : String :=
  decl.body.keyword

def isInterface (decl : Decl) : Bool :=
  match decl.body with
  | .interface => true
  | _ => false

end Decl

/-- The declarations known so far. -/
structure Catalog where
  decls : List Decl := []

namespace Catalog

def find? (catalog : Catalog) (q : QualifiedName) : Option Decl :=
  catalog.decls.find? (·.name = q)

def contains (catalog : Catalog) (q : QualifiedName) : Bool :=
  (catalog.find? q).isSome

def add (catalog : Catalog) (decl : Decl) : Catalog :=
  ⟨catalog.decls ++ [decl]⟩

/-- Changes the declaration of `q`. -/
def update (catalog : Catalog) (q : QualifiedName) (change : Decl → Decl) : Catalog :=
  ⟨catalog.decls.map fun decl => if decl.name = q then change decl else decl⟩

/-- The declaration that a reference leads to. -/
def decl? (catalog : Catalog) : Ref → Option Decl
  | .declared q => catalog.find? q
  | .external _ => none

/-- The reference to a name: declared if the catalogue has it. -/
def ref (catalog : Catalog) (q : QualifiedName) : Ref :=
  if catalog.contains q then .declared q else .external q

def keyword (catalog : Catalog) (ref : Ref) : String :=
  ((catalog.decl? ref).map Decl.keyword).getD "type"

/-- The keyword and the local name of a named type. -/
def refText (catalog : Catalog) (ref : Ref) : String :=
  catalog.keyword ref ++ " " ++ ref.name.localName

/-- The text of a type in notes and reports. -/
def typeText (catalog : Catalog) : Ty → String
  | .scalar scalar => scalar.toText
  | .string => "string"
  | .vec element => "vec<" ++ catalog.typeText element ++ ">"
  | .array element size => catalog.typeText element ++ "[" ++ size.toText ++ "]"
  | .special special => special.toText
  | .named ref => catalog.refText ref

/-- The innermost interface around a declaration. -/
def enclosingInterface? (catalog : Catalog) (decl : Decl) : Option Decl :=
  decl.scopes.findSome? fun scope => (catalog.find? scope).filter Decl.isInterface

end Catalog

end HalBridge
