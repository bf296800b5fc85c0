import HalBridge.Version

/-!
Qualified names `package@major.minor::Outer.Inner` of packages and of the types they declare.
-/

namespace HalBridge

/-- A package release, or a type in one. The name is empty for the release itself, and absent for
a type whose declaration gives none; the two are told apart as keys only. -/
structure QualifiedName where
  package : String
  version : Version
  name : Option String := some ""
  scope : List String := []
deriving DecidableEq

namespace QualifiedName

/-- The enclosing scopes and the type name itself; none if there is no name. -/
def names (q : QualifiedName) : List String :=
  match q.name with
  | none => []
  | some name => if name.isEmpty then [] else q.scope ++ [name]

def localName (q : QualifiedName) : String :=
  String.intercalate "." q.names

/-- Whether the name is that of a type. -/
def namesType (q : QualifiedName) : Bool :=
  match q.name with
  | none => false
  | some name => !name.isEmpty

/-- The release that a name belongs to. -/
def release (q : QualifiedName) : QualifiedName :=
  { package := q.package, version := q.version }

def withVersion (q : QualifiedName) (version : Version) : QualifiedName :=
  { q with version }

def up (q : QualifiedName) : QualifiedName :=
  q.withVersion q.version.up

def down? (q : QualifiedName) : Option QualifiedName :=
  q.version.down?.map q.withVersion

/-- The name of a type declared directly inside `q`. -/
def nested (q : QualifiedName) (name : Option String) : QualifiedName :=
  { package := q.package, version := q.version, name, scope := q.names }

/-- Whether both name the same type, in whatever versions. -/
def sameLineage (q r : QualifiedName) : Bool :=
  q.package = r.package && q.names = r.names

def toText (q : QualifiedName) : String :=
  q.package ++ "@" ++ q.version.toText ++ (if q.namesType then "::" ++ q.localName else "")

instance : ToString QualifiedName := ⟨toText⟩

end QualifiedName

end HalBridge
