import HalBridge.Converter.Transfer
import HalBridge.Text.UpperCase

/-!
Writing converted values: into a member of the result, through the setter of a union, and element
by element into a container.
-/

namespace HalBridge

/-- How the fields of a value are reached: as members of a struct, or by the accessors and setters
of a safe union. -/
inductive Access where
  | member
  | accessor
deriving DecidableEq

/-- The expression that reads the field at a path. -/
def Access.read (access : Access) (path : String) : String :=
  match access with
  | .member => "in." ++ path
  | .accessor => "in." ++ path ++ "()"

namespace Target

def fieldRef (target : Target) (name : String) : String :=
  match target with
  | .ndk | .cpp => "out->" ++ name
  | .java => "out." ++ name

def move (target : Target) (expr : String) : String :=
  match target with
  | .ndk | .cpp => "std::move(" ++ expr ++ ")"
  | .java => expr

def assignField (target : Target) (name value : String) : String :=
  target.fieldRef name ++ " = " ++ value ++ ";"

/-- Sets the field `name` of a union. -/
def assignUnion (target : Target) (union : QualifiedName) (name value : String) : String :=
  match target with
  | .ndk | .cpp =>
      "out->set<" ++ target.canonicalType union ++ "::" ++ name ++ ">(" ++ value ++ ");"
  | .java => "out.set" ++ Text.capitalize name ++ "(" ++ value ++ ");"

/-- Writes a value into the field `name` of a result of type `owner`. -/
def assign (target : Target) (access : Access) (owner : QualifiedName) (name value : String) :
    String :=
  match access with
  | .member => target.assignField name value
  | .accessor => target.assignUnion owner name value

/-- Converts a named type by the function for it and writes the result into a member. -/
def callIntoField (target : Target) (source name : String) : List String :=
  match target with
  | .ndk | .cpp => ["if (!translate(" ++ source ++ ", &out->" ++ name ++ ")) return false;"]
  | .java => ["out." ++ name ++ " = h2aTranslate(" ++ source ++ ");"]

/-- Converts a named type by the function for it and sets the field of a union. -/
def callIntoUnion (target : Target) (union type : QualifiedName) (source name : String) :
    List String :=
  match target with
  | .ndk | .cpp =>
      ["\x7b",
       "    " ++ target.canonicalType type ++ " " ++ name ++ ";",
       "    if (!translate(" ++ source ++ ", &" ++ name ++ ")) return false;",
       "    " ++ target.assignUnion union name (target.move name),
       "\x7d"]
  | .java => [target.assignUnion union name ("h2aTranslate(" ++ source ++ ")")]

def call (target : Target) (access : Access) (owner type : QualifiedName)
    (source name : String) : List String :=
  match access with
  | .member => target.callIntoField source name
  | .accessor => target.callIntoUnion owner type source name

/-- Where the elements of a container go. -/
structure Sink where
  container : String
  /-- The local variable that the container is, if it has to be declared. -/
  fresh : Option String := none
  /-- The statement after the last element. -/
  finish : Option String := none

/-- The loop that fills a container with the elements of another. -/
def loop (target : Target) (source : String) (fixed : Bool) (elementType : String)
    (preparation : List String) (value : String) (sink : Sink) : List String :=
  let body := preparation.map ("        " ++ ·)
  let finish := sink.finish.toList.map ("    " ++ ·)
  match target with
  | .ndk | .cpp =>
      let size :=
        if fixed then "sizeof(" ++ source ++ ")/sizeof(" ++ source ++ "[0])"
        else source ++ ".size()"
      ["\x7b"]
        ++ sink.fresh.toList.map ("    std::vector<" ++ elementType ++ "> " ++ · ++ ";")
        ++ ["    size_t size = " ++ size ++ ";",
            "    for (size_t i = 0; i < size; i++) \x7b"]
        ++ body
        ++ ["        " ++ sink.container ++ ".push_back(" ++ value ++ ");", "    \x7d"]
        ++ finish ++ ["\x7d"]
  | .java =>
      let size := if fixed then source ++ ".length" else source ++ ".size()"
      let declared :=
        match sink.fresh with
        | some name => elementType ++ "[] " ++ name
        | none => sink.container
      ["if (" ++ source ++ " != null) \x7b",
       "    " ++ declared ++ " = new " ++ elementType ++ "[" ++ size ++ "];",
       "    for (int i = 0; i < " ++ size ++ "; i++) \x7b"]
        ++ body
        ++ ["        " ++ sink.container ++ "[i] = " ++ value ++ ";", "    \x7d"]
        ++ finish ++ ["\x7d"]

/-- The sink for the container that becomes the field `name`. -/
def sink (target : Target) (access : Access) (owner : QualifiedName) (name : String) : Sink :=
  match access with
  | .member => { container := target.fieldRef name }
  | .accessor =>
      { container := name, fresh := some name
        finish := some (target.assignUnion owner name (target.move name)) }

/-- The type of the elements of a container of values with this descriptor. -/
def describedType (target : Target) (descriptor : Descriptor) : Except Fault String :=
  match descriptor.atom? with
  | some atom => .ok (target.elementType atom)
  | none => .error (.noElementType descriptor.label)

/-- The loop over a container that is known by its descriptor only. Java declares the element type
always, the other targets with a local variable only. -/
def describedLoop (target : Target) (source : String) (descriptor : Descriptor)
    (preparation : List String) (value : String) (sink : Sink) : Except Fault (List String) :=
  match descriptor.element? with
  | none => .error (.noElement descriptor.label)
  | some element =>
      if target = .java || sink.fresh.isSome then
        (target.describedType element).map fun type =>
          target.loop source descriptor.isFixedArray type preparation value sink
      else .ok (target.loop source descriptor.isFixedArray "" preparation value sink)

end Target

end HalBridge
