import HalBridge.Fault
import HalBridge.QualifiedName.Canonical

/-!
The targets that converter code is generated for: the NDK and the C++ flavour of AIDL's C++ code,
and Java. A target fixes how types, files and whole functions are spelled.
-/

namespace HalBridge

inductive Target where
  | ndk
  | cpp
  | java
deriving DecidableEq

namespace Target

/-- All targets, in the order their files are generated. -/
def all : List Target :=
  [.ndk, .cpp, .java]

def toText : Target → String
  | .ndk => "ndk"
  | .cpp => "cpp"
  | .java => "java"

def read (text : String) : Except Fault Target :=
  match all.find? (·.toText = text) with
  | some target => .ok target
  | none => .error (.unknownTarget text)

/-- The AIDL type that a HIDL type becomes. -/
def canonicalType (target : Target) (q : QualifiedName) : String :=
  let qualified :=
    String.intercalate "::" (Text.split '.' q.canonicalPackage) ++ "::" ++ q.canonicalTypeName
  match target with
  | .ndk => "aidl::" ++ qualified
  | .cpp => qualified
  | .java => q.canonicalName

/-- The HIDL type itself. -/
def legacyType (target : Target) (q : QualifiedName) : String :=
  match target with
  | .ndk | .cpp =>
      "::" ++ String.intercalate "::"
        (Text.split '.' q.package ++ q.version.codeNamespace :: q.names)
  | .java => String.intercalate "." (q.package :: q.version.codeNamespace :: q.names)

/-- The head of the function that converts values of a type. -/
def signature (target : Target) (q : QualifiedName) : String :=
  match target with
  | .ndk | .cpp =>
      "__attribute__((warn_unused_result)) bool translate(const " ++ target.legacyType q
        ++ "& in, " ++ target.canonicalType q ++ "* out)"
  | .java =>
      "static public " ++ target.canonicalType q ++ " h2aTranslate(" ++ target.legacyType q
        ++ " in)"

/-- The header that declares the functions of a package; Java has none. -/
def headerFile? (target : Target) (q : QualifiedName) : Option String :=
  match target with
  | .ndk | .cpp => some (q.canonicalPath ++ "/translate-" ++ target.toText ++ ".h")
  | .java => none

def sourceFile (target : Target) (q : QualifiedName) : String :=
  match target with
  | .ndk | .cpp => q.canonicalPath ++ "/translate-" ++ target.toText ++ ".cpp"
  | .java => q.canonicalPath ++ "/Translate.java"

def canonicalInclude (target : Target) (q : QualifiedName) : String :=
  let root :=
    match target with
    | .ndk => "aidl/"
    | _ => ""
  "#include \"" ++ root ++ q.canonicalPath ++ "/" ++ q.canonicalTypeName ++ ".h\""

/-- The include of the header that declares a HIDL type: that of the interface around it, or the
one for the types of a package. -/
def legacyInclude (q : QualifiedName) (interface : Option (Option String)) : String :=
  let header :=
    match interface with
    | some name => Text.orNone name ++ ".h"
    | none => "types.h"
  "#include \"" ++ q.legacyPath ++ "/" ++ q.version.toText ++ "/" ++ header ++ "\""

/-- The check that an enumerator has the same value on both sides. -/
def enumAssert (target : Target) (q : QualifiedName) (value : String) : String :=
  let canonical := target.canonicalType q
  "static_assert(" ++ canonical ++ "::" ++ value ++ " == static_cast<" ++ canonical ++ ">("
    ++ target.legacyType q ++ "::" ++ value ++ "));"

/-- The statement that gives up on the value read from `label`. -/
def failure (target : Target) (label : String) : String :=
  match target with
  | .ndk | .cpp => "return false;"
  | .java =>
      "throw new RuntimeException(\"Unsafe conversion between signed and unsigned scalars "
        ++ "for field: " ++ label ++ "\");"

/-- The lines before the first field. -/
def prologue (target : Target) (q : QualifiedName) : List String :=
  match target with
  | .ndk | .cpp => []
  | .java => [target.canonicalType q ++ " out = new " ++ target.canonicalType q ++ "();"]

/-- The line after the last field. -/
def epilogue : Target → String
  | .ndk | .cpp => "return true;"
  | .java => "return out;"

def switchOpen : String :=
  "switch (in.getDiscriminator()) \x7b"

/-- The label of the case for the field `name` of a safe union. -/
def caseLabel (target : Target) (union : QualifiedName) (name : String) : String :=
  match target with
  | .ndk | .cpp => "case " ++ target.legacyType union ++ "::hidl_discriminator::" ++ name ++ ":"
  | .java => "case " ++ target.legacyType union ++ ".hidl_discriminator." ++ name ++ ":"

def defaultCase : Target → List String
  | .ndk | .cpp => ["default:", "    return false;"]
  | .java =>
      ["default:",
       "    throw new RuntimeException(\"Unknown discriminator value: \" + "
         ++ "Integer.toString(in.getDiscriminator()));"]

end Target

end HalBridge
