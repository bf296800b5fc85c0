import HalBridge.Text.Blank
import HalBridge.Text.Lines

/-!
AIDL definitions as data, and the `.aidl` text of one.
-/

namespace HalBridge

/-- The line that every generated file starts with. -/
def licenseLine : String :=
  "// FIXME: license file, or use the -l option to generate the files with the header.\n"

namespace Aidl

/-- Free text as a documentation comment; there is none for an empty text. -/
def docComment : Option String → Option String
  | none => none
  | some text =>
      if text.isEmpty then none
      else
        let lines := (Text.lines (Text.trim text)).map fun line => Text.trimEnd (" * " ++ line)
        some (Text.joinLines ("/**" :: lines ++ [" */"]))

/-- A member of a parcelable or a union. -/
structure Member where
  type : String
  name : String
  comment : Option String

structure Enumerator where
  name : String
  value : Option String
  comment : Option String

inductive Body where
  | enum (backing : String) (enumerators : List Enumerator)
  | parcelable (members : List Member)
  | union (members : List Member)
  /-- A parcelable without members in place of a type that cannot be expressed. -/
  | stub
  /-- No definition, only the trailer. -/
  | nothing

structure Definition where
  package : String
  name : String
  imports : List String
  comment : Option String
  body : Body
  trailer : List String

/-- The documentation comment of a member, on lines before it. -/
def memberComment : Option String → String
  | none => ""
  | some comment => Text.indentation ++ Text.hangBlock comment ++ "\n"

def Member.text (member : Member) : String :=
  memberComment member.comment ++ Text.indentation ++ member.type ++ " " ++ member.name ++ ";\n"

def Enumerator.text (enumerator : Enumerator) : String :=
  let assigned :=
    match enumerator.value with
    | none => ""
    | some value => " = " ++ value
  memberComment enumerator.comment ++ Text.indentation ++ enumerator.name ++ assigned ++ ",\n"

def braced (head : String) (entries : List String) : String :=
  head ++ " \x7b\n" ++ String.join entries ++ "\x7d\n"

def Body.text (name : String) : Body → String
  | .enum backing enumerators =>
      "@Backing(type=\"" ++ backing ++ "\")\n"
        ++ braced ("enum " ++ name) (enumerators.map Enumerator.text)
  | .parcelable members => braced ("parcelable " ++ name) (members.map Member.text)
  | .union members => braced ("union " ++ name) (members.map Member.text)
  | .stub => "parcelable " ++ name ++ " \x7b\x7d\n"
  | .nothing => ""

def Definition.text (definition : Definition) : String :=
  licenseLine ++ "\npackage " ++ definition.package ++ ";\n\n"
    ++ String.join (definition.imports.map fun name => "import " ++ name ++ ";\n")
    ++ (match definition.comment with
        | none => ""
        | some comment => comment ++ "\n")
    ++ definition.body.text definition.name
    ++ String.join (definition.trailer.map (· ++ "\n"))

end Aidl

end HalBridge
