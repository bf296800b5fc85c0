import HalBridge.Json.Basic
import HalBridge.Text.Quoted

/-!
Writing JSON values: in one line, or with one member or item on each line.
-/

namespace HalBridge.Json

/-- A code unit as an escape. -/
def unitEscape (unit : Nat) : List Char :=
  '\\' :: 'u' :: Text.hexDigits 4 unit

/-- One character of a string; all but the visible ASCII characters are escaped. -/
def stringChar (c : Char) : List Char :=
  match c with
  | '"' => ['\\', '"']
  | '\\' => ['\\', '\\']
  | '\n' => ['\\', 'n']
  | '\r' => ['\\', 'r']
  | '\t' => ['\\', 't']
  | c =>
      let code := c.toNat
      if code = 0x8 then ['\\', 'b']
      else if code = 0xc then ['\\', 'f']
      else if 0x20 ≤ code && code < 0x7f then [c]
      else if code < 0x10000 then unitEscape code
      else
        unitEscape (0xd800 + (code - 0x10000) / 0x400)
          ++ unitEscape (0xdc00 + (code - 0x10000) % 0x400)

def stringText (s : String) : String :=
  String.ofList ('"' :: s.toList.flatMap stringChar ++ ['"'])

def realText (x : Decimal) : String :=
  (if x.negative then "-" else "") ++ toString x.digits ++ "e" ++ toString x.exponent

def infiniteText (negative : Bool) : String :=
  if negative then "-Infinity" else "Infinity"

mutual

/-- The text of a value in one line. -/
def compact : Json → String
  | .null => "null"
  | .bool value => if value then "true" else "false"
  | .int value => toString value
  | .real value => realText value
  | .infinite negative => infiniteText negative
  | .notANumber => "NaN"
  | .str value => stringText value
  | .arr items => "[" ++ String.intercalate ", " (compactItems items) ++ "]"
  | .obj members => "\x7b" ++ String.intercalate ", " (compactMembers members) ++ "\x7d"

def compactItems : List Json → List String
  | [] => []
  | item :: rest => compact item :: compactItems rest

def compactMembers : List (String × Json) → List String
  | [] => []
  | (key, value) :: rest => (stringText key ++ ": " ++ compact value) :: compactMembers rest

end

/-- A bracketed list with each entry on its own line, `level` levels deep. -/
def block (level : Nat) (opening closing : String) (entries : List String) : String :=
  if entries.isEmpty then opening ++ closing
  else
    let inner := "\n" ++ String.ofList (List.replicate (2 * (level + 1)) ' ')
    let outer := "\n" ++ String.ofList (List.replicate (2 * level) ' ')
    opening ++ inner ++ String.intercalate ("," ++ inner) entries ++ outer ++ closing

mutual

/-- The text of a value with two spaces for each level of nesting. -/
def pretty (level : Nat) : Json → String
  | .null => "null"
  | .bool value => if value then "true" else "false"
  | .int value => toString value
  | .real value => realText value
  | .infinite negative => infiniteText negative
  | .notANumber => "NaN"
  | .str value => stringText value
  | .arr items => block level "[" "]" (prettyItems (level + 1) items)
  | .obj members => block level "\x7b" "\x7d" (prettyMembers (level + 1) members)

def prettyItems (level : Nat) : List Json → List String
  | [] => []
  | item :: rest => pretty level item :: prettyItems level rest

def prettyMembers (level : Nat) : List (String × Json) → List String
  | [] => []
  | (key, value) :: rest =>
      (stringText key ++ ": " ++ pretty level value) :: prettyMembers level rest

end

end HalBridge.Json
