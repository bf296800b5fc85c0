import HalBridge.Decimal.Shortest
import HalBridge.Json.Basic
import HalBridge.Text.Quoted

/-!
The text that a JSON value stands for where a document holds it in place of a text.
-/

namespace HalBridge.Json

mutual

/-- The text of a value inside a list or an object, where strings are quoted. -/
def shown : Json → String
  | .null => "None"
  | .bool value => if value then "True" else "False"
  | .int value => toString value
  | .real value => value.toText
  | .infinite negative => if negative then "-inf" else "inf"
  | .notANumber => "nan"
  | .str value => Text.quoted value
  | .arr items => "[" ++ String.intercalate ", " (shownItems items) ++ "]"
  | .obj members => "\x7b" ++ String.intercalate ", " (shownMembers members) ++ "\x7d"

def shownItems : List Json → List String
  | [] => []
  | item :: rest => shown item :: shownItems rest

def shownMembers : List (String × Json) → List String
  | [] => []
  | (key, value) :: rest => (Text.quoted key ++ ": " ++ shown value) :: shownMembers rest

end

/-- The text of a value; a string stands for itself. -/
def display : Json → String
  | .str value => value
  | value => shown value

end HalBridge.Json
