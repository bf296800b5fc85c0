import HalBridge.Decimal.Basic

/-!
JSON values. The members of an object keep their order, and a literal with a fraction or an
exponent is kept apart from an integer. The numbers that are none, or not finite, are values too.
-/

namespace HalBridge

inductive Json where
  | null
  | bool (value : Bool)
  | int (value : Int)
  | real (value : Decimal)
  | infinite (negative : Bool)
  | notANumber
  | str (value : String)
  | arr (items : List Json)
  | obj (members : List (String × Json))

namespace Json

/-- Sets a member: a repeated key keeps its place and takes the new value. -/
def setMember (key : String) (value : Json) : List (String × Json) → List (String × Json)
  | [] => [(key, value)]
  | (k, v) :: rest => if k = key then (key, value) :: rest else (k, v) :: setMember key value rest

/-- The value of a member. -/
def get? (key : String) : Json → Option Json
  | .obj members => members.lookup key
  | _ => none

end Json

end HalBridge
