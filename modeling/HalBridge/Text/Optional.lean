/-!
Texts that a document may leave empty with a null.
-/

namespace HalBridge.Text

/-- An absent text is written as the word `None`. -/
def orNone (text : Option String) : String :=
  text.getD "None"

end HalBridge.Text
