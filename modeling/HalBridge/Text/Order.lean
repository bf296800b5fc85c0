/-!
Texts in the order of their code points.
-/

namespace HalBridge.Text

def precedes (a b : String) : Bool :=
  !decide (b < a)

/-- The distinct texts of a list in ascending order. -/
def sortedDistinct (texts : List String) : List String :=
  texts.eraseDups.mergeSort precedes

/-- Sorts by a text; entries of equal text keep their order. -/
def sortBy {α : Type} (key : α → String) (entries : List α) : List α :=
  entries.mergeSort fun a b => precedes (key a) (key b)

end HalBridge.Text
