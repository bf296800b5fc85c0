/-!
Case mappings of single characters, as runs of characters with one distance to their other case.
-/

namespace HalBridge.Text

/-- Every `step`-th character from `first` to `last` has its other case `delta` away. -/
structure CaseRun where
  first : Nat
  last : Nat
  step : Nat
  delta : Int

namespace CaseRun

def contains (run : CaseRun) (code : Nat) : Bool :=
  run.first ≤ code && code ≤ run.last && (code - run.first) % run.step = 0

/-- The other case of a character; one that no run contains stays. -/
def convert (runs : List CaseRun) (c : Char) : Char :=
  match runs.find? (·.contains c.toNat) with
  | some run => Char.ofNat (c.toNat + run.delta).toNat
  | none => c

end CaseRun

end HalBridge.Text
