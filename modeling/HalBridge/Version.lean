import HalBridge.Text.Digit

/-!
Package versions: a major and a minor number, ordered by the major number first.
-/

namespace HalBridge

structure Version where
  major : Nat
  minor : Nat
deriving DecidableEq

namespace Version

def Precedes (a b : Version) : Prop :=
  a.major < b.major ∨ (a.major = b.major ∧ a.minor ≤ b.minor)

instance : LE Version := ⟨Precedes⟩

instance (a b : Version) : Decidable (a ≤ b) :=
  inferInstanceAs (Decidable (a.major < b.major ∨ (a.major = b.major ∧ a.minor ≤ b.minor)))

theorem le_def {a b : Version} :
    a ≤ b ↔ a.major < b.major ∨ (a.major = b.major ∧ a.minor ≤ b.minor) :=
  Iff.rfl

protected theorem le_refl (a : Version) : a ≤ a :=
  Or.inr ⟨rfl, Nat.le_refl _⟩

protected theorem le_trans {a b c : Version} (hab : a ≤ b) (hbc : b ≤ c) : a ≤ c := by
  rw [le_def] at *
  omega

protected theorem le_antisymm {a b : Version} (hab : a ≤ b) (hba : b ≤ a) : a = b := by
  obtain ⟨major, minor⟩ := a
  obtain ⟨major', minor'⟩ := b
  simp only [le_def] at hab hba
  obtain rfl : major = major' := by omega
  obtain rfl : minor = minor' := by omega
  rfl

theorem le_of_not_le {a b : Version} (h : ¬a ≤ b) : b ≤ a := by
  rw [le_def] at *
  omega

def toText (v : Version) : String :=
  toString v.major ++ "." ++ toString v.minor

/-- Whether both numbers have few enough digits to be written. -/
def isWritable (v : Version) : Bool :=
  (toString v.major).length ≤ Text.digitLimit && (toString v.minor).length ≤ Text.digitLimit

instance : ToString Version := ⟨toText⟩

/-- The namespace that holds the declarations of this version in generated code. -/
def codeNamespace (v : Version) : String :=
  "V" ++ toString v.major ++ "_" ++ toString v.minor

def up (v : Version) : Version :=
  { v with minor := v.minor + 1 }

/-- The minor version below; there is none below minor version 0. -/
def down? (v : Version) : Option Version :=
  if v.minor = 0 then none else some { v with minor := v.minor - 1 }

inductive ParseError where
  /-- The text is not two runs of digits around a point. -/
  | malformed
  /-- One of the two runs is not read as a number. -/
  | unread (run : String) (error : Text.NumeralError)

/-- Reads a run of digits of any script as a number. -/
def parseNumber (cs : List Char) : Except ParseError Nat :=
  match Text.readNumeral cs with
  | .ok n => .ok n
  | .error error => .error (.unread (String.ofList cs) error)

/-- Reads two runs of digits divided by the first point of the text. -/
def parse (text : String) : Except ParseError Version := do
  let cs := text.toList
  let major := cs.takeWhile (· ≠ '.')
  let minor := (cs.dropWhile (· ≠ '.')).drop 1
  if major.isEmpty || minor.isEmpty || !(major ++ minor).all Text.isDigit then
    throw .malformed
  return ⟨← parseNumber major, ← parseNumber minor⟩

end Version

end HalBridge
