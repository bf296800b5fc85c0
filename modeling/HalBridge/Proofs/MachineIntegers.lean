import Mathlib.Algebra.Order.Ring.Int
import Mathlib.Algebra.Order.GroupWithZero.Basic

/-!
# Machine integers

The integers that generated code computes with have a fixed width and are signed or not. A
conversion keeps the number if the new type has it and wraps around otherwise. Two integers are
converted to one type before they are compared: narrow types become 32 bits wide and signed, then
the wider type is taken, and of two equally wide ones the unsigned. This is the rule of C++; it is
that of Java too, where an integer of 32 bits or more is always signed.
-/

namespace HalBridge

structure IntType where
  signed : Bool
  bits : Nat
  pos : 0 < bits
deriving DecidableEq

namespace IntType

def int32 : IntType :=
  ⟨true, 32, by decide⟩

def int64 : IntType :=
  ⟨true, 64, by decide⟩

/-- The number of bits without the one for the sign. -/
def magnitude (type : IntType) : Nat :=
  if type.signed then type.bits - 1 else type.bits

def least (type : IntType) : Int :=
  if type.signed then -2 ^ type.magnitude else 0

/-- The number is one of those that the type has. -/
def Holds (type : IntType) (value : Int) : Prop :=
  type.least ≤ value ∧ value < 2 ^ type.magnitude

instance (type : IntType) (value : Int) : Decidable (type.Holds value) :=
  inferInstanceAs (Decidable (_ ∧ _))

/-- The number of the type that differs by a multiple of `2 ^ bits`. -/
def wrap (type : IntType) (value : Int) : Int :=
  type.least + (value - type.least) % 2 ^ type.bits

/-- Types of less than 32 bits are not computed with. -/
def promoted (type : IntType) : IntType :=
  if type.bits < 32 then int32 else type

/-- The type that two integers are converted to before they are compared. -/
def common (left right : IntType) : IntType :=
  let left := left.promoted
  let right := right.promoted
  if left.bits < right.bits then right
  else if right.bits < left.bits then left
  else ⟨left.signed && right.signed, left.bits, left.pos⟩

variable {type before left right : IntType} {value : Int}

theorem least_add_two_pow (type : IntType) : type.least + 2 ^ type.bits = 2 ^ type.magnitude := by
  unfold least magnitude
  split
  · have hdouble : (2 : Int) ^ type.bits = 2 ^ (type.bits - 1) * 2 := by
      rw [← pow_succ, Nat.sub_add_cancel type.pos]
    omega
  · omega

theorem two_pow_bits_pos (type : IntType) : (0 : Int) < 2 ^ type.bits :=
  Int.pow_pos (by decide)

theorem holds_wrap (type : IntType) (value : Int) : type.Holds (type.wrap value) := by
  have hlow := Int.emod_nonneg (value - type.least) type.two_pow_bits_pos.ne'
  have hhigh := Int.emod_lt_of_pos (value - type.least) type.two_pow_bits_pos
  have hlimit := type.least_add_two_pow
  unfold Holds wrap
  omega

theorem wrap_of_holds (h : type.Holds value) : type.wrap value = value := by
  obtain ⟨hlow, hhigh⟩ := h
  have hlimit := type.least_add_two_pow
  rw [wrap, Int.emod_eq_of_lt (by omega) (by omega)]
  omega

/-- Wrapping does not see that the number was wrapped to a type of the same width before. -/
theorem wrap_wrap (h : type.bits = before.bits) :
    type.wrap (before.wrap value) = type.wrap value := by
  have hdiv := Int.mul_ediv_add_emod (value - before.least) (2 ^ before.bits)
  have hsplit : before.wrap value - type.least =
      value - type.least + 2 ^ type.bits * -((value - before.least) / 2 ^ before.bits) := by
    rw [wrap, h, Int.mul_neg]
    omega
  rw [wrap, hsplit, Int.add_mul_emod_self_left]
  rfl

theorem Holds.nonneg (h : type.Holds value) (hunsigned : type.signed = false) : 0 ≤ value := by
  simpa [least, hunsigned] using h.1

/-! ### Signed and unsigned types of one width -/

section SameWidth

variable {bits : Nat} {pos : 0 < bits}

theorem holds_unsigned_iff :
    (⟨false, bits, pos⟩ : IntType).Holds value ↔ 0 ≤ value ∧ value < 2 ^ bits :=
  Iff.rfl

theorem holds_signed_iff :
    (⟨true, bits, pos⟩ : IntType).Holds value ↔
      -2 ^ (bits - 1) ≤ value ∧ value < 2 ^ (bits - 1) :=
  Iff.rfl

theorem holds_unsigned_of_signed (h : (⟨true, bits, pos⟩ : IntType).Holds value) :
    (⟨false, bits, pos⟩ : IntType).Holds value ↔ 0 ≤ value := by
  have hhalf : (2 : Int) ^ (bits - 1) ≤ 2 ^ bits := pow_le_pow_right₀ (by decide) (by omega)
  rw [holds_signed_iff] at h
  rw [holds_unsigned_iff]
  omega

/-- The bits of an unsigned integer are read back unsigned. -/
theorem wrap_back (h : (⟨false, bits, pos⟩ : IntType).Holds value) :
    (⟨false, bits, pos⟩ : IntType).wrap ((⟨true, bits, pos⟩ : IntType).wrap value) = value := by
  have hwidth : (⟨false, bits, pos⟩ : IntType).bits = (⟨true, bits, pos⟩ : IntType).bits := rfl
  rw [wrap_wrap hwidth, wrap_of_holds h]

/-- The signed integer with the bits of an unsigned one is negative if the signed type does not
have the unsigned one. -/
theorem wrap_neg_iff (h : (⟨false, bits, pos⟩ : IntType).Holds value) :
    (⟨true, bits, pos⟩ : IntType).wrap value < 0 ↔
      ¬(⟨true, bits, pos⟩ : IntType).Holds value := by
  constructor
  · intro hneg hholds
    rw [wrap_of_holds hholds] at hneg
    exact absurd (h.nonneg rfl) (by omega)
  · intro hnot
    by_contra hnonneg
    have hsigned := holds_wrap ⟨true, bits, pos⟩ value
    have hunsigned := (holds_unsigned_of_signed hsigned).mpr (by omega)
    -- Both types have the wrapped number, so it is the one that was wrapped.
    have hsame : (⟨true, bits, pos⟩ : IntType).wrap value = value := by
      rw [← wrap_of_holds hunsigned, wrap_back h]
    exact hnot (hsame ▸ hsigned)

end SameWidth

/-! ### Common types -/

theorem common_comm (left right : IntType) : left.common right = right.common left := by
  unfold common
  grind

theorem magnitude_le_common (left right : IntType) :
    left.magnitude ≤ (left.common right).magnitude := by
  unfold common promoted magnitude int32
  grind

theorem signed_common (hleft : left.signed) (hright : right.signed) :
    (left.common right).signed := by
  unfold common promoted int32
  grind

/-- The common type has the numbers of a type, the negative ones if the other is signed too. -/
theorem Holds.common (h : left.Holds value) (hother : 0 ≤ value ∨ right.signed) :
    (left.common right).Holds value := by
  have hpow : (2 : Int) ^ left.magnitude ≤ 2 ^ (left.common right).magnitude :=
    pow_le_pow_right₀ (by decide) (magnitude_le_common left right)
  have hleast : (left.common right).least ≤ value := by
    by_cases hnonneg : 0 ≤ value
    · have hpos : (0 : Int) < 2 ^ (left.common right).magnitude := Int.pow_pos (by decide)
      unfold least
      split <;> omega
    · have hsigned : left.signed = true :=
        Bool.of_not_eq_false fun hunsigned => hnonneg (h.nonneg hunsigned)
      have hlow := h.1
      rw [least, if_pos hsigned] at hlow
      rw [least, if_pos (signed_common hsigned (hother.resolve_left hnonneg))]
      omega
  exact ⟨hleast, Int.lt_of_lt_of_le h.2 hpow⟩

end IntType

/-- An integer of some type. -/
@[ext]
structure Word where
  type : IntType
  value : Int
  holds : type.Holds value

namespace Word

def convert (word : Word) (type : IntType) : Word :=
  ⟨type, type.wrap word.value, type.holds_wrap word.value⟩

def lt (left right : Word) : Bool :=
  let common := left.type.common right.type
  (left.convert common).value < (right.convert common).value

/-- A literal is 32 bits wide, or 64 if it is marked as long; there is none that does not fit. -/
def literal? (value : Nat) (long : Bool) : Option Word :=
  let type := if long then .int64 else .int32
  if h : type.Holds value then some ⟨type, value, h⟩ else none

variable {word bound : Word}

theorem convert_of_holds {type : IntType} (h : type.Holds word.value) :
    word.convert type = ⟨type, word.value, h⟩ :=
  Word.ext rfl (IntType.wrap_of_holds h)

theorem convert_self (word : Word) : word.convert word.type = word :=
  convert_of_holds word.holds

theorem lt_eq_decide (hword : 0 ≤ word.value ∨ bound.type.signed)
    (hbound : 0 ≤ bound.value ∨ word.type.signed) :
    word.lt bound = decide (word.value < bound.value) := by
  have hwraps := IntType.wrap_of_holds (word.holds.common hword)
  have hwrapsBound := IntType.wrap_of_holds (bound.holds.common hbound)
  rw [IntType.common_comm] at hwrapsBound
  simp only [lt, convert, hwraps, hwrapsBound]

theorem literal_eq_some {value : Nat} {long : Bool} (h : literal? value long = some bound) :
    bound.value = value ∧ bound.type.signed := by
  by_cases hfits : (if long then IntType.int64 else .int32).Holds value
  · rw [literal?, dif_pos hfits] at h
    obtain rfl := Option.some.inj h
    refine ⟨rfl, ?_⟩
    cases long <;> rfl
  · rw [literal?, dif_neg hfits] at h
    cases h

/-- A literal is signed and not negative, so it compares with any integer as the number it is. -/
theorem literal_compares {value : Nat} {long : Bool} (h : literal? value long = some bound) :
    bound.lt word = decide (value < word.value) ∧ word.lt bound = decide (word.value < value) := by
  obtain ⟨hvalue, hsigned⟩ := literal_eq_some h
  have hnonneg : 0 ≤ bound.value := by rw [hvalue]; exact Int.natCast_nonneg value
  rw [← hvalue]
  constructor
  · exact lt_eq_decide (Or.inl hnonneg) (Or.inr hsigned)
  · exact lt_eq_decide (Or.inr hsigned) (Or.inl hnonneg)

end Word

end HalBridge
