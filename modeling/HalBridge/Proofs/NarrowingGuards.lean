import HalBridge.Proofs.EmittedBlocks
import HalBridge.Proofs.IntegerCode
import HalBridge.Proofs.TypedefUnfolding

/-!
# Integers are converted exactly

An integer of a field is read, checked and cast by generated code. The lines for it are the text of
a read, a guard and a value, and what they do is the meaning of these. The guard then fails for just
the integers that the AIDL type does not have, and the value for any other is the integer itself.
This is so for every target, although Java has no unsigned types and carries an unsigned integer as
the signed one with the same bits.
-/

namespace HalBridge

/-! ### The integers of HIDL and AIDL -/

theorem Scalar.bits_pos (scalar : Scalar) : 0 < scalar.bits := by
  cases scalar <;> decide

/-- The type of an integer of HIDL. -/
def Scalar.intType? (scalar : Scalar) : Option IntType :=
  if scalar = .bool ∨ scalar.floating then none
  else some ⟨scalar.signed, scalar.bits, scalar.bits_pos⟩

def Aidl.Scalar.bits : Aidl.Scalar → Nat
  | .boolean => 1
  | .byte => 8
  | .char => 16
  | .int | .float => 32
  | .long | .double => 64

theorem Aidl.Scalar.bits_pos (scalar : Aidl.Scalar) : 0 < scalar.bits := by
  cases scalar <;> decide

/-- The type of an integer of AIDL; only characters are unsigned. -/
def Aidl.Scalar.intType? (scalar : Aidl.Scalar) : Option IntType :=
  if scalar = .boolean ∨ scalar = .float ∨ scalar = .double then none
  else some ⟨scalar ≠ .char, scalar.bits, scalar.bits_pos⟩

/-- An integer as the HIDL code of a target carries it: C++ has its type, Java the signed type of
the same width. -/
def Target.carry (target : Target) (word : Word) : Word :=
  match target with
  | .ndk | .cpp => word
  | .java => word.convert ⟨true, word.type.bits, word.type.pos⟩

/-! ### The code for one integer -/

/-- What is generated for an integer: how it is read, a guard that gives the conversion up, if there
is one, and the value that is written. Guard and value are over what is read. -/
structure IntegerCode where
  read : CodeExpr
  guard : Option CodeCondition
  value : CodeExpr

/-- How the conversion of one integer ends. -/
inductive IntegerResult where
  | failed
  | stored (word : Word)

/-- The statement ends the conversion without a result. -/
def Target.GivesUp (target : Target) (statement : String) : Prop :=
  match target with
  | .ndk | .cpp => statement = "return false;"
  | .java => ∃ message, statement = "throw new RuntimeException(\"" ++ message ++ "\");"

namespace IntegerCode

/-- The lines are the code, over the field that `source` reads: the guard, if there is one, and
after it the write. -/
def Emitted (code : IntegerCode) (target : Target) (source : String) (write : String → String)
    (lines : List String) : Prop :=
  match code.guard with
  | none => lines = [write (code.value.text (code.read.text source))]
  | some guard => ∃ comment failure, target.GivesUp failure ∧
      lines = ["// " ++ comment, "if (" ++ guard.text (code.read.text source) ++ ") \x7b",
        "    " ++ failure, "\x7d", write (code.value.text (code.read.text source))]

/-- Whether the guard holds of what is read; without a guard nothing fails. -/
def fails? (code : IntegerCode) (operand : CodeValue) : Option Bool :=
  match code.guard with
  | none => some false
  | some guard => guard.eval operand

/-- What the code does where the field is `held`. -/
def run? (code : IntegerCode) (held : CodeValue) : Option IntegerResult := do
  let operand ← code.read.eval held
  if ← code.fails? operand then return .failed
  else return .stored (← code.value.word? operand)

end IntegerCode

/-! ### Guards are exact -/

namespace RangeCheck

variable {check : RangeCheck} {operand : CodeValue} {word : Word} {upper : Nat}

theorem eval_guard_of_upper (h : check.upper = some upper)
    (hfits : (Word.literal? upper check.long).isSome) (hword : operand.word? = some word) :
    check.guard.eval operand =
      some (decide (upper < word.value) || decide (word.value < 0)) := by
  obtain ⟨zero, hzero⟩ := Option.isSome_iff_exists.mp (by decide : (Word.literal? 0 false).isSome)
  obtain ⟨bound, hbound⟩ := Option.isSome_iff_exists.mp hfits
  simp [guard, h, CodeCondition.eval, hword, hzero, hbound, Word.literal_compares hzero,
    Word.literal_compares hbound]

theorem eval_guard_of_no_upper (h : check.upper = none) (hword : operand.word? = some word) :
    check.guard.eval operand = some (decide (word.value < 0)) := by
  obtain ⟨zero, hzero⟩ := Option.isSome_iff_exists.mp (by decide : (Word.literal? 0 false).isSome)
  simp [guard, h, CodeCondition.eval, hword, hzero, Word.literal_compares hzero]

end RangeCheck

section Integers

variable {scalar : Scalar} {type aidl : IntType} {word : Word}

theorem Target.carry_of_signed (h : word.type.signed) (target : Target) :
    target.carry word = word := by
  have htype : (⟨true, word.type.bits, word.type.pos⟩ : IntType) = word.type := by
    rw [← h]
  cases target with
  | ndk | cpp => rfl
  | java => rw [carry, htype, Word.convert_self]

/-- An unsigned integer that the signed type of its width does not have is carried as a number
above all of that type, or as a negative one. -/
theorem Target.carry_out_of_range_iff {bits upper : Nat} {pos : 0 < bits}
    (hword : word.type = ⟨false, bits, pos⟩) (hupper : (upper : Int) + 1 = 2 ^ (bits - 1))
    (target : Target) :
    (upper < (target.carry word).value ∨ (target.carry word).value < 0) ↔
      ¬(⟨true, bits, pos⟩ : IntType).Holds word.value := by
  obtain ⟨wordType, value, holds⟩ := word
  obtain rfl := hword
  cases target with
  | ndk | cpp =>
      have hnonneg := holds.nonneg rfl
      rw [IntType.holds_signed_iff, carry]
      dsimp only
      omega
  | java =>
      have hwrapped := IntType.holds_wrap ⟨true, bits, pos⟩ value
      rw [IntType.holds_signed_iff] at hwrapped
      rw [← IntType.wrap_neg_iff holds, carry, Word.convert]
      dsimp only
      omega

/-- A guard holds of the integers that the AIDL type does not have. -/
theorem Scalar.guard_exact {check : RangeCheck} {operand : CodeValue} (target : Target)
    (hcheck : scalar.rangeCheck? = some check)
    (htype : scalar.intType? = some type) (haidl : scalar.aidl.intType? = some aidl)
    (hword : word.type = type) (hoperand : operand.word? = some (target.carry word)) :
    check.guard.eval operand = some (decide ¬aidl.Holds word.value) := by
  obtain rfl := hword
  cases scalar with
  | bool | int8 | uint16 | int32 | int64 | float | double => cases hcheck
  | uint8 | uint32 | uint64 =>
      obtain rfl := Option.some.inj hcheck
      obtain rfl := Option.some.inj haidl
      have hrange := Target.carry_out_of_range_iff (Option.some.inj htype).symm rfl target
      rw [RangeCheck.eval_guard_of_upper rfl (by decide) hoperand, ← Bool.decide_or,
        decide_eq_decide.mpr hrange]
      rfl
  | int16 =>
      obtain rfl := Option.some.inj hcheck
      obtain rfl := Option.some.inj haidl
      have hholds := word.holds
      have hsigned : word.type.signed := by rw [← Option.some.inj htype]; rfl
      rw [← Option.some.inj htype] at hholds
      have hnonneg := IntType.holds_unsigned_of_signed hholds
      rw [RangeCheck.eval_guard_of_no_upper rfl hoperand, Target.carry_of_signed hsigned,
        decide_eq_decide.mpr ((not_congr hnonneg).trans Int.not_le).symm]
      rfl

/-- An integer that is not checked is one that the AIDL type has. -/
theorem Scalar.holds_of_unchecked (hcheck : scalar.rangeCheck? = none)
    (htype : scalar.intType? = some type) (haidl : scalar.aidl.intType? = some aidl)
    (hword : word.type = type) : aidl.Holds word.value := by
  obtain rfl := hword
  have hholds := word.holds
  cases scalar with
  | uint8 | int16 | uint32 | uint64 => cases hcheck
  | bool | float | double => cases haidl
  | int8 | int32 | int64 =>
      rw [← Option.some.inj htype] at hholds
      rwa [← Option.some.inj haidl]
  | uint16 =>
      rw [← Option.some.inj htype] at hholds
      have hrange : 0 ≤ word.value ∧ word.value < 2 ^ 16 := hholds
      obtain rfl := Option.some.inj haidl
      have hheld : -2 ^ 31 ≤ word.value ∧ word.value < 2 ^ 31 := by omega
      exact hheld

/-! ### Casts keep the integer -/

/-- The cast of an integer that the AIDL type has is that integer. In C++, and where it is cast to a
character, the integer has to be no object. -/
theorem Target.cast_exact (target : Target) {operand : CodeValue}
    (htype : scalar.intType? = some type) (haidl : scalar.aidl.intType? = some aidl)
    (hword : word.type = type) (hholds : aidl.Holds word.value)
    (hoperand : operand.word? = some (target.carry word))
    (hnumber : target = .java → scalar = .int16 → operand = .number (target.carry word))
    (hcpp : target ≠ .java → operand = .number (target.carry word)) :
    ∃ value, (target.castOf (.scalar scalar)).expr? = some value ∧
      value.word? operand = some ⟨aidl, word.value, hholds⟩ := by
  obtain ⟨wordType, value, holds⟩ := word
  obtain rfl := hword
  cases target with
  | ndk | cpp =>
      obtain rfl := hcpp (by decide)
      obtain ⟨code, hcode, rfl⟩ : ∃ code, scalar.aidl.codeType? = some code ∧
          code.intType = aidl := by
        cases scalar with
        | bool | float | double => cases haidl
        | _ => exact ⟨_, rfl, Option.some.inj haidl⟩
      refine ⟨.apply (.staticCast code) .operand, by rw [castOf, Cast.expr?, hcode]; rfl, ?_⟩
      exact congrArg some (Word.convert_of_holds hholds)
  | java =>
      cases scalar with
      | bool | float | double => cases haidl
      | int8 | uint8 | int32 | uint32 | int64 | uint64 =>
          obtain rfl := Option.some.inj htype
          obtain rfl := Option.some.inj haidl
          refine ⟨.operand, rfl, hoperand.trans ?_⟩
          exact congrArg some (Word.convert_of_holds hholds)
      | int16 =>
          obtain rfl := Option.some.inj htype
          obtain rfl := Option.some.inj haidl
          rw [hnumber rfl rfl, carry_of_signed rfl]
          refine ⟨.apply .charCast .operand, rfl, ?_⟩
          exact congrArg some (Word.convert_of_holds hholds)
      | uint16 =>
          obtain rfl := Option.some.inj htype
          obtain rfl := Option.some.inj haidl
          refine ⟨.apply .toUnsignedInt .operand, rfl, ?_⟩
          have hstep : CodeStep.toUnsignedInt.eval operand =
              some (.number (((java.carry ⟨_, value, holds⟩).convert .char).convert .int32)) := by
            simp only [CodeStep.eval, hoperand]
            rfl
          rw [CodeExpr.word?, CodeExpr.eval, CodeExpr.eval, Option.bind_some, hstep]
          refine congrArg some (Word.ext rfl ?_)
          exact (congrArg _ (IntType.wrap_back holds)).trans (IntType.wrap_of_holds hholds)

end Integers

/-! ### The integers of a field -/

/-- Where the integers of a field are: the field is one, or they are the elements of a vector or,
if it is `fixed`, of an array. -/
inductive IntegerPlace where
  | whole
  | element (fixed : Bool)

namespace IntegerPlace

/-- How an integer of the field is read. -/
def read (place : IntegerPlace) (target : Target) (scalar : Scalar) : CodeExpr :=
  match place with
  | .whole => .operand
  | .element fixed => (target.elementRead fixed (some (.scalar scalar))).expr

/-- What the field is where `word` is its integer, or the element of the round. The vectors of Java
are lists of objects. -/
def held (place : IntegerPlace) (target : Target) (word : Word) : CodeValue :=
  match place with
  | .whole => .number word
  | .element fixed => if target = .java ∧ !fixed then .list word else .array word

/-- The container that elements are written to. -/
def container (target : Target) (access : Access) (name : String) : String :=
  match target, access with
  | .ndk, .member | .cpp, .member => "out->" ++ name
  | .java, .member => "out." ++ name
  | _, .accessor => name

/-- The statement that writes a converted integer. -/
def write (place : IntegerPlace) (target : Target) (access : Access) (owner : QualifiedName)
    (name value : String) : String :=
  match place with
  | .whole => target.writing access owner name value
  | .element _ => target.storeElement (container target access name) value

theorem write_whole (target : Target) (access : Access) (owner : QualifiedName) (name : String) :
    IntegerPlace.whole.write target access owner name = target.assign access owner name :=
  funext fun value => (target.assign_eq_writing access owner name value).symm

theorem write_element (fixed : Bool) (target : Target) (access : Access) (owner : QualifiedName)
    (name : String) :
    (IntegerPlace.element fixed).write target access owner name =
      target.storeElement (target.sink access owner name).container := by
  have hcontainer : (target.sink access owner name).container = container target access name := by
    cases target <;> cases access <;> rfl
  rw [hcontainer]
  rfl

/-- The block of a field has these lines for each of its integers: the elements of a container are
converted in a loop. -/
def Performs (place : IntegerPlace) (target : Target) (source : String)
    (each lines : List String) : Prop :=
  match place with
  | .whole => lines = each
  | .element fixed => ∃ before after,
      lines = before ++ target.loopHead source fixed :: each.map ("        " ++ ·)
        ++ "    \x7d" :: after

theorem exists_operand (place : IntegerPlace) (target : Target) {scalar : Scalar}
    {type : IntType} {word : Word} (htype : scalar.intType? = some type)
    (hword : word.type = type) :
    ∃ operand, (place.read target scalar).eval (place.held target (target.carry word)) =
        some operand ∧
      operand.word? = some (target.carry word) ∧
      (target = .java → scalar = .int16 → operand = .number (target.carry word)) ∧
      (target ≠ .java → operand = .number (target.carry word)) := by
  cases place with
  | whole => exact ⟨.number (target.carry word), rfl, rfl, fun _ _ => rfl, fun _ => rfl⟩
  | element fixed =>
      by_cases hvector : target = .java ∧ fixed = false
      · obtain ⟨rfl, rfl⟩ := hvector
        by_cases hshort : scalar = .int16
        · -- The short is taken out of its object, which changes nothing of it.
          subst hshort hword
          have hsigned : word.type.signed := by rw [← Option.some.inj htype]; rfl
          have hcarry := Target.carry_of_signed hsigned .java
          refine ⟨.number word, ?_, by rw [hcarry]; rfl, fun _ _ => by rw [hcarry],
            fun hjava => absurd rfl hjava⟩
          rw [hcarry]
          change some (CodeValue.number (word.convert .short)) = _
          rw [show IntType.short = word.type from Option.some.inj htype, Word.convert_self]
        · refine ⟨.object (Target.java.carry word), ?_, rfl, fun _ h => absurd h hshort,
            fun hjava => absurd rfl hjava⟩
          simp [read, held, Target.elementRead, hshort, ElementRead.expr, CodeExpr.eval,
            CodeStep.eval]
      · refine ⟨.number (target.carry word), ?_, rfl, fun _ _ => rfl, fun _ => rfl⟩
        cases target <;> cases fixed <;> first | rfl | exact absurd ⟨rfl, rfl⟩ hvector

/-- The code for an integer of the field. -/
def code? (place : IntegerPlace) (target : Target) (scalar : Scalar) : Option IntegerCode :=
  (target.castOf (.scalar scalar)).expr?.map fun value =>
    { read := place.read target scalar, guard := scalar.rangeCheck?.map RangeCheck.guard, value }

variable {place : IntegerPlace} {target : Target} {scalar : Scalar} {code : IntegerCode}
  {type aidl : IntType} {word : Word}

theorem exists_code (place : IntegerPlace) (target : Target)
    (htype : scalar.intType? = some type) : ∃ code, place.code? target scalar = some code := by
  cases target with
  | ndk | cpp =>
      cases scalar with
      | bool | float | double => cases htype
      | _ => exact ⟨_, rfl⟩
  | java =>
      cases scalar with
      | bool | float | double => cases htype
      | _ => exact ⟨_, rfl⟩

theorem read_of_code (h : place.code? target scalar = some code) :
    code.read = place.read target scalar := by
  obtain ⟨value, -, rfl⟩ := Option.map_eq_some_iff.mp h
  rfl

/-- The guard fails on the integers that the AIDL type does not have, and the value of any other is
the integer itself. -/
theorem run_exact (h : place.code? target scalar = some code) (htype : scalar.intType? = some type)
    (haidl : scalar.aidl.intType? = some aidl) (hword : word.type = type) :
    code.run? (place.held target (target.carry word)) =
      some (if h : aidl.Holds word.value then .stored ⟨aidl, word.value, h⟩ else .failed) := by
  obtain ⟨value, hvalue, rfl⟩ := Option.map_eq_some_iff.mp h
  obtain ⟨operand, hoperand, hcarried, hnumber, hcpp⟩ := place.exists_operand target htype hword
  have hfails : (IntegerCode.fails? ⟨place.read target scalar,
      scalar.rangeCheck?.map RangeCheck.guard, value⟩ operand) =
      some (decide ¬aidl.Holds word.value) := by
    cases hcheck : scalar.rangeCheck? with
    | none =>
        have hholds := Scalar.holds_of_unchecked hcheck htype haidl hword
        simp [IntegerCode.fails?, hholds]
    | some check => exact Scalar.guard_exact target hcheck htype haidl hword hcarried
  simp only [IntegerCode.run?, hoperand, hfails, Option.bind_eq_bind, Option.bind_some]
  by_cases hholds : aidl.Holds word.value
  · obtain ⟨cast, hcast, hresult⟩ :=
      target.cast_exact htype haidl hword hholds hcarried hnumber hcpp
    obtain rfl := Option.some.inj (hvalue.symm.trans hcast)
    simp [hholds, hresult]
  · simp [hholds]

/-- Java carries this number as a negative one, which the guard finds. -/
example : (IntegerPlace.whole.code? .java .uint32).bind (·.run?
    (.number (Target.java.carry ⟨⟨false, 32, by decide⟩, 0xf0000000, by decide⟩))) =
      some .failed := by
  rfl

end IntegerPlace

/-- The lines of a transfer: the check, if there is one, and the write after it. -/
def Transfer.lines (transfer : Transfer) (target : Target) (write : String → String) :
    List String :=
  transfer.preparation target ++ [write transfer.value]

theorem Target.givesUp_failure (target : Target) (label : String) :
    target.GivesUp (target.failure label) := by
  cases target with
  | ndk | cpp => rfl
  | java =>
      have hsplit : "throw new RuntimeException(\"Unsafe conversion between signed and unsigned "
            ++ "scalars " = "throw new RuntimeException(\""
            ++ "Unsafe conversion between signed and unsigned scalars " := by
        simp only [String.reduceAppend]
      refine ⟨"Unsafe conversion between signed and unsigned scalars " ++ "for field: " ++ label,
        ?_⟩
      simp only [← String.append_assoc, ← hsplit]
      simp only [String.reduceAppend]
      rfl

theorem RangeCheck.lines_eq (check : RangeCheck) (target : Target) (source : String) :
    ∃ comment, check.lines target source =
      ["// " ++ comment, "if (" ++ check.guard.text source ++ ") \x7b",
        "    " ++ target.failure source, "\x7d"] := by
  refine ⟨"FIXME This requires conversion between signed and unsigned. Change this if it doesn't "
    ++ "suit your needs.", ?_⟩
  rw [lines, condition_eq_text]
  simp only [String.reduceAppend]

/-- The lines of the transfer of an integer are its code. -/
theorem IntegerPlace.emitted_lines {place : IntegerPlace} {target : Target} {scalar : Scalar}
    {code : IntegerCode} (h : place.code? target scalar = some code) (source : String)
    (write : String → String) :
    code.Emitted target source write
      ((Transfer.of target (.scalar scalar) (code.read.text source)).lines target write) := by
  obtain ⟨value, hvalue, rfl⟩ := Option.map_eq_some_iff.mp h
  have hcomments : target.valueComments (.scalar scalar) = [] := by
    cases target <;> rfl
  simp only [Transfer.lines, Transfer.preparation, Transfer.value, Transfer.of, hcomments,
    Cast.apply_eq_text hvalue, List.append_nil, Atom.rangeCheck?]
  cases hcheck : scalar.rangeCheck? with
  | none => rfl
  | some check =>
      obtain ⟨comment, hlines⟩ := check.lines_eq target ((place.read target scalar).text source)
      refine ⟨comment, _, target.givesUp_failure ((place.read target scalar).text source), ?_⟩
      dsimp only
      rw [hlines]
      rfl

/-! ### Fields -/

namespace ConverterFunction

/-- The expression that reads a merged field. -/
def sourceOf (function : ConverterFunction) (field : Field) : String :=
  function.access.reading (Text.orNone field.access)

/-- The function converts the integers of a field exactly. Its text has the lines of the code for
each of them, in which the guard is on the expression that is then cast and written. On an integer
of the type `given`, as the target carries it, the guard fails if the type `wanted` does not have
it, and otherwise the integer itself is written as one of the type `wanted`. -/
structure ConvertsExactly (function : ConverterFunction) (field : Field) (place : IntegerPlace)
    (code : IntegerCode) (given wanted : IntType) : Prop where
  emitted : ∃ body lines each,
    function.text = function.target.functionText function.type body ∧
    function.target.placed function.access function.type (Text.orNone field.name) lines <:+:
      body ∧
    place.Performs function.target (function.sourceOf field) each lines ∧
    code.Emitted function.target (function.sourceOf field)
      (place.write function.target function.access function.type (Text.orNone field.name)) each
  exact : ∀ word : Word, word.type = given →
    code.run? (place.held function.target (function.target.carry word)) =
      some (if h : wanted.Holds word.value then .stored ⟨wanted, word.value, h⟩ else .failed)

end ConverterFunction

namespace Catalog

/-- Unfolded, a type is that of an integer, or of a container of integers. -/
def HoldsIntegers (catalog : Catalog) (type : Ty) (scalar : Scalar) : IntegerPlace → Prop
  | .whole => catalog.StandsFor type (.scalar scalar)
  | .element false => ∃ element, catalog.StandsFor type (.vec element) ∧
      catalog.StandsFor element (.scalar scalar)
  | .element true => ∃ element size, catalog.StandsFor type (.array element size) ∧
      catalog.StandsFor element (.scalar scalar)

variable {catalog : Catalog} {type : Ty} {scalar : Scalar} {place : IntegerPlace}
  {descriptor : Descriptor}

theorem StandsFor.descriptor_eq {element plain : Ty}
    (h : catalog.StandsFor element (.scalar scalar)) (hplain : catalog.StandsFor element plain)
    (hdescribed : catalog.DescribedAs plain descriptor) : descriptor = .scalar scalar := by
  rw [h.unique hplain] at hdescribed
  cases hdescribed
  rfl

/-- The lines for a field that holds integers are those of the transfer of one, in a loop if the
field is a container. -/
theorem HoldsIntegers.performs (hinteger : catalog.HoldsIntegers type scalar place)
    (h : catalog.describe type = .ok descriptor) (converted : QualifiedName → Bool)
    (registry : Registry) (target : Target) (access : Access) (owner : QualifiedName)
    (source name : String) :
    place.Performs target source
      ((Transfer.of target (.scalar scalar) ((place.read target scalar).text source)).lines target
        (place.write target access owner name))
      ((FieldPlan.of converted registry descriptor).lines target access owner source name) := by
  cases place with
  | whole =>
      obtain ⟨plain, hplain, hdescribed⟩ := describedAs_of_describe h
      obtain rfl := StandsFor.descriptor_eq hinteger hplain hdescribed
      rw [IntegerPlace.write_whole]
      rfl
  | element fixed =>
      rw [IntegerPlace.write_element, IntegerPlace.read, ← ElementRead.apply_eq_text]
      cases fixed with
      | false =>
          obtain ⟨element, hvec, helement⟩ := hinteger
          cases hvec.describedAs h with
          | vec hplain hinner =>
              obtain rfl := helement.descriptor_eq hplain hinner
              exact ⟨_, _, target.loop_eq _ _ _ _ _ _⟩
      | true =>
          obtain ⟨element, size, harray, helement⟩ := hinteger
          cases harray.describedAs h with
          | array hplain hinner =>
              obtain rfl := helement.descriptor_eq hplain hinner
              exact ⟨_, _, target.loop_eq _ _ _ _ _ _⟩

variable {target : Target} {converted : QualifiedName → Bool} {registry : Registry}
  {schema : MergedSchema} {function : ConverterFunction} {field : Field} {intType : IntType}

/-- The integers of every merged field are converted exactly, be they the field itself or the
elements of a container, under typedefs or not. -/
theorem integers_converted_exactly
    (h : catalog.converterFunction target converted registry schema = .ok function)
    (hstyle : schema.style ≠ .union) (hfield : field ∈ schema.fields)
    (hinteger : catalog.HoldsIntegers field.type scalar place)
    (htype : scalar.intType? = some intType) :
    ∃ aidl code, scalar.aidl.intType? = some aidl ∧
      function.ConvertsExactly field place code intType aidl := by
  obtain ⟨blocks, hblocks, rfl⟩ := blocks_of_converterFunction hstyle h
  obtain ⟨block, hblock, hmade⟩ := Outcome.mapM_mem hblocks hfield
  obtain ⟨descriptor, hdescribe, rfl⟩ := Outcome.except_map_ok_iff.mp hmade
  obtain ⟨aidl, haidl⟩ : ∃ aidl, scalar.aidl.intType? = some aidl := by
    cases scalar with
    | bool | float | double => cases htype
    | _ => exact ⟨_, rfl⟩
  obtain ⟨code, hcode⟩ := place.exists_code target htype
  have hemitted := IntegerPlace.emitted_lines hcode
    ((accessOf schema.style).reading (Text.orNone field.access))
    (place.write target (accessOf schema.style) schema.name (Text.orNone field.name))
  have hperforms := hinteger.performs hdescribe converted registry target (accessOf schema.style)
    schema.name ((accessOf schema.style).reading (Text.orNone field.access))
    (Text.orNone field.name)
  rw [← IntegerPlace.read_of_code hcode] at hperforms
  have hplaced := FieldBlock.placed_isInfix hblock target (accessOf schema.style) schema.name
  rw [FieldBlock.placed, FieldBlock.lines, Access.read_eq_reading] at hplaced
  refine ⟨aidl, code, haidl,
    ⟨_, _, _, ConverterFunction.text_of_body rfl, hplaced, hperforms, hemitted⟩, ?_⟩
  intro word hword
  exact IntegerPlace.run_exact hcode htype haidl hword

/-- A count behind a typedef and a vector of samples. -/
def sampleSeries : Catalog :=
  ⟨[{ name := typeName "Count", comment := none, scopes := [], subTypes := []
      body := .typedef (.scalar .uint32) },
    { name := typeName "Series", comment := none, scopes := [], subTypes := []
      body := .compound .struct fields }]⟩
where
  typeName (name : String) : QualifiedName := ⟨"p", ⟨1, 0⟩, some name, []⟩
  field (name : String) (type : Ty) : Field :=
    { name := some name, type, owner := typeName "Series", origin := ⟨1, 0⟩
      access := some name, comment := none }
  fields : List Field :=
    [field "count" (.named (.declared (typeName "Count"))),
     field "samples" (.vec (.scalar .int16))]
  schema : MergedSchema :=
    { name := typeName "Series", style := .struct, fields, subTypes := [] }

/-- Both are converted exactly, by the lines that the function has for them. -/
theorem integers_converted_sampleSeries :
    ∃ function body, sampleSeries.converterFunction .java (fun _ => true) .default
        sampleSeries.schema = .ok function ∧
      (∃ aidl code, Scalar.uint32.aidl.intType? = some aidl ∧
        function.ConvertsExactly
          (sampleSeries.field "count" (.named (.declared (sampleSeries.typeName "Count"))))
          .whole code ⟨false, 32, by decide⟩ aidl) ∧
      (∃ aidl code, Scalar.int16.aidl.intType? = some aidl ∧
        function.ConvertsExactly (sampleSeries.field "samples" (.vec (.scalar .int16)))
          (.element false) code ⟨true, 16, by decide⟩ aidl) ∧
      function.text = Target.java.functionText (sampleSeries.typeName "Series") body ∧
      "if (in.count > 2147483647 || in.count < 0) \x7b" ∈ body ∧
      "        out.samples[i] = (char) in.samples.get(i).shortValue();" ∈ body := by
  obtain ⟨function, hfunction⟩ : ∃ function, sampleSeries.converterFunction .java
      (fun _ => true) .default sampleSeries.schema = .ok function := ⟨_, rfl⟩
  have hcountType : sampleSeries.HoldsIntegers (.named (.declared (sampleSeries.typeName "Count")))
      .uint32 .whole := .typedef rfl (.self rfl)
  have hsampleType : sampleSeries.HoldsIntegers (.vec (.scalar .int16)) .int16 (.element false) :=
    ⟨.scalar .int16, .self rfl, .self rfl⟩
  have hcount := integers_converted_exactly hfunction (by decide) List.mem_cons_self hcountType rfl
  have hsamples := integers_converted_exactly hfunction (by decide)
    (List.mem_cons_of_mem _ List.mem_cons_self) hsampleType rfl
  obtain rfl := Except.ok.inj hfunction
  exact ⟨_, _, hfunction, hcount, hsamples, ConverterFunction.text_of_body rfl,
    by decide +kernel, by decide +kernel⟩

end Catalog

end HalBridge
