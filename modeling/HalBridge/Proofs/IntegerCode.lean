import HalBridge.Converter.Write
import HalBridge.Proofs.MachineIntegers

/-!
# Generated code for integers

The expressions and conditions that are generated for an integer of a field, with the text that
they are written as and the meaning of this text. What a read, a check and a cast are written as is
the text of such an expression, so that what is proved about its value is proved about the
generated line.
-/

namespace HalBridge

/-! ### Syntax -/

/-- The integer types that casts name. -/
inductive CodeType where
  | int8
  | char16
  | int32
  | int64
deriving DecidableEq

/-- What is done to one value. In a loop, `element` and `get` take the element of the round. -/
inductive CodeStep where
  | element
  | get
  | shortValue
  | staticCast (type : CodeType)
  | charCast
  | toUnsignedInt
deriving DecidableEq

/-- An expression over an operand. -/
inductive CodeExpr where
  | operand
  | literal (value : Nat) (long : Bool)
  | apply (step : CodeStep) (expr : CodeExpr)
deriving DecidableEq

inductive CodeCondition where
  | less (left right : CodeExpr)
  | greater (left right : CodeExpr)
  | either (left right : CodeCondition)

/-! ### Text -/

def CodeType.text : CodeType → String
  | .int8 => "int8_t"
  | .char16 => "char16_t"
  | .int32 => "int32_t"
  | .int64 => "int64_t"

/-- A step as it is written for a value that is written as `inner`. -/
def CodeStep.text (inner : String) : CodeStep → String
  | .element => inner ++ "[i]"
  | .get => inner ++ ".get(i)"
  | .shortValue => inner ++ ".shortValue()"
  | .staticCast type => "static_cast<" ++ type.text ++ ">(" ++ inner ++ ")"
  | .charCast => "(char) " ++ inner
  | .toUnsignedInt => "Short.toUnsignedInt(" ++ inner ++ ")"

/-- An expression as it is written for an operand that is written as `source`. -/
def CodeExpr.text (source : String) : CodeExpr → String
  | .operand => source
  | .literal value long => toString value ++ (if long then "L" else "")
  | .apply step expr => step.text (expr.text source)

def CodeCondition.text (source : String) : CodeCondition → String
  | .less left right => left.text source ++ " < " ++ right.text source
  | .greater left right => left.text source ++ " > " ++ right.text source
  | .either left right => left.text source ++ " || " ++ right.text source

/-! ### Meaning -/

/-- What an expression can denote. Of a container only the element of the round matters: that of an
array is a number, and a list has objects around numbers. -/
inductive CodeValue where
  | number (word : Word)
  | object (word : Word)
  | array (word : Word)
  | list (word : Word)

/-- The integer that is computed with; an object is opened where a number is needed. -/
def CodeValue.word? : CodeValue → Option Word
  | .number word | .object word => some word
  | .array _ | .list _ => none

def CodeType.intType : CodeType → IntType
  | .int8 => ⟨true, 8, by decide⟩
  | .char16 => ⟨false, 16, by decide⟩
  | .int32 => .int32
  | .int64 => .int64

/-- The type of a Java `short`. -/
def IntType.short : IntType :=
  ⟨true, 16, by decide⟩

/-- The type of a Java `char`. -/
def IntType.char : IntType :=
  ⟨false, 16, by decide⟩

/-- The result of a step, if there is one. A list cannot be indexed and an object is not cast to a
character; `Short.toUnsignedInt` takes a short and gives the unsigned number with its bits. -/
def CodeStep.eval : CodeStep → CodeValue → Option CodeValue
  | .element, .array word => some (.number word)
  | .get, .list word => some (.object word)
  | .shortValue, .object word => some (.number (word.convert .short))
  | .staticCast type, .number word => some (.number (word.convert type.intType))
  | .charCast, .number word => some (.number (word.convert .char))
  | .toUnsignedInt, value => do
      let word ← value.word?
      if word.type = .short then return .number ((word.convert .char).convert .int32) else none
  | _, _ => none

/-- The value of an expression, if it has one where the operand is `held`. -/
def CodeExpr.eval (held : CodeValue) : CodeExpr → Option CodeValue
  | .operand => some held
  | .literal value long => (Word.literal? value long).map .number
  | .apply step expr => (expr.eval held).bind step.eval

def CodeExpr.word? (held : CodeValue) (expr : CodeExpr) : Option Word :=
  (expr.eval held).bind CodeValue.word?

@[simp]
theorem CodeExpr.word_operand (held : CodeValue) : CodeExpr.operand.word? held = held.word? :=
  rfl

@[simp]
theorem CodeExpr.word_literal (held : CodeValue) (value : Nat) (long : Bool) :
    (CodeExpr.literal value long).word? held = Word.literal? value long := by
  rw [word?, eval]
  cases Word.literal? value long with
  | none => rfl
  | some word => rfl

def CodeCondition.eval (held : CodeValue) : CodeCondition → Option Bool
  | .less left right => return (← left.word? held).lt (← right.word? held)
  | .greater left right => return (← right.word? held).lt (← left.word? held)
  | .either left right => return (← left.eval held) || (← right.eval held)

/-! ### What is generated -/

/-- How an element is read. -/
def ElementRead.expr : ElementRead → CodeExpr
  | .index => .apply .element .operand
  | .get => .apply .get .operand
  | .getShort => .apply .shortValue (.apply .get .operand)

theorem ElementRead.apply_eq_text (read : ElementRead) (source : String) :
    read.apply source = read.expr.text source := by
  cases read with
  | index | get => rfl
  | getShort =>
      change source ++ ".get(i).shortValue()" = source ++ ".get(i)" ++ ".shortValue()"
      rw [String.append_assoc]
      simp only [String.reduceAppend]

/-- The condition of a check. -/
def RangeCheck.guard (check : RangeCheck) : CodeCondition :=
  match check.upper with
  | none => .less .operand (.literal 0 false)
  | some upper =>
      .either (.greater .operand (.literal upper check.long)) (.less .operand (.literal 0 false))

theorem RangeCheck.condition_eq_text (check : RangeCheck) (source : String) :
    check.condition source = check.guard.text source := by
  have hzero : source ++ " < 0" =
      (CodeCondition.less .operand (.literal 0 false)).text source := by
    change source ++ " < 0" = source ++ " < " ++ (toString 0 ++ "")
    rw [String.append_assoc]
    rfl
  obtain ⟨upper, long⟩ := check
  cases upper with
  | none => exact hzero
  | some upper =>
      simp only [condition, guard, CodeCondition.text, CodeExpr.text, bound] at hzero ⊢
      rw [← hzero]
      simp only [String.append_assoc]

/-- The type that a cast to a scalar names. -/
def Aidl.Scalar.codeType? : Aidl.Scalar → Option CodeType
  | .byte => some .int8
  | .char => some .char16
  | .int => some .int32
  | .long => some .int64
  | .boolean | .float | .double => none

/-- A cast of an integer; those to enums and strings are of other values. -/
def Cast.expr? : Cast → Option CodeExpr
  | .keep => some .operand
  | .toScalar type => type.codeType?.map fun code => .apply (.staticCast code) .operand
  | .toChar => some (.apply .charCast .operand)
  | .fromUnsignedShort => some (.apply .toUnsignedInt .operand)
  | .toEnum _ | .toString16 => none

theorem Cast.apply_eq_text {cast : Cast} {expr : CodeExpr} (h : cast.expr? = some expr)
    (source : String) : cast.apply source = expr.text source := by
  cases cast with
  | keep | toChar | fromUnsignedShort =>
      obtain rfl := Option.some.inj h
      rfl
  | toScalar type =>
      obtain ⟨code, hcode, rfl⟩ := Option.map_eq_some_iff.mp h
      have htext : type.cppText = code.text := by
        cases type with
        | boolean | float | double => cases hcode
        | byte | char | int | long =>
            obtain rfl := Option.some.inj hcode
            rfl
      change "static_cast<" ++ type.cppText ++ ">(" ++ source ++ ")" = _
      rw [htext]
      rfl
  | toEnum | toString16 => cases h

end HalBridge
