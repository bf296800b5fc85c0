import HalBridge.Converter.Source
import HalBridge.Proofs.TextLines
import Mathlib.Data.List.Forall2

/-!
# The texts of converter sources

What stands in a generated source: the head of a function and the lines of its body, the line that
calls another function, the statement that writes a value, and what is around the functions of a
file. The forms are spelled out here, and what is generated has them.
-/

namespace HalBridge

open Text

namespace Target

/-! ### Lines -/

/-- The head of the function for a type. -/
def head (target : Target) (q : QualifiedName) : String :=
  match target with
  | .ndk | .cpp =>
      "__attribute__((warn_unused_result)) bool translate(const " ++ target.legacyType q
        ++ "& in, " ++ target.canonicalType q ++ "* out)"
  | .java =>
      "static public " ++ target.canonicalType q ++ " h2aTranslate(" ++ target.legacyType q
        ++ " in)"

theorem signature_eq_head (target : Target) (q : QualifiedName) :
    target.signature q = target.head q := by
  cases target <;> rfl

/-- The statement that writes a value into the field `name` of a result of type `owner`. -/
def writing (target : Target) (access : Access) (owner : QualifiedName) (name value : String) :
    String :=
  match target, access with
  | .ndk, .member | .cpp, .member => "out->" ++ name ++ " = " ++ value ++ ";"
  | .java, .member => "out." ++ name ++ " = " ++ value ++ ";"
  | .ndk, .accessor | .cpp, .accessor =>
      "out->set<" ++ target.canonicalType owner ++ "::" ++ name ++ ">(" ++ value ++ ");"
  | .java, .accessor => "out.set" ++ capitalize name ++ "(" ++ value ++ ");"

theorem assign_eq_writing (target : Target) (access : Access) (owner : QualifiedName)
    (name value : String) :
    target.assign access owner name value = target.writing access owner name value := by
  cases target <;> cases access <;> rfl

/-- The lines that convert the field `name`, which is of this type and read by `source`, with a call
of the function for the type. -/
def callLines (target : Target) (access : Access) (owner type : QualifiedName)
    (source name : String) : List String :=
  match target, access with
  | .ndk, .member | .cpp, .member =>
      ["if (!translate(" ++ source ++ ", &out->" ++ name ++ ")) return false;"]
  | .java, .member => ["out." ++ name ++ " = h2aTranslate(" ++ source ++ ");"]
  | .ndk, .accessor | .cpp, .accessor =>
      ["\x7b",
       "    " ++ target.canonicalType type ++ " " ++ name ++ ";",
       "    if (!translate(" ++ source ++ ", &" ++ name ++ ")) return false;",
       "    " ++ target.writing .accessor owner name ("std::move(" ++ name ++ ")"),
       "\x7d"]
  | .java, .accessor => [target.writing .accessor owner name ("h2aTranslate(" ++ source ++ ")")]

theorem call_eq_callLines (target : Target) (access : Access) (owner type : QualifiedName)
    (source name : String) :
    target.call access owner type source name =
      target.callLines access owner type source name := by
  cases target <;> cases access <;> rfl

/-- The check that a value of an enum is the same on both sides. -/
def valueCheck (target : Target) (q : QualifiedName) (value : String) : String :=
  "static_assert(" ++ target.canonicalType q ++ "::" ++ value ++ " == static_cast<"
    ++ target.canonicalType q ++ ">(" ++ target.legacyType q ++ "::" ++ value ++ "));"

theorem enumAssert_eq_valueCheck (target : Target) (q : QualifiedName) (value : String) :
    target.enumAssert q value = target.valueCheck q value :=
  rfl

/-- The label of the case for the tag `name` of a safe union. -/
def label (target : Target) (union : QualifiedName) (name : String) : String :=
  match target with
  | .ndk | .cpp => "case " ++ target.legacyType union ++ "::hidl_discriminator::" ++ name ++ ":"
  | .java => "case " ++ target.legacyType union ++ ".hidl_discriminator." ++ name ++ ":"

theorem caseLabel_eq_label (target : Target) (union : QualifiedName) (name : String) :
    target.caseLabel union name = target.label union name := by
  cases target <;> rfl

theorem label_injective (target : Target) (union : QualifiedName) :
    Function.Injective (target.label union) := by
  intro name other h
  have hlists := congrArg String.toList h
  cases target with
  | ndk | cpp | java => exact String.toList_inj.mp (by simpa [label] using hlists)

/-- The lines of a block as they stand in a body: in a safe union they are a case. -/
def placed (target : Target) (access : Access) (type : QualifiedName) (name : String)
    (lines : List String) : List String :=
  match access with
  | .member => lines
  | .accessor =>
      ["    " ++ target.label type name] ++ lines.map (fun line => indented (indented line))
        ++ ["        break;"]

/-- The lines of a body before its blocks. -/
def opening (target : Target) (access : Access) (type : QualifiedName) : List String :=
  (match target with
    | .ndk | .cpp => []
    | .java => [target.canonicalType type ++ " out = new " ++ target.canonicalType type ++ "();"])
  ++ match access with
    | .member => []
    | .accessor => ["switch (in.getDiscriminator()) \x7b"]

/-- The lines of a body after its blocks. -/
def closing (target : Target) (access : Access) : List String :=
  let last :=
    match target with
    | .ndk | .cpp => "return true;"
    | .java => "return out;"
  let other :=
    match target with
    | .ndk | .cpp => "return false;"
    | .java =>
        "throw new RuntimeException(\"Unknown discriminator value: \" + "
          ++ "Integer.toString(in.getDiscriminator()));"
  match access with
  | .member => [last]
  | .accessor => ["    default:", "        " ++ other, "\x7d", last]

/-! ### Functions -/

/-- The text of a function with this body. -/
def functionText (target : Target) (type : QualifiedName) (body : List String) : String :=
  target.head type ++ " \x7b\n" ++ String.join (body.map fun line => indented line ++ "\n")
    ++ "\x7d\n"

/-- The text in place of a function that has to be written by hand. -/
def stubText (target : Target) (type : QualifiedName) : String :=
  "// FIXME not enough information to safely convert. Remove this function or "
    ++ "fill it out using the custom discriminators.\n// " ++ target.head type ++ "\n"

end Target

/-- The lines of a block where it stands. -/
def FieldBlock.placed (block : FieldBlock) (target : Target) (access : Access)
    (type : QualifiedName) : List String :=
  target.placed access type block.name (block.lines target access type)

namespace ConverterFunction

theorem bodyLines_eq (target : Target) (type : QualifiedName) (access : Access)
    (blocks : List FieldBlock) :
    bodyLines target type access blocks =
      target.opening access type ++ blocks.flatMap (·.placed target access type)
        ++ target.closing access := by
  cases access with
  | member => cases target <;> rfl
  | accessor =>
      have hcase : ∀ block : FieldBlock,
          block.caseLines target type = block.placed target .accessor type := by
        intro block
        simp only [FieldBlock.caseLines, FieldBlock.placed, Target.placed, indentLines_eq,
          List.map_map, indentation, Target.caseLabel_eq_label]
        rfl
      simp only [bodyLines, hcase, indentLines_eq]
      cases target <;> simp [Target.opening, Target.closing, Target.prologue, Target.epilogue,
        Target.defaultCase, Target.switchOpen, indented]

theorem text_of_body {function : ConverterFunction} {body : List String}
    (h : function.body? = some body) :
    function.text = function.target.functionText function.type body := by
  rw [text, h]
  dsimp only
  rw [joinLines_newline (by simp), indentLines_eq, signature, Target.signature_eq_head]
  simp [Target.functionText, String.append_assoc, Function.comp_def]

theorem text_of_stub {function : ConverterFunction} (h : function.blocks = none) :
    function.text = function.target.stubText function.type := by
  rw [text, body?, h, signature, Target.signature_eq_head]
  rfl

/-- The text of a function: its head and, between braces, a block for each field. A function without
blocks is commented out. -/
inductive Written (function : ConverterFunction) : String → Prop
  | stub (h : function.blocks = none) :
      Written function (function.target.stubText function.type)
  | defined {blocks : List FieldBlock} (h : function.blocks = some blocks) :
      Written function (function.target.functionText function.type
        (function.target.opening function.access function.type
          ++ blocks.flatMap (·.placed function.target function.access function.type)
          ++ function.target.closing function.access))

theorem written_text (function : ConverterFunction) : function.Written function.text := by
  cases hblocks : function.blocks with
  | none =>
      rw [text_of_stub hblocks]
      exact .stub hblocks
  | some blocks =>
      rw [text_of_body (by rw [body?, hblocks]; rfl), bodyLines_eq]
      exact .defined hblocks

/-- The text of a function for Java begins and ends in a fixed way. -/
theorem text_of_java {function : ConverterFunction} (hjava : function.target = .java)
    (hstub : ¬function.isStub) :
    ∃ front, function.text = front ++ "\n" ∧ front.toList.head? = some 's' := by
  have hblocks : function.blocks ≠ none := by simpa [isStub] using hstub
  obtain ⟨blocks, hblocks⟩ := Option.ne_none_iff_exists'.mp hblocks
  rw [text_of_body (by rw [body?, hblocks]; rfl), hjava]
  refine ⟨Target.java.head function.type ++ " \x7b\n" ++
    String.join ((bodyLines .java function.type function.access blocks).map
      fun line => indented line ++ "\n") ++ "\x7d", ?_, ?_⟩
  · simp only [Target.functionText, String.append_assoc, String.reduceAppend]
  · change ("static public " ++ Target.java.canonicalType function.type ++ " h2aTranslate("
      ++ Target.java.legacyType function.type ++ " in)" ++ _ ++ _ ++ _).toList.head? = _
    simp only [String.append_assoc, String.toList_append, List.head?_append]
    rfl

end ConverterFunction

/-! ### Which lines are calls -/

/-- The character that a block begins with. -/
def firstMark (lines : List String) : Option Char :=
  lines.head?.bind (·.toList.head?)

theorem firstMark_singleton (line : String) : firstMark [line] = line.toList.head? :=
  rfl

theorem head_append {front : String} {c : Char} (h : front.toList.head? = some c) (back : String) :
    (front ++ back).toList.head? = some c := by
  rw [String.toList_append, List.head?_append, h, Option.some_or]

namespace Target

theorem firstMark_callLines (target : Target) (access : Access) (owner type : QualifiedName)
    (source name : String) :
    firstMark (target.callLines access owner type source name) =
      some (if target = .java then 'o' else if access = .member then 'i' else '\x7b') := by
  cases target with
  | ndk | cpp =>
      cases access with
      | member =>
          change ("if (!translate(" ++ source ++ ", &out->" ++ name
            ++ ")) return false;").toList.head? = _
          simp only [String.append_assoc]
          exact head_append rfl _
      | accessor => rfl
  | java =>
      cases access with
      | member =>
          change ("out." ++ name ++ " = h2aTranslate(" ++ source ++ ");").toList.head? = _
          simp only [String.append_assoc]
          exact head_append rfl _
      | accessor =>
          change ("out.set" ++ capitalize name ++ "(" ++ _ ++ ");").toList.head? = _
          simp only [String.append_assoc]
          exact head_append rfl _

end Target

theorem Target.firstMark_loop (target : Target) (source : String) (fixed : Bool)
    (elementType : String) (preparation : List String) (value : String) (sink : Sink) :
    firstMark (target.loop source fixed elementType preparation value sink) =
      some (if target = .java then 'i' else '\x7b') := by
  cases target with
  | ndk | cpp => rfl
  | java =>
      change ("if (" ++ source ++ " != null) \x7b").toList.head? = _
      rw [String.append_assoc]
      exact head_append rfl _

namespace FieldPlan

variable {plan : FieldPlan} {name : String}

/-- A field that is marked has no other line. -/
theorem lines_of_marker {marker : String} (target : Target) (access : Access)
    (owner : QualifiedName) (source : String) (h : plan.marker? name = some marker) :
    plan.lines target access owner source name = [marker] := by
  cases plan with
  | unhandled | plainUnion | unknownType | nestedContainer | compoundElements =>
      obtain rfl := Option.some.inj h
      rfl
  | snippet | call | copy | fill => cases h

theorem firstMark_of_marker {marker : String} (h : plan.marker? name = some marker) :
    firstMark [marker] = some '#' := by
  cases plan with
  | unhandled | plainUnion | unknownType =>
      obtain rfl := Option.some.inj h
      exact head_append rfl _
  | nestedContainer | compoundElements =>
      obtain rfl := Option.some.inj h
      exact head_append (head_append rfl _) _
  | snippet | call | copy | fill => cases h

theorem firstMark_preparation (target : Target) (atom : Atom) (source : String) :
    (Transfer.of target atom source).preparation target = [] ∨
      ∀ rest, firstMark ((Transfer.of target atom source).preparation target ++ rest) =
        some '/' := by
  have hcomment : target.valueComments atom = [] ∨
      ∀ rest, firstMark (target.valueComments atom ++ rest) = some '/' := by
    cases target <;> cases atom <;> first | exact Or.inl rfl | exact Or.inr fun _ => rfl
  unfold Transfer.preparation Transfer.of
  dsimp only
  cases atom.rangeCheck? with
  | none => exact hcomment
  | some check =>
      refine Or.inr fun rest => ?_
      rw [List.append_assoc]
      change ("// FIXME This requires conversion between signed and unsigned. Change this if it "
        ++ "doesn't suit your needs.").toList.head? = _
      exact head_append rfl _

theorem head_value (atom : Atom) {source : String} (hsource : source.toList.head? = some 'i') :
    (Transfer.of .java atom source).value.toList.head? ≠ some 'h' := by
  have hcast : ∀ scalar, ((Cast.ofJavaScalar scalar).apply source).toList.head? ≠ some 'h' := by
    intro scalar
    cases scalar with
    | int16 =>
        change ("(char) " ++ source).toList.head? ≠ _
        rw [@head_append _ '(' rfl]
        decide
    | uint16 =>
        change ("Short.toUnsignedInt(" ++ source ++ ")").toList.head? ≠ _
        rw [String.append_assoc, @head_append _ 'S' rfl]
        decide
    | bool | int8 | uint8 | int32 | uint32 | int64 | uint64 | float | double =>
        change source.toList.head? ≠ _
        rw [hsource]
        decide
  cases atom with
  | scalar scalar => exact hcast scalar
  | enum q backing => exact hcast backing
  | string =>
      change source.toList.head? ≠ _
      rw [hsource]
      decide

theorem firstMark_assign (target : Target) (access : Access) (owner : QualifiedName)
    (name value : String) : firstMark [target.assign access owner name value] = some 'o' := by
  have hset : ∀ type : String,
      ("out->set<" ++ type ++ "::" ++ name ++ ">(" ++ value ++ ");").toList.head? = some 'o' := by
    intro type
    simp only [String.append_assoc]
    exact head_append rfl _
  cases target with
  | ndk | cpp =>
      cases access with
      | member =>
          change ("out->" ++ name ++ " = " ++ value ++ ";").toList.head? = _
          simp only [String.append_assoc]
          exact head_append rfl _
      | accessor =>
          rw [firstMark_singleton, Target.assign, Target.assignUnion]
          exact hset _
  | java =>
      cases access with
      | member =>
          change ("out." ++ name ++ " = " ++ value ++ ";").toList.head? = _
          simp only [String.append_assoc]
          exact head_append rfl _
      | accessor =>
          change ("out.set" ++ capitalize name ++ "(" ++ value ++ ");").toList.head? = _
          simp only [String.append_assoc]
          exact head_append rfl _

/-- A value that is copied is not the result of a call. -/
theorem copy_ne_callLines (atom : Atom) (target : Target) (access : Access)
    (owner type : QualifiedName) {source : String} (hsource : source.toList.head? = some 'i') :
    [target.assign access owner name (Transfer.of target atom source).value] ≠
      target.callLines access owner type source name := by
  intro h
  cases target with
  | ndk | cpp =>
      have hmark := congrArg firstMark h
      rw [Target.firstMark_callLines, firstMark_assign] at hmark
      revert hmark
      cases access <;> decide
  | java =>
      -- Both write a value in one way, and the value of a call begins with its name.
      refine head_value atom hsource ?_
      cases access with
      | member =>
          have hline : "out." ++ name ++ " = " ++ (Transfer.of .java atom source).value ++ ";" =
              "out." ++ name ++ " = h2aTranslate(" ++ source ++ ");" := List.singleton_inj.mp h
          have hsplit : " = h2aTranslate(" = " = " ++ "h2aTranslate(" := by
            simp only [String.reduceAppend]
          rw [hsplit] at hline
          simp only [String.append_assoc, String.append_right_inj] at hline
          have hhead := congrArg (fun line => line.toList.head?) hline
          rw [@head_append "h2aTranslate(" 'h' rfl, String.toList_append, List.head?_append,
            Option.or_eq_some_iff] at hhead
          rcases hhead with hhead | ⟨-, hother⟩
          · exact hhead
          · exact absurd hother (by decide)
      | accessor =>
          have hline : "out.set" ++ capitalize name ++ "(" ++ (Transfer.of .java atom source).value
              ++ ");" = "out.set" ++ capitalize name ++ "(" ++ ("h2aTranslate(" ++ source ++ ")")
              ++ ");" := List.singleton_inj.mp h
          simp only [String.append_left_inj, String.append_right_inj] at hline
          rw [hline, String.append_assoc]
          exact head_append rfl _

/-- Only a snippet can look like a call, if `source` reads a field. -/
theorem call_or_snippet_of_lines {target : Target} {access : Access} {owner type : QualifiedName}
    {source : String} (hsource : source.toList.head? = some 'i')
    (h : plan.lines target access owner source name =
      target.callLines access owner type source name) :
    (∃ called, plan = .call called) ∨ ∃ lines, plan = .snippet lines := by
  have hmark := congrArg firstMark h
  rw [Target.firstMark_callLines] at hmark
  cases hmarker : plan.marker? name with
  | some marker =>
      rw [lines_of_marker _ _ _ _ hmarker, firstMark_of_marker hmarker] at hmark
      exfalso
      revert hmark
      cases target <;> cases access <;> decide
  | none =>
      cases plan with
      | call called => exact Or.inl ⟨called, rfl⟩
      | snippet lines => exact Or.inr ⟨lines, rfl⟩
      | copy atom =>
          exfalso
          rcases firstMark_preparation target atom source with hnone | hsome
          · rw [lines, hnone] at h
            exact copy_ne_callLines atom target access owner type hsource h
          · rw [lines, hsome] at hmark
            revert hmark
            cases target <;> cases access <;> decide
      | fill fixed atom =>
          exfalso
          rw [lines, Target.firstMark_loop] at hmark
          cases target with
          | ndk | cpp =>
              cases access with
              | member => exact absurd hmark (by decide)
              | accessor =>
                  have hlength := congrArg List.length h
                  simp [lines, Target.loop, Target.sink, Target.callLines] at hlength
          | java => exact absurd hmark (by cases access <;> decide)
      | unhandled | plainUnion | unknownType | nestedContainer | compoundElements => cases hmarker

end FieldPlan

/-- The expression that reads the field at a path. -/
def Access.reading (access : Access) (path : String) : String :=
  match access with
  | .member => "in." ++ path
  | .accessor => "in." ++ path ++ "()"

theorem Access.read_eq_reading (access : Access) (path : String) :
    access.read path = access.reading path := by
  cases access <;> rfl

def FieldBlock.reading (block : FieldBlock) (access : Access) : String :=
  access.reading (orNone block.field.access)

theorem FieldBlock.lines_of_call {block : FieldBlock} {type : QualifiedName}
    (h : block.plan = .call type) (target : Target) (access : Access) (owner : QualifiedName) :
    block.lines target access owner =
      target.callLines access owner type (block.reading access) block.name := by
  rw [FieldBlock.lines, h, FieldPlan.lines, Target.call_eq_callLines, Access.read_eq_reading]
  rfl

/-- A block looks like a call only if it is one or a snippet. -/
theorem FieldBlock.call_or_snippet_of_lines {block : FieldBlock} {target : Target} {access : Access}
    {owner type : QualifiedName} (h : block.lines target access owner =
      target.callLines access owner type (block.reading access) block.name) :
    (∃ called, block.plan = .call called) ∨ ∃ lines, block.plan = .snippet lines := by
  rw [FieldBlock.lines, Access.read_eq_reading] at h
  refine FieldPlan.call_or_snippet_of_lines ?_ h
  cases access with
  | member => exact head_append rfl _
  | accessor => exact head_append (head_append rfl _) _

/-! ### Files -/

namespace Converter

/-- A header with these declarations, in this order, and no others. -/
def Declares (text : String) (heads : List String) : Prop :=
  ∃ includes : List String,
    text = licenseLine ++ "\n#pragma once\n\n" ++ String.join (includes.map (· ++ "\n"))
      ++ "namespace android::h2a \x7b\n\n" ++ String.join (heads.map (· ++ ";\n"))
      ++ "\x7d  // namespace android::h2a\n"

/-- A C++ source with these checks and the texts of these functions. -/
def DefinesCpp (text : String) (checks : List String) (functions : List ConverterFunction) :
    Prop :=
  ∃ header texts, List.Forall₂ ConverterFunction.Written functions texts ∧
    text = licenseLine ++ "\n#include \"" ++ header ++ "\"\n\nnamespace android::h2a \x7b\n\n"
      ++ String.join (checks.map (· ++ "\n")) ++ String.join (texts.map (· ++ "\n"))
      ++ "\x7d  // namespace android::h2a\n"

/-- A Java source with the texts of these functions as methods. -/
def DefinesJava (text : String) (functions : List ConverterFunction) : Prop :=
  ∃ package texts methods, List.Forall₂ ConverterFunction.Written functions texts ∧
    List.Forall₂ Indents texts methods ∧
    text = licenseLine ++ "\npackage " ++ package ++ ";\n\npublic class Translate \x7b\n"
      ++ String.join (methods.map (· ++ "\n")) ++ "\x7d\n"

/-- A source of the target with the texts of these functions, in this order. A Java source leaves
out the stubs. -/
def Defines (target : Target) (text : String) (functions : List ConverterFunction) : Prop :=
  match target with
  | .ndk | .cpp => ∃ checks, DefinesCpp text checks functions
  | .java => DefinesJava text (functions.filter fun function => !function.isStub)

theorem declares_headerText (includes : List String) (functions : List ConverterFunction) :
    Declares (headerText includes functions)
      ((functions.filter fun function => !function.isStub).map
        fun function => function.target.head function.type) := by
  refine ⟨includes, ?_⟩
  simp only [headerText, ConverterFunction.signature, Target.signature_eq_head, List.map_map]
  rfl

theorem forall₂_written (functions : List ConverterFunction) :
    List.Forall₂ ConverterFunction.Written functions (functions.map ConverterFunction.text) := by
  rw [List.forall₂_map_right_iff, List.forall₂_same]
  exact fun function _ => function.written_text

theorem definesCpp_cppText (header : String) (checks : List String)
    (functions : List ConverterFunction) :
    DefinesCpp (cppText header checks functions) checks functions := by
  refine ⟨header, _, forall₂_written functions, ?_⟩
  rw [cppText, List.map_map]
  rfl

theorem definesJava_javaText {functions : List ConverterFunction} (package : String)
    (hjava : ∀ function ∈ functions, function.target = .java) :
    DefinesJava (javaText package functions)
      (functions.filter fun function => !function.isStub) := by
  refine ⟨package, _, (functions.filter fun function => !function.isStub).map
    fun function => indentBlock function.text, forall₂_written _, ?_, ?_⟩
  · rw [List.forall₂_map_left_iff, List.forall₂_map_right_iff, List.forall₂_same]
    intro function hfunction
    obtain ⟨hmem, hstub⟩ := List.mem_filter.mp hfunction
    obtain ⟨front, htext, hfront⟩ :=
      ConverterFunction.text_of_java (hjava function hmem) (by simpa using hstub)
    rw [htext]
    exact indents_indentBlock (by decide) hfront
  · rw [javaText, List.map_map]
    rfl

end Converter

end HalBridge
