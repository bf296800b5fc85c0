import HalBridge.Proofs.AccessPaths
import HalBridge.Proofs.ConverterNotes
import HalBridge.Proofs.RunTypes
import HalBridge.Proofs.UnmarkedLines

/-!
# The marked lines of a source

A field that is not converted is marked in the source with a line that begins with `#error`. Nothing
else that is generated from proper names begins so, since names have neither line breaks nor the
character `#`. So the lines of a source that begin with `#error` are those that mark fields, in the
order of the functions and their fields, and what snippets bring along.
-/

namespace HalBridge

open Text QualifiedName
open QualifiedName.Token (isName)

/-! ### Plans -/

/-- The types that a plan names. -/
def FieldPlan.mentioned : FieldPlan → List QualifiedName
  | .plainUnion q | .unknownType q | .call q => [q]
  | .copy (.enum q _) | .fill _ (.enum q _) => [q]
  | _ => []

namespace FieldPlan

variable {plan : FieldPlan} {source name : String} {owner : QualifiedName}

/-- The lines that begin with `#error` among those for the field `name`: what marks the field, or
what a snippet has of them. -/
def errorLines (plan : FieldPlan) (name : String) : List String :=
  match plan with
  | .snippet lines => lines.flatMap fun line => HalBridge.errorLines (line ++ "\n")
  | plan => (plan.marker? name).toList

/-- A marker is one line, and it begins with `#error`. -/
theorem marker_is_line {marker : String} (hplan : ∀ q ∈ plan.mentioned, q.Regular)
    (hname : isName name) (h : plan.marker? name = some marker) :
    isErrorLine marker ∧ Unbroken marker := by
  have hline : ∀ {front back : String}, isErrorLine front → Unbroken front → Unmarked back →
      isErrorLine (front ++ back) ∧ Unbroken (front ++ back) := by
    intro front back herror hfront hback
    refine ⟨?_, (unbroken_append front back).mpr ⟨hfront, hback.unbroken⟩⟩
    rw [isErrorLine, List.isPrefixOf_iff_prefix] at herror ⊢
    rw [String.toList_append]
    exact herror.trans (List.prefix_append _ _)
  cases plan with
  | unhandled special =>
      obtain rfl := Option.some.inj h
      exact hline (by decide) (by decide) (by cases special <;> decide)
  | plainUnion q =>
      obtain rfl := Option.some.inj h
      exact hline (by decide) (by decide) (hplan q (List.mem_singleton_self _)).unmarked_toText
  | unknownType q =>
      obtain rfl := Option.some.inj h
      exact hline (by decide) (by decide) (hplan q (List.mem_singleton_self _)).unmarked_toText
  | nestedContainer =>
      obtain rfl := Option.some.inj h
      exact hline (by decide) (by decide) (unmarked_of_isName hname)
  | compoundElements label =>
      obtain rfl := Option.some.inj h
      exact hline (by decide) (by decide) (unmarked_of_isName hname)
  | snippet | call | copy | fill => cases h

theorem unmarked_lines (target : Target) (access : Access) (howner : owner.Regular)
    (hplan : ∀ q ∈ plan.mentioned, q.Regular) (hsource : Unmarked source) (hname : isName name)
    (hmarker : plan.marker? name = none) (hsnippet : ∀ lines, plan ≠ .snippet lines) :
    ∀ line ∈ plan.lines target access owner source name, Unmarked line := by
  cases plan with
  | call type =>
      rw [lines, Target.call_eq_callLines]
      exact target.unmarked_callLines access howner (hplan type (List.mem_singleton_self _))
        hsource hname
  | copy atom =>
      have hatom : atom.Proper := by
        rintro q backing rfl
        exact hplan q (List.mem_singleton_self _)
      rw [lines, Target.assign_eq_writing, List.forall_mem_append, List.forall_mem_singleton]
      exact ⟨Transfer.unmarked_preparation target atom hsource,
        target.unmarked_writing access howner hname (Transfer.unmarked_value target hatom hsource)⟩
  | fill fixed atom =>
      have hatom : atom.Proper := by
        rintro q backing rfl
        exact hplan q (List.mem_singleton_self _)
      have hread := ElementRead.unmarked_apply (target.elementRead fixed (some atom)) hsource
      rw [lines]
      exact target.unmarked_loop fixed hsource (target.unmarked_elementType hatom)
        (Transfer.unmarked_preparation target atom hread)
        (Transfer.unmarked_value target hatom hread) (target.unmarked_sink access howner hname)
  | snippet lines => exact absurd rfl (hsnippet lines)
  | unhandled | plainUnion | unknownType | nestedContainer | compoundElements => cases hmarker

theorem errorLines_lines (target : Target) (access : Access) (howner : owner.Regular)
    (hplan : ∀ q ∈ plan.mentioned, q.Regular) (hsource : Unmarked source) (hname : isName name) :
    (plan.lines target access owner source name).flatMap
        (fun line => HalBridge.errorLines (line ++ "\n")) = plan.errorLines name := by
  by_cases hsnippet : ∃ lines, plan = .snippet lines
  · obtain ⟨lines, rfl⟩ := hsnippet
    rfl
  · have hown : plan.errorLines name = (plan.marker? name).toList := by
      cases plan with
      | snippet lines => exact absurd ⟨lines, rfl⟩ hsnippet
      | unhandled | plainUnion | unknownType | nestedContainer | compoundElements | call | copy
      | fill => rfl
    cases hmarker : plan.marker? name with
    | none =>
        rw [hown, hmarker]
        refine errorLines_of_all_unmarked ?_
        exact unmarked_lines target access howner hplan hsource hname hmarker
          fun lines hlines => hsnippet ⟨lines, hlines⟩
    | some marker =>
        obtain ⟨herror, hunbroken⟩ := marker_is_line hplan hname hmarker
        rw [hown, hmarker, lines_of_marker target access owner source hmarker,
          List.flatMap_singleton, errorLines_of_error hunbroken herror]
        rfl

end FieldPlan

/-! ### Functions -/

def FieldBlock.errorLines (block : FieldBlock) : List String :=
  block.plan.errorLines block.name

/-- The names that a block is printed with are proper. -/
structure FieldBlock.Proper (block : FieldBlock) : Prop where
  name : isName block.name
  path : Unmarked (orNone block.field.access)
  types : ∀ q ∈ block.plan.mentioned, q.Regular

theorem errorLines_placed {block : FieldBlock} {type : QualifiedName} (hblock : block.Proper)
    (htype : type.Regular) (target : Target) (access : Access) :
    (block.placed target access type).flatMap (fun line => errorLines (line ++ "\n")) =
      block.errorLines := by
  have hread : Unmarked (access.reading (orNone block.field.access)) := by
    delta Access.reading
    cases access <;> dsimp only <;> simp only [unmarked_append, hblock.path] <;> decide
  have hlines : (block.lines target access type).flatMap (fun line => errorLines (line ++ "\n")) =
      block.errorLines := by
    rw [FieldBlock.lines, Access.read_eq_reading]
    exact FieldPlan.errorLines_lines target access htype hblock.types hread hblock.name
  cases access with
  | member => exact hlines
  | accessor =>
      have hlabel : Unmarked ("    " ++ target.label type block.name) := by
        have hlegacy := htype.unmarked_legacyType target
        have hname := unmarked_of_isName hblock.name
        delta Target.label
        cases target <;> dsimp only <;> simp only [unmarked_append, hlegacy, hname] <;>
          decide
      rw [FieldBlock.placed, Target.placed, List.flatMap_append, List.flatMap_append,
        List.flatMap_singleton, List.flatMap_singleton, errorLines_of_unmarked hlabel,
        errorLines_of_unmarked (by decide), List.nil_append, List.append_nil, List.flatMap_map]
      simp only [errorLines_indented]
      exact hlines

namespace Target

theorem functionText_eq_join (target : Target) (type : QualifiedName) (body : List String) :
    target.functionText type body =
      String.join (((target.head type ++ " \x7b") :: body.map indented ++ ["\x7d"]).map
        (· ++ "\n")) := by
  simp [functionText, String.append_assoc, Function.comp_def]

theorem stubText_eq_join (target : Target) (type : QualifiedName) :
    target.stubText type =
      String.join (["// FIXME not enough information to safely convert. Remove this function or "
        ++ "fill it out using the custom discriminators.", "// " ++ target.head type].map
          (· ++ "\n")) := by
  have hbreak : "fill it out using the custom discriminators.\n// " =
      "fill it out using the custom discriminators." ++ "\n" ++ "// " := by
    simp only [String.reduceAppend]
  delta stubText
  simp only [hbreak, List.map_cons, List.map_nil, String.join_cons, String.join_nil,
    String.append_assoc, String.append_empty]

end Target

namespace ConverterFunction

/-- The names that a function is printed with are proper. -/
structure Proper (function : ConverterFunction) : Prop where
  type : function.type.Regular
  blocks : ∀ block ∈ function.fieldBlocks, block.Proper

variable {function : ConverterFunction}

theorem errorLines_functionText {type : QualifiedName} (htype : type.Regular) (target : Target)
    (body : List String) :
    errorLines (target.functionText type body) =
      body.flatMap fun line => errorLines (line ++ "\n") := by
  have hhead : Unmarked (target.head type ++ " \x7b") :=
    (unmarked_append _ _).mpr ⟨htype.unmarked_head target, by decide⟩
  rw [Target.functionText_eq_join, errorLines_join, List.cons_append, List.flatMap_cons,
    List.flatMap_append, List.flatMap_singleton, errorLines_of_unmarked hhead,
    errorLines_of_unmarked (by decide), List.nil_append, List.append_nil, List.flatMap_map]
  simp only [errorLines_indented]

theorem errorLines_stubText {type : QualifiedName} (htype : type.Regular) (target : Target) :
    errorLines (target.stubText type) = [] := by
  have hhead : Unmarked ("// " ++ target.head type) :=
    (unmarked_append _ _).mpr ⟨by decide, htype.unmarked_head target⟩
  rw [Target.stubText_eq_join, errorLines_join]
  refine errorLines_of_all_unmarked ?_
  simp only [List.forall_mem_cons, hhead]
  decide +kernel

/-- The lines of a function with `#error` are those of its blocks. -/
theorem Proper.errorLines_text (h : function.Proper) :
    errorLines function.text = function.fieldBlocks.flatMap FieldBlock.errorLines := by
  have hopening : ∀ line ∈ function.target.opening function.access function.type,
      Unmarked line := by
    have htype := h.type.unmarked_canonicalType function.target
    delta Target.opening
    revert htype
    cases function.target <;> cases function.access <;> dsimp only <;> intro htype <;>
      simp only [List.forall_mem_append, List.forall_mem_cons, unmarked_append, htype] <;>
      decide
  have hclosing : ∀ line ∈ function.target.closing function.access, Unmarked line := by
    cases function.target <;> cases function.access <;> decide +kernel
  unfold fieldBlocks
  cases hblocks : function.blocks with
  | none =>
      rw [text_of_stub hblocks]
      exact errorLines_stubText h.type function.target
  | some blocks =>
      have hproper : ∀ block ∈ blocks, block.Proper := by
        intro block hblock
        refine h.blocks block ?_
        rwa [fieldBlocks, hblocks]
      rw [text_of_body (by rw [body?, hblocks]; rfl), bodyLines_eq,
        errorLines_functionText h.type, List.flatMap_append, List.flatMap_append,
        errorLines_of_all_unmarked hopening, errorLines_of_all_unmarked hclosing, List.nil_append,
        List.append_nil, List.flatMap_assoc]
      exact List.flatMap_congr fun block hblock =>
        errorLines_placed (hproper block hblock) h.type _ _

end ConverterFunction

/-! ### Files -/

namespace ConverterFunction

/-- The empty line after a function brings no mark. -/
theorem errorLines_text_newline (function : ConverterFunction) :
    errorLines (function.text ++ "\n") = errorLines function.text := by
  have hlines : ∃ lines : List String, function.text = String.join (lines.map (· ++ "\n")) := by
    cases hblocks : function.blocks with
    | none =>
        rw [text_of_stub hblocks, Target.stubText_eq_join]
        exact ⟨_, rfl⟩
    | some blocks =>
        rw [text_of_body (by rw [body?, hblocks]; rfl), Target.functionText_eq_join]
        exact ⟨_, rfl⟩
  obtain ⟨lines, hlines⟩ := hlines
  rw [hlines, errorLines_join_newline]

theorem errorLines_texts {functions : List ConverterFunction}
    (h : ∀ function ∈ functions, function.Proper) :
    functions.flatMap (fun function => errorLines (function.text ++ "\n")) =
      functions.flatMap fun function => function.fieldBlocks.flatMap FieldBlock.errorLines := by
  refine List.flatMap_congr fun function hfunction => ?_
  rw [function.errorLines_text_newline, (h function hfunction).errorLines_text]

/-- Stubs have no blocks. -/
theorem errorLines_without_stubs (functions : List ConverterFunction) :
    (functions.filter fun function => !function.isStub).flatMap
        (fun function => function.fieldBlocks.flatMap FieldBlock.errorLines) =
      functions.flatMap fun function => function.fieldBlocks.flatMap FieldBlock.errorLines := by
  induction functions with
  | nil => rfl
  | cons function rest ih =>
      cases hblocks : function.blocks with
      | none =>
          have hnone : function.fieldBlocks = [] := by
            rw [fieldBlocks, hblocks]
            rfl
          rw [List.filter_cons_of_neg (by simp [isStub, hblocks]), List.flatMap_cons, hnone, ih]
          rfl
      | some blocks =>
          rw [List.filter_cons_of_pos (by simp [isStub, hblocks]), List.flatMap_cons,
            List.flatMap_cons, ih]

end ConverterFunction

namespace Converter

/-- The first line of a file, without its break. -/
theorem licenseLine_eq : licenseLine =
    "// FIXME: license file, or use the -l option to generate the files with the header."
      ++ "\n" := by
  delta licenseLine
  simp only [String.reduceAppend]

theorem errorLines_include {header : String} (h : Unmarked header) :
    errorLines ("#include \"" ++ header ++ "\"" ++ "\n") = [] := by
  have hunbroken : Unbroken ("#include \"" ++ header ++ "\"") := by
    simp only [unbroken_append, h.unbroken]
    decide
  have hother : isErrorLine (unindented ("#include \"" ++ header ++ "\"")) = false := by
    rw [unindented, isErrorLine, String.toList_ofList, String.append_assoc, String.toList_append]
    rfl
  simp [errorLines_of_unbroken hunbroken, hother]

/-- The lines of a C++ source before its checks and functions. -/
def cppPreamble (header : String) : List String :=
  ["// FIXME: license file, or use the -l option to generate the files with the header.", "",
   "#include \"" ++ header ++ "\"", "", "namespace android::h2a \x7b", ""]

theorem cppText_eq_join (header : String) (checks : List String)
    (functions : List ConverterFunction) :
    cppText header checks functions =
      String.join ((cppPreamble header ++ checks ++ functions.map ConverterFunction.text
        ++ ["\x7d  // namespace android::h2a"]).map (· ++ "\n")) := by
  have hinclude : "\n#include \"" = "\n" ++ "#include \"" := by
    simp only [String.reduceAppend]
  have hopen : "\"\n\nnamespace android::h2a \x7b\n\n" =
      "\"" ++ "\n" ++ "\n" ++ "namespace android::h2a \x7b" ++ "\n" ++ "\n" := by
    simp only [String.reduceAppend]
  have hclose : "\x7d  // namespace android::h2a\n" =
      "\x7d  // namespace android::h2a" ++ "\n" := by
    simp only [String.reduceAppend]
  delta cppText cppPreamble
  simp only [licenseLine_eq, hinclude, hopen, hclose, List.map_append, List.map_cons,
    List.map_nil, List.map_map, Function.comp_def, String.join_append, String.join_cons,
    String.join_nil, String.append_assoc, String.append_empty, String.empty_append]

theorem errorLines_cppText {header : String} {checks : List String}
    {functions : List ConverterFunction} (hheader : Unmarked header)
    (hchecks : ∀ check ∈ checks, Unmarked check)
    (hfunctions : ∀ function ∈ functions, function.Proper) :
    errorLines (cppText header checks functions) =
      functions.flatMap fun function => function.fieldBlocks.flatMap FieldBlock.errorLines := by
  have hfirst : (cppPreamble header).flatMap (fun line => errorLines (line ++ "\n")) = [] := by
    rw [List.flatMap_eq_nil_iff]
    simp only [cppPreamble, List.forall_mem_cons, errorLines_include hheader]
    refine ⟨errorLines_of_unmarked (by decide), rfl, trivial, rfl,
      errorLines_of_unmarked (by decide), rfl, ?_⟩
    exact fun _ hline => absurd hline List.not_mem_nil
  have hlast : Unmarked "\x7d  // namespace android::h2a" := by decide
  rw [cppText_eq_join, errorLines_join, List.flatMap_append, List.flatMap_append,
    List.flatMap_append, hfirst, errorLines_of_all_unmarked hchecks, List.flatMap_map,
    ConverterFunction.errorLines_texts hfunctions, List.flatMap_singleton,
    errorLines_of_unmarked hlast]
  simp only [List.nil_append, List.append_nil]

/-- The lines of a Java source before its methods. -/
def javaPreamble (package : String) : List String :=
  ["// FIXME: license file, or use the -l option to generate the files with the header.", "",
   "package " ++ package ++ ";", "", "public class Translate \x7b"]

theorem javaText_eq_join (package : String) (functions : List ConverterFunction) :
    javaText package functions =
      String.join ((javaPreamble package ++
        ((functions.filter fun function => !function.isStub).map fun function =>
          indentBlock function.text) ++ ["\x7d"]).map (· ++ "\n")) := by
  have hpackage : "\npackage " = "\n" ++ "package " := by
    simp only [String.reduceAppend]
  have hopen : ";\n\npublic class Translate \x7b\n" =
      ";" ++ "\n" ++ "\n" ++ "public class Translate \x7b" ++ "\n" := by
    simp only [String.reduceAppend]
  have hclose : "\x7d\n" = "\x7d" ++ "\n" := by
    simp only [String.reduceAppend]
  delta javaText javaPreamble
  simp only [licenseLine_eq, hpackage, hopen, hclose, List.map_append, List.map_cons,
    List.map_nil, List.map_map, Function.comp_def, String.join_append, String.join_cons,
    String.join_nil, String.append_assoc, String.append_empty, String.empty_append]

theorem errorLines_javaText {package : String} {functions : List ConverterFunction}
    (hpackage : Unmarked package) (htarget : ∀ function ∈ functions, function.target = .java)
    (hfunctions : ∀ function ∈ functions, function.Proper) :
    errorLines (javaText package functions) =
      functions.flatMap fun function => function.fieldBlocks.flatMap FieldBlock.errorLines := by
  have hfirst : ∀ line ∈ javaPreamble package, Unmarked line := by
    simp only [javaPreamble, List.forall_mem_cons, unmarked_append, hpackage]
    decide
  have hmethod : ∀ function ∈ functions.filter fun function => !function.isStub,
      errorLines (indentBlock function.text ++ "\n") =
        function.fieldBlocks.flatMap FieldBlock.errorLines := by
    intro function hfunction
    obtain ⟨hmem, hstub⟩ := List.mem_filter.mp hfunction
    obtain ⟨front, htext, hfront⟩ :=
      ConverterFunction.text_of_java (htarget function hmem) (by simpa using hstub)
    rw [htext, errorLines_indentBlock (by decide) hfront, ← htext,
      (hfunctions function hmem).errorLines_text]
  rw [javaText_eq_join, errorLines_join, List.flatMap_append, List.flatMap_append,
    errorLines_of_all_unmarked hfirst, List.flatMap_map, List.flatMap_congr hmethod,
    List.flatMap_singleton, errorLines_of_unmarked (by decide), List.nil_append, List.append_nil]
  exact ConverterFunction.errorLines_without_stubs functions

end Converter

/-! ### The sources of a run -/

/-- The type that a descriptor is about, apart from the containers around it. -/
def Descriptor.innermost? : Descriptor → Option QualifiedName
  | .sequence element _ => element.innermost?
  | .fixedArray element _ _ => element.innermost?
  | descriptor => descriptor.name?

theorem FieldPlan.innermost_of_mentioned {converted : QualifiedName → Bool} {registry : Registry}
    {descriptor : Descriptor} {q : QualifiedName}
    (h : q ∈ (FieldPlan.of converted registry descriptor).mentioned) :
    descriptor.innermost? = some q := by
  have hnamed : ∀ r, q ∈ (ofNamed converted registry r).mentioned → r = q := by
    intro r hr
    unfold ofNamed at hr
    split at hr
    · exact (List.mem_singleton.mp hr).symm
    · split at hr
      · exact absurd hr List.not_mem_nil
      · exact (List.mem_singleton.mp hr).symm
  have helement : ∀ fixed element, q ∈ (ofElement fixed element).mentioned →
      element.innermost? = some q := by
    intro fixed element hq
    cases element with
    | enum r backing label => exact congrArg some (List.mem_singleton.mp hq).symm
    | _ => exact absurd hq List.not_mem_nil
  cases descriptor with
  | record r label => exact congrArg some (hnamed r h)
  | union r safe label =>
      cases safe with
      | true => exact congrArg some (hnamed r h)
      | false => exact congrArg some (List.mem_singleton.mp h).symm
  | sequence element label => exact helement false element h
  | fixedArray element size label => exact helement true element h
  | enum r backing label => exact congrArg some (List.mem_singleton.mp h).symm
  | scalar | string | unsupported => exact absurd h List.not_mem_nil

namespace Catalog

variable {catalog : Catalog}

theorem innermost_of_describeRef {ref : Ref} {descriptor : Descriptor}
    (h : catalog.describeRef ref = .ok descriptor) : descriptor.innermost? = some ref.name := by
  unfold describeRef at h
  split at h
  · obtain ⟨backing, -, rfl⟩ := Outcome.except_map_ok_iff.mp h
    rfl
  · obtain rfl := Except.ok.inj h
    rfl
  · obtain rfl := Except.ok.inj h
    rfl
  · obtain rfl := Except.ok.inj h
    rfl

theorem base_of_innermost {shape : Shape} {descriptor : Descriptor} {q : QualifiedName}
    (h : catalog.describeShape shape = .ok descriptor) (hq : descriptor.innermost? = some q) :
    ∃ ref, shape.base = .named ref ∧ ref.name = q := by
  induction shape generalizing descriptor with
  | scalar | string | special =>
      obtain rfl := Except.ok.inj h
      cases hq
  | vec element _ ih | array element _ _ ih =>
      obtain ⟨inner, hinner, rfl⟩ := Outcome.except_map_ok_iff.mp h
      exact ih hinner hq
  | named ref =>
      rw [innermost_of_describeRef h] at hq
      exact ⟨ref, rfl, Option.some.inj hq⟩

/-- A property of the names in all declared types holds of the names in a plan. -/
theorem regular_of_mentioned {converted : QualifiedName → Bool} {registry : Registry}
    {field : Field} {block : FieldBlock} {q : QualifiedName}
    (hdeclared : ∀ decl ∈ catalog.decls, ∀ type ∈ decl.body.types, ∀ ref,
      type.ref? = some ref → ref.name.Regular)
    (hfield : ∃ decl ∈ catalog.decls, field.type ∈ decl.body.types)
    (h : catalog.fieldBlock converted registry field = .ok block) (hq : q ∈ block.plan.mentioned) :
    q.Regular := by
  obtain ⟨descriptor, hdescriptor, rfl⟩ := Outcome.except_map_ok_iff.mp h
  have hinnermost := FieldPlan.innermost_of_mentioned hq
  obtain ⟨decl, hdecl, htype⟩ := hfield
  unfold describe at hdescriptor
  obtain ⟨shape, hshape, hdescriptor⟩ := Outcome.except_bind_ok_iff.mp hdescriptor
  cases hdescribe : catalog.describeShape shape with
  | error chain =>
      rw [hdescribe] at hdescriptor
      cases hdescriptor
  | ok same =>
      rw [hdescribe] at hdescriptor
      obtain rfl := Except.ok.inj hdescriptor
      obtain ⟨ref, hbase, rfl⟩ := base_of_innermost hdescribe hinnermost
      exact shape_refs hdeclared (hdeclared decl hdecl _ htype) hshape ref hbase

theorem VersionChain.mem_fieldsOf {q last : QualifiedName} {types : List QualifiedName}
    {links : List Field} {link : Field} (h : catalog.VersionChain q types links last)
    (hlink : link ∈ links) : ∃ owner, link ∈ catalog.fieldsOf owner := by
  induction h with
  | here => exact absurd hlink List.not_mem_nil
  | @embed q first next types links last hfirst _ _ ih =>
      rcases List.mem_cons.mp hlink with rfl | hlink
      · exact ⟨q, hfirst⟩
      · exact ih hlink

/-- The path to a merged field is made of names of fields. -/
theorem MergesTo.unmarked_access {q : QualifiedName} {schema : MergedSchema} {field : Field}
    (h : catalog.MergesTo q schema) (hfield : field ∈ schema.fields)
    (hnames : ∀ q, ∀ field ∈ catalog.fieldsOf q, ∃ name, field.name = some name ∧ isName name) :
    Unmarked (orNone field.access) := by
  obtain ⟨types, links, last, declared, hchain, -, -, hdeclared, -, rfl⟩ :=
    h.walk_expands.met_through (fun _ hfield => hfield) (h.mem_walk hfield)
  have hlinks : Unmarked (linkPath links) := by
    refine unmarked_join (List.forall_mem_map.mpr fun link hlink => ?_)
    obtain ⟨owner, howner⟩ := hchain.mem_fieldsOf hlink
    obtain ⟨name, hname, hisName⟩ := hnames owner link howner
    rw [hname]
    exact (unmarked_append _ _).mpr ⟨unmarked_of_isName hisName, by decide⟩
  obtain ⟨name, hname, hisName⟩ := hnames last declared hdeclared
  rw [hname]
  have hpath : Unmarked ("" ++ linkPath links ++ name) := by
    simp only [unmarked_append, hlinks, unmarked_of_isName hisName]
    decide
  exact hpath

end Catalog

theorem QualifiedName.Regular.unmarked_enumAssert {q : QualifiedName} (h : q.Regular)
    (target : Target) {value : String} (hvalue : Unmarked value) :
    Unmarked (target.enumAssert q value) := by
  have hlegacy := h.unmarked_legacyType target
  have hcanonical := h.unmarked_canonicalType target
  delta Target.enumAssert
  simp only [unmarked_append, hlegacy, hcanonical, hvalue]
  decide

/-- No snippet of the registry brings a line with `#error`. -/
def Registry.Quiet (registry : Registry) : Prop :=
  ∀ entry ∈ registry.entries, ∀ line ∈ entry.2.lines, errorLines (line ++ "\n") = []

instance (registry : Registry) : Decidable registry.Quiet :=
  inferInstanceAs (Decidable (∀ entry ∈ registry.entries, _))

theorem Registry.Quiet.of_snippet {registry : Registry} (h : registry.Quiet)
    {converted : QualifiedName → Bool} {descriptor : Descriptor} {lines : List String}
    (hplan : FieldPlan.of converted registry descriptor = .snippet lines) :
    ∀ line ∈ lines, errorLines (line ++ "\n") = [] := by
  have hnamed : ∀ q, FieldPlan.ofNamed converted registry q = .snippet lines →
      ∀ line ∈ lines, errorLines (line ++ "\n") = [] := by
    intro q hq
    unfold FieldPlan.ofNamed at hq
    split at hq
    · cases hq
    · split at hq
      · rename_i entry hentry
        obtain rfl := FieldPlan.snippet.inj hq
        obtain ⟨front, back, hentries, -⟩ := List.lookup_eq_some_iff.mp hentry
        refine h (q, entry) ?_
        rw [hentries]
        exact List.mem_append_right _ List.mem_cons_self
      · cases hq
  have helement : ∀ fixed element, FieldPlan.ofElement fixed element ≠ .snippet lines := by
    intro fixed element helement
    unfold FieldPlan.ofElement at helement
    split at helement
    · cases helement
    · split at helement <;> cases helement
  cases descriptor with
  | record q label => exact hnamed q hplan
  | union q safe label =>
      cases safe with
      | true => exact hnamed q hplan
      | false => cases hplan
  | sequence element label => exact absurd hplan (helement false element)
  | fixedArray element size label => exact absurd hplan (helement true element)
  | enum | scalar | string | unsupported => cases hplan

/-- Without what snippets bring along, the marks of a function are all there is. -/
theorem ConverterFunction.errorLines_eq_marks {function : ConverterFunction}
    (h : ∀ block ∈ function.fieldBlocks, ∀ lines, block.plan = .snippet lines →
      ∀ line ∈ lines, errorLines (line ++ "\n") = []) :
    function.fieldBlocks.flatMap FieldBlock.errorLines = function.marks.map Prod.snd := by
  unfold marks
  generalize function.fieldBlocks = blocks at h
  induction blocks with
  | nil => rfl
  | cons block rest ih =>
      obtain ⟨hblock, hrest⟩ := List.forall_mem_cons.mp h
      have hown : block.errorLines = (block.plan.marker? block.name).toList := by
        unfold FieldBlock.errorLines
        cases hplan : block.plan with
        | snippet lines => exact List.flatMap_eq_nil_iff.mpr (hblock lines hplan)
        | unhandled | plainUnion | unknownType | nestedContainer | compoundElements | call | copy
        | fill => rfl
      rw [List.flatMap_cons, hown, ih hrest]
      cases hmarker : block.plan.marker? block.name with
      | none => rw [List.filterMap_cons_none (by rw [FieldBlock.mark?, hmarker]; rfl)]; rfl
      | some marker =>
          rw [List.filterMap_cons_some (by rw [FieldBlock.mark?, hmarker]; rfl)]
          rfl

namespace Conversion

variable {registry : Registry} {conversion : Conversion} {t : Resolver} {target : Target}
  {functions : List ConverterFunction}

/-- The types of the run and the fields of its merged types have proper names. -/
structure Identified (conversion : Conversion) : Prop where
  types : ∀ q ∈ conversion.types,
    ∃ name, q.name = some name ∧ isName name ∧ ∀ outer ∈ q.scope, isName outer
  fields : ∀ entry ∈ conversion.schemas, ∀ field ∈ entry.2.fields,
    ∃ name, field.name = some name ∧ isName name

/-- All types and fields that the run works with have proper names. -/
structure ProperlyNamed (conversion : Conversion) : Prop extends Identified conversion where
  references : ∀ decl ∈ conversion.catalog.decls, ∀ type ∈ decl.body.types, ∀ ref,
    type.ref? = some ref → ref.name.Regular
  members : ∀ q, ∀ field ∈ conversion.catalog.fieldsOf q,
    ∃ name, field.name = some name ∧ isName name

/-- The enumerators of the run have proper names. Only the checks of their values have them in a
source, and for Java there are no such checks. -/
def ValuesNamed (conversion : Conversion) : Prop :=
  ∀ q ∈ conversion.types, ∀ value ∈ conversion.catalog.valuesFromRoot q,
    ∃ name, value.name = some name ∧ isName name

theorem Identified.regular (hidentified : conversion.Identified)
    (hregular : conversion.name.Regular)
    (hpackages : ∀ q ∈ conversion.types, q.package = conversion.name.package) :
    ∀ q ∈ conversion.types, q.Regular := by
  intro q hq
  refine ⟨?_, Or.inr (hidentified.types q hq)⟩
  rw [hpackages q hq]
  exact hregular.package

theorem Completed.proper (h : Completed registry conversion t)
    (hregular : ∀ q ∈ conversion.types, q.Regular) (hnamed : conversion.ProperlyNamed)
    (hfunctions : conversion.functions registry target = .ok functions) :
    ∀ function ∈ functions, function.Proper := by
  intro function hfunction
  obtain ⟨schema, hschema, -⟩ := h.schema_of_mem hfunctions hfunction
  refine ⟨hregular _ (h.mem_types hschema), fun block hblock => ?_⟩
  obtain ⟨field, merged, hmerged, hfield, hfieldBlock⟩ :=
    h.fieldBlock_of_mem hfunctions hfunction hblock
  have hsame : block.field = field := by
    obtain ⟨descriptor, -, rfl⟩ := Outcome.except_map_ok_iff.mp hfieldBlock
    rfl
  obtain ⟨name, hname, hisName⟩ := hnamed.fields _ (mem_schemas_of_lookup hmerged) field hfield
  refine ⟨?_, ?_, ?_⟩
  · rwa [FieldBlock.name, hsame, hname]
  · rw [hsame]
    exact (h.merged hmerged).unmarked_access hfield hnamed.members
  · exact fun q hq => Catalog.regular_of_mentioned hnamed.references
      ((h.merged hmerged).mem_types hfield) hfieldBlock hq

theorem Completed.quiet_snippets (h : Completed registry conversion t) (hquiet : registry.Quiet)
    (hfunctions : conversion.functions registry target = .ok functions)
    {function : ConverterFunction} (hfunction : function ∈ functions) :
    ∀ block ∈ function.fieldBlocks, ∀ lines, block.plan = .snippet lines →
      ∀ line ∈ lines, errorLines (line ++ "\n") = [] := by
  intro block hblock lines hplan
  obtain ⟨field, schema, -, -, hfieldBlock⟩ := h.fieldBlock_of_mem hfunctions hfunction hblock
  obtain ⟨descriptor, -, rfl⟩ := Outcome.except_map_ok_iff.mp hfieldBlock
  exact hquiet.of_snippet hplan

theorem ValuesNamed.unmarked_enumAsserts (hnamed : conversion.ValuesNamed)
    (hregular : ∀ q ∈ conversion.types, q.Regular) (target : Target) :
    ∀ check ∈ conversion.catalog.enumAsserts target (Catalog.byPackage conversion.convertible),
      Unmarked check := by
  intro check hcheck
  obtain ⟨ref, href, hcheck⟩ := List.mem_flatMap.mp hcheck
  have htypes : ref.name ∈ conversion.types := by
    have hname := List.mem_map_of_mem (f := Ref.name) ((Catalog.byPackage_perm _).mem_iff.mp href)
    rw [map_name_convertible] at hname
    exact List.mem_of_mem_filter hname
  have hvalues : ∀ check ∈ (conversion.catalog.valuesFromRoot ref.name).map
      (fun value => target.enumAssert ref.name (orNone value.name)), Unmarked check := by
    refine List.forall_mem_map.mpr fun value hvalue => ?_
    obtain ⟨name, hname, hisName⟩ := hnamed _ htypes value hvalue
    rw [hname]
    exact (hregular _ htypes).unmarked_enumAssert target (unmarked_of_isName hisName)
  cases henum : (conversion.catalog.enumOf? (.named ref)).isSome with
  | true =>
      rw [henum, if_pos rfl] at hcheck
      exact hvalues check hcheck
  | false =>
      rw [henum, if_neg Bool.false_ne_true] at hcheck
      exact absurd hcheck List.not_mem_nil

/-- The lines of a source with `#error` are those of its functions. -/
theorem Completed.errorLines_source (h : Completed registry conversion t)
    (hname : conversion.name.Regular) (hregular : ∀ q ∈ conversion.types, q.Regular)
    (hnamed : conversion.ProperlyNamed) (hvalues : target = .java ∨ conversion.ValuesNamed)
    (hfunctions : conversion.functions registry target = .ok functions) {source : String}
    (hsource : conversion.files.text? (target.sourceFile conversion.name) = some source) :
    errorLines source =
      functions.flatMap fun function => function.fieldBlocks.flatMap FieldBlock.errorLines := by
  obtain ⟨same, hsame, htexts⟩ := h.converterTexts target
  obtain rfl := Except.ok.inj (hsame.symm.trans hfunctions)
  have hproper := h.proper hregular hnamed hfunctions
  unfold Catalog.converterTexts at htexts
  cases target with
  | ndk | cpp =>
      simp only [Target.headerFile?, List.forall_mem_cons] at htexts
      obtain rfl := Option.some.inj (htexts.2.1.symm.trans hsource)
      have hvalues := hvalues.resolve_left (by decide)
      refine Converter.errorLines_cppText ?_ (hvalues.unmarked_enumAsserts hregular _) hproper
      simp only [unmarked_append, hname.unmarked_canonicalPath]
      decide
  | java =>
      simp only [Target.headerFile?, List.forall_mem_cons] at htexts
      obtain rfl := Option.some.inj (htexts.1.symm.trans hsource)
      exact Converter.errorLines_javaText hname.unmarked_canonicalPackage
        (fun function hfunction => h.target_of_mem hfunctions hfunction) hproper

end Conversion

end HalBridge
