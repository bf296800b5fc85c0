import HalBridge.Proofs.EmittedBlocks

/-!
# The lines of a conversion

A field that is converted has one line that writes it: an assignment, a call, the setter of a
union or, for a container in a struct, the statement that stores an element. How the other lines
begin tells them from this one and from a marker. Only the declaration of a local variable in C++
begins with a text that is not fixed, the name of a type; it is told from the setter after it by
its end.
-/

namespace HalBridge

namespace Text

/-! ### How a line begins -/

def Starts (line opening : String) : Prop :=
  opening.toList <+: line.toList

instance (line opening : String) : Decidable (Starts line opening) :=
  inferInstanceAs (Decidable (_ <+: _))

/-- No line begins with both texts. -/
def apart (opening other : String) : Bool :=
  !opening.toList.isPrefixOf other.toList && !other.toList.isPrefixOf opening.toList

/-- Every line begins with one of the openings. -/
def StartWith (lines openings : List String) : Prop :=
  ∀ line ∈ lines, ∃ opening ∈ openings, Starts line opening

instance (lines openings : List String) : Decidable (StartWith lines openings) :=
  inferInstanceAs (Decidable (∀ line ∈ lines, ∃ opening ∈ openings, Starts line opening))

variable {line other opening opening' : String} {lines lines' openings : List String}

theorem starts_append (opening rest : String) : Starts (opening ++ rest) opening := by
  rw [Starts, String.toList_append]
  exact List.prefix_append _ _

theorem Starts.append (h : Starts line opening) (rest : String) :
    Starts (line ++ rest) opening := by
  rw [Starts, String.toList_append]
  exact List.IsPrefix.trans h (List.prefix_append _ _)

theorem Starts.indent (h : Starts line opening) (blanks : String) :
    Starts (blanks ++ line) (blanks ++ opening) := by
  rw [Starts, String.toList_append, String.toList_append]
  exact (List.prefix_append_right_inj _).mpr h

theorem Starts.not_apart (h : Starts line opening) (h' : Starts line opening') :
    apart opening opening' = false := by
  rcases List.prefix_or_prefix_of_prefix h h' with hprefix | hprefix
  · rw [apart, List.isPrefixOf_iff_prefix.mpr hprefix]
    rfl
  · rw [apart, List.isPrefixOf_iff_prefix.mpr hprefix, Bool.not_true, Bool.and_false]

theorem StartWith.append (h : StartWith lines openings) (h' : StartWith lines' openings) :
    StartWith (lines ++ lines') openings := by
  intro line hline
  rcases List.mem_append.mp hline with hline | hline
  · exact h line hline
  · exact h' line hline

theorem StartWith.indent (h : StartWith lines openings) (blanks : String) :
    StartWith (lines.map (blanks ++ ·)) (openings.map (blanks ++ ·)) := by
  intro line hline
  obtain ⟨inner, hinner, rfl⟩ := List.mem_map.mp hline
  obtain ⟨opening, hopening, hstarts⟩ := h inner hinner
  exact ⟨_, List.mem_map_of_mem hopening, hstarts.indent blanks⟩

/-- Openings may be replaced by shorter ones. -/
theorem StartWith.coarsen {shorter : List String} (h : StartWith lines openings)
    (hshorter : StartWith openings shorter) : StartWith lines shorter := by
  intro line hline
  obtain ⟨opening, hopening, hstarts⟩ := h line hline
  obtain ⟨other, hother, hbegins⟩ := hshorter opening hopening
  exact ⟨other, hother, List.IsPrefix.trans hbegins hstarts⟩

theorem StartWith.nil : StartWith [] openings :=
  fun _ hline => absurd hline List.not_mem_nil

theorem StartWith.cons (opening : String) (h : Starts line opening)
    (hopening : opening ∈ openings) (rest : StartWith lines openings) :
    StartWith (line :: lines) openings := by
  intro other hother
  rcases List.mem_cons.mp hother with rfl | hother
  · exact ⟨opening, hopening, h⟩
  · exact rest other hother

/-- Lines that begin differently do not occur. -/
theorem StartWith.not_starts (h : StartWith lines openings)
    (hapart : openings.all (apart · opening)) : ∀ line ∈ lines, ¬Starts line opening := by
  intro line hmem hline
  obtain ⟨other, hother, hstarts⟩ := h line hmem
  have hcontra := List.all_eq_true.mp hapart other hother
  rw [hstarts.not_apart hline] at hcontra
  exact Bool.false_ne_true hcontra

theorem StartWith.count_eq_zero (h : StartWith lines openings) (hline : Starts line opening)
    (hapart : openings.all (apart · opening)) : lines.count line = 0 :=
  List.count_eq_zero_of_not_mem fun hmem => h.not_starts hapart line hmem hline

end Text

open Text

/-! ### The lines around the write -/

theorem Transfer.preparation_startWith (target : Target) (atom : Atom) (source : String) :
    StartWith ((Transfer.of target atom source).preparation target)
      ["// FIXME", "if (", "    ", "\x7d"] := by
  refine StartWith.append ?_ ?_
  · cases hcheck : (Transfer.of target atom source).check with
    | none => exact .nil
    | some check =>
        refine .cons "// FIXME" (.append (by decide) _) (by decide) ?_
        refine .cons "if (" (.append (starts_append _ _) _) (by decide) ?_
        refine .cons "    " (starts_append _ _) (by decide) ?_
        exact .cons "\x7d" (List.prefix_refl _) (by decide) .nil
  · unfold Transfer.of Target.valueComments
    dsimp only
    split
    · exact .cons "// FIXME" (by decide) (by decide) .nil
    · exact .nil

namespace Target

theorem fieldRef_starts (target : Target) (name : String) :
    Starts (target.fieldRef name) "out" := by
  cases target with
  | ndk | cpp | java => exact .append (by decide) _

theorem assignUnion_starts (target : Target) (union : QualifiedName) (name value : String) :
    Starts (target.assignUnion union name value) "out" := by
  cases target with
  | ndk | cpp =>
      have hset : ∀ type : String, Starts ("out->set<" ++ type) "out" :=
        fun type => .append (by decide) type
      exact (((((hset _).append _).append _).append _).append _).append _
  | java =>
      have hset : Starts ("out.set" ++ capitalize name) "out" := .append (by decide) _
      exact ((hset.append _).append _).append _

theorem assign_starts (target : Target) (access : Access) (owner : QualifiedName)
    (name value : String) : Starts (target.assign access owner name value) "out" := by
  cases access with
  | member => exact (((target.fieldRef_starts name).append _).append _).append _
  | accessor => exact target.assignUnion_starts owner name value

theorem storeElement_starts (target : Target) {container : String}
    (h : Starts container "out") (value : String) :
    Starts (target.storeElement container value) "out" := by
  cases target with
  | ndk | cpp | java => exact ((h.append _).append _).append _

theorem loopHead_starts (target : Target) (source : String) (fixed : Bool) :
    Starts (target.loopHead source fixed) "    for (" := by
  cases target with
  | ndk | cpp =>
      unfold loopHead
      dsimp only
      decide
  | java => exact (Starts.append (by decide) _).append _

/-- The types that the elements of a container have in Java. -/
def javaElementTypes : List String :=
  ["String", "boolean", "byte", "char", "int", "long", "float", "double"]

theorem elementType_java (atom : Atom) : Target.java.elementType atom ∈ javaElementTypes := by
  have hscalar : ∀ scalar : Scalar, scalar.aidlText ∈ javaElementTypes := by
    intro scalar
    cases scalar <;> decide
  cases atom with
  | scalar scalar => exact hscalar scalar
  | enum q backing => exact hscalar backing
  | string => decide

theorem beforeLoop_member (target : Target) (owner : QualifiedName) (source name : String)
    (fixed : Bool) (type : String) :
    StartWith (target.beforeLoop source fixed type (target.sink .member owner name))
      ["\x7b", "    size_t", "if (", "    out"] := by
  cases target with
  | ndk | cpp =>
      refine .cons "\x7b" (List.prefix_refl _) (by decide) ?_
      refine .cons "    size_t" ?_ (by decide) .nil
      exact (Starts.append (by decide) _).append _
  | java =>
      refine .cons "if (" ((starts_append _ _).append _) (by decide) ?_
      refine .cons "    out" ?_ (by decide) .nil
      have hfield : Starts ("    " ++ Target.java.fieldRef name) "    out" :=
        (Target.java.fieldRef_starts name).indent "    "
      exact ((((hfield.append _).append _).append _).append _).append _

theorem beforeLoop_accessor (target : Target) (owner : QualifiedName) (source name : String)
    (fixed : Bool) (element : Atom) :
    StartWith (target.beforeLoop source fixed (target.elementType element)
        (target.sink .accessor owner name))
      (["\x7b", "    std::vector<", "    size_t", "if ("]
        ++ javaElementTypes.map ("    " ++ ·)) := by
  cases target with
  | ndk | cpp =>
      refine .cons "\x7b" (List.prefix_refl _) (by decide) ?_
      refine .cons "    std::vector<" ?_ (by decide) ?_
      · exact (((starts_append _ _).append _).append _).append _
      refine .cons "    size_t" ?_ (by decide) .nil
      exact (Starts.append (by decide) _).append _
  | java =>
      refine .cons "if (" ((starts_append _ _).append _) (by decide) ?_
      refine .cons ("    " ++ Target.java.elementType element) ?_ ?_ .nil
      · have hdeclared : Starts ("    " ++ (Target.java.elementType element ++ "[] " ++ name))
            ("    " ++ Target.java.elementType element) :=
          Starts.indent ((starts_append _ _).append _) "    "
        exact ((((hdeclared.append _).append _).append _).append _).append _
      · exact List.mem_append_right _ (List.mem_map_of_mem (elementType_java element))

end Target

/-! ### The write -/

/-- The line that writes a field which is converted by a call. -/
def Target.callWrite (target : Target) (access : Access) (owner : QualifiedName)
    (source name : String) : String :=
  match access, target with
  | .member, .ndk | .member, .cpp =>
      "if (!translate(" ++ source ++ ", &out->" ++ name ++ ")) return false;"
  | .member, .java => "out." ++ name ++ " = h2aTranslate(" ++ source ++ ");"
  | .accessor, .ndk | .accessor, .cpp => "    " ++ target.assignUnion owner name (target.move name)
  | .accessor, .java => target.assignUnion owner name ("h2aTranslate(" ++ source ++ ")")

/-- The line that writes a container, or an element of it into a member. -/
def Target.fillWrite (target : Target) (access : Access) (owner : QualifiedName)
    (name value : String) : String :=
  match access with
  | .member => "        " ++ target.storeElement (target.fieldRef name) value
  | .accessor => "    " ++ target.assignUnion owner name (target.move name)

namespace FieldPlan

/-- The line that writes the field `name`, which `source` reads, if it is converted. -/
def write? (plan : FieldPlan) (target : Target) (access : Access) (owner : QualifiedName)
    (source name : String) : Option String :=
  match plan with
  | .call _ => some (target.callWrite access owner source name)
  | .copy atom => some (target.assign access owner name (Transfer.of target atom source).value)
  | .fill fixed element =>
      let read := (target.elementRead fixed (some element)).apply source
      some (target.fillWrite access owner name (Transfer.of target element read).value)
  | _ => none

end FieldPlan

namespace Target

variable {target : Target} {preparation : List String}

theorem count_loop (target : Target) (source : String) (fixed : Bool) (type : String)
    (preparation : List String) (value : String) (sink : Sink) (line : String) :
    (target.loop source fixed type preparation value sink).count line =
      (target.beforeLoop source fixed type sink).count line
        + [target.loopHead source fixed].count line
        + (preparation.map ("        " ++ ·)).count line
        + ["        " ++ target.storeElement sink.container value].count line
        + ("    \x7d" :: afterLoop sink).count line := by
  have hlines : target.loop source fixed type preparation value sink =
      target.beforeLoop source fixed type sink ++ [target.loopHead source fixed]
        ++ preparation.map ("        " ++ ·)
        ++ ["        " ++ target.storeElement sink.container value]
        ++ "    \x7d" :: afterLoop sink := by
    rw [loop_eq, List.map_append, List.map_singleton]
    simp only [List.append_assoc, List.cons_append, List.nil_append]
  rw [hlines]
  simp only [List.count_append]

theorem loopHead_startWith (target : Target) (source : String) (fixed : Bool) :
    StartWith [target.loopHead source fixed] ["    for ("] :=
  .cons _ (target.loopHead_starts source fixed) (by decide) .nil

theorem count_loop_member (owner : QualifiedName) (source name type value : String) (fixed : Bool)
    (h : StartWith preparation ["// FIXME", "if (", "    ", "\x7d"]) :
    (target.loop source fixed type preparation value (target.sink .member owner name)).count
      ("        " ++ target.storeElement (target.fieldRef name) value) = 1 := by
  have hwrite : Starts ("        " ++ target.storeElement (target.fieldRef name) value)
      "        out" :=
    (target.storeElement_starts (target.fieldRef_starts name) value).indent "        "
  have hbefore := target.beforeLoop_member owner source name fixed type
  have hafter : StartWith ("    \x7d" :: afterLoop (target.sink .member owner name))
      ["    \x7d", "\x7d"] :=
    .cons "    \x7d" (List.prefix_refl _) (by decide)
      (.cons "\x7d" (List.prefix_refl _) (by decide) .nil)
  rw [count_loop, hbefore.count_eq_zero hwrite (by decide),
    (target.loopHead_startWith source fixed).count_eq_zero hwrite (by decide),
    (h.indent "        ").count_eq_zero hwrite (by decide),
    hafter.count_eq_zero hwrite (by decide), sink, List.count_singleton_self]

theorem count_loop_accessor (owner : QualifiedName) (source name value : String) (fixed : Bool)
    (element : Atom) :
    (target.loop source fixed (target.elementType element) preparation value
        (target.sink .accessor owner name)).count
      ("    " ++ target.assignUnion owner name (target.move name)) = 1 := by
  have hwrite : Starts ("    " ++ target.assignUnion owner name (target.move name)) "    out" :=
    (target.assignUnion_starts owner name (target.move name)).indent "    "
  have hbefore := target.beforeLoop_accessor owner source name fixed element
  have hinner : ∀ lines : List String,
      StartWith (lines.map ("        " ++ ·)) ["        "] := by
    intro lines line hline
    obtain ⟨inner, -, rfl⟩ := List.mem_map.mp hline
    exact ⟨_, List.mem_cons_self, starts_append _ _⟩
  have hstore : StartWith
      ["        " ++ target.storeElement (target.sink .accessor owner name).container value]
      ["        "] :=
    hinner [_]
  have hclose : StartWith ["    \x7d"] ["    \x7d"] :=
    .cons _ (List.prefix_refl _) (by decide) .nil
  have hend : StartWith ["\x7d"] ["\x7d"] := .cons _ (List.prefix_refl _) (by decide) .nil
  have hafter : "    \x7d" :: afterLoop (target.sink .accessor owner name) =
      ["    \x7d"] ++ ["    " ++ target.assignUnion owner name (target.move name)] ++ ["\x7d"] :=
    rfl
  rw [count_loop, hbefore.count_eq_zero hwrite (by decide),
    (target.loopHead_startWith source fixed).count_eq_zero hwrite (by decide),
    (hinner preparation).count_eq_zero hwrite (by decide),
    hstore.count_eq_zero hwrite (by decide), hafter, List.count_append, List.count_append,
    hclose.count_eq_zero hwrite (by decide), hend.count_eq_zero hwrite (by decide),
    List.count_singleton_self]

/-! ### Calls that set a union -/

theorem takeWhile_append_stop {p : Char → Bool} {stop : Char} (hstop : p stop = false)
    (chars rest : List Char) : (chars ++ stop :: rest).takeWhile p = chars.takeWhile p := by
  induction chars with
  | nil => simp [hstop]
  | cons first chars ih =>
      rw [List.cons_append, List.takeWhile_cons, List.takeWhile_cons, ih]

/-- Whatever a name is, the text after its call has two more parentheses at its end. -/
theorem declared_ne_moved (front back name : List Char) :
    front ++ ' ' :: name ++ [';'] ≠ back ++ '(' :: name ++ [')', ')', ';'] := by
  intro h
  have hends := congrArg (fun text => (text.reverse.drop 1).takeWhile (· = ')')) h
  simp only [List.reverse_append, List.reverse_cons, List.reverse_nil, List.nil_append,
    List.append_assoc, List.cons_append, List.drop_succ_cons, List.drop_zero] at hends
  rw [takeWhile_append_stop (by decide)] at hends
  have hlength := congrArg List.length hends
  simp [takeWhile_append_stop] at hlength
  omega

theorem declaration_ne_setter (indent type union name : String) :
    indent ++ type ++ " " ++ name ++ ";" ≠
      indent ++ ("out->set<" ++ union ++ "::" ++ name ++ ">(" ++ ("std::move(" ++ name ++ ")")
        ++ ");") := by
  intro h
  have hlists := congrArg String.toList h
  refine declared_ne_moved (indent.toList ++ type.toList)
    (indent.toList ++ "out->set<".toList ++ union.toList ++ "::".toList ++ name.toList
      ++ ">(std::move".toList) name.toList ?_
  simpa using hlists

theorem count_setter {setter type : String} (source name : String)
    (hsetter : Starts setter "    out")
    (hdeclaration : "    " ++ type ++ " " ++ name ++ ";" ≠ setter) :
    ["\x7b", "    " ++ type ++ " " ++ name ++ ";",
      "    if (!translate(" ++ source ++ ", &" ++ name ++ ")) return false;", setter,
      "\x7d"].count setter = 1 := by
  have hcall : Starts ("    if (!translate(" ++ source) "    if (" := .append (by decide) source
  have hfront : StartWith ["\x7b"] ["\x7b"] := .cons _ (List.prefix_refl _) (by decide) .nil
  have htest : StartWith ["    if (!translate(" ++ source ++ ", &" ++ name ++ ")) return false;"]
      ["    if ("] :=
    .cons _ (((hcall.append _).append _).append _) (by decide) .nil
  have hback : StartWith ["\x7d"] ["\x7d"] := .cons _ (List.prefix_refl _) (by decide) .nil
  change (["\x7b"] ++ (["    " ++ type ++ " " ++ name ++ ";"] ++ (["    if (!translate(" ++ source
    ++ ", &" ++ name ++ ")) return false;"] ++ ([setter] ++ ["\x7d"])))).count setter = 1
  simp only [List.count_append]
  rw [hfront.count_eq_zero hsetter (by decide), htest.count_eq_zero hsetter (by decide),
    hback.count_eq_zero hsetter (by decide), List.count_singleton_self,
    List.count_eq_zero_of_not_mem (by simpa using hdeclaration.symm)]

theorem count_callIntoUnion (target : Target) (union type : QualifiedName)
    (source name : String) :
    (target.callIntoUnion union type source name).count
      (target.callWrite .accessor union source name) = 1 := by
  cases target with
  | java => exact List.count_singleton_self
  | ndk | cpp =>
      exact count_setter source name ((assignUnion_starts _ union name _).indent "    ")
        (declaration_ne_setter "    " _ _ name)

/-! ### No line is a marker -/

/-- How the lines of a conversion begin. -/
def conversionOpenings : List String :=
  ["// FIXME", "if (", "    ", "\x7b", "\x7d", "out"]

theorem call_startWith (target : Target) (access : Access) (owner type : QualifiedName)
    (source name : String) :
    StartWith (target.call access owner type source name) conversionOpenings := by
  cases access with
  | member =>
      cases target with
      | ndk | cpp =>
          have hcall : Starts ("if (!translate(" ++ source) "if (" := .append (by decide) _
          exact .cons _ (((hcall.append _).append _).append _) (by decide) .nil
      | java =>
          have hfield : Starts ("out." ++ name) "out" := .append (by decide) _
          exact .cons _ (((hfield.append _).append _).append _) (by decide) .nil
  | accessor =>
      cases target with
      | ndk | cpp =>
          have hcall : Starts ("    if (!translate(" ++ source) "    " := .append (by decide) _
          refine .cons "\x7b" (List.prefix_refl _) (by decide) ?_
          refine .cons "    " ((((starts_append _ _).append _).append _).append _) (by decide) ?_
          refine .cons _ (((hcall.append _).append _).append _) (by decide) ?_
          refine .cons "    " (starts_append _ _) (by decide) ?_
          exact .cons "\x7d" (List.prefix_refl _) (by decide) .nil
      | java => exact .cons _ (assignUnion_starts _ owner name _) (by decide) .nil

theorem loop_startWith (target : Target) (access : Access) (owner : QualifiedName)
    (source name : String) (fixed : Bool) (element : Atom) (preparation : List String)
    (value : String) :
    StartWith (target.loop source fixed (target.elementType element) preparation value
      (target.sink access owner name)) conversionOpenings := by
  have hbefore : StartWith (target.beforeLoop source fixed (target.elementType element)
      (target.sink access owner name)) conversionOpenings := by
    cases access with
    | member =>
        exact (target.beforeLoop_member owner source name fixed _).coarsen (by decide)
    | accessor =>
        exact (target.beforeLoop_accessor owner source name fixed element).coarsen (by decide)
  have hhead := (target.loopHead_startWith source fixed).coarsen
    (by decide : StartWith _ conversionOpenings)
  have hinner : ∀ (blanks : String) (lines : List String), Starts blanks "    " →
      StartWith (lines.map (blanks ++ ·)) conversionOpenings := by
    intro blanks lines hblanks line hline
    obtain ⟨inner, -, rfl⟩ := List.mem_map.mp hline
    exact ⟨"    ", by decide, hblanks.append inner⟩
  have hafter : StartWith (afterLoop (target.sink access owner name)) conversionOpenings :=
    (hinner "    " _ (List.prefix_refl _)).append
      (.cons "\x7d" (List.prefix_refl _) (by decide) .nil)
  rw [loop_eq]
  refine (hbefore.append (hhead.append (hinner "        " _ (by decide)))).append ?_
  exact .cons "    " (by decide) (by decide) hafter

end Target

namespace FieldPlan

variable {plan : FieldPlan} {target : Target} {access : Access} {owner : QualifiedName}
  {source name write : String}

/-- The line that writes a field occurs once among those of its conversion. -/
theorem count_write (h : plan.write? target access owner source name = some write) :
    (plan.lines target access owner source name).count write = 1 := by
  cases plan with
  | unhandled | plainUnion | unknownType | nestedContainer | compoundElements | snippet => cases h
  | copy atom =>
      obtain rfl := Option.some.inj h
      have hprepared := Transfer.preparation_startWith target atom source
      have hwrite := target.assign_starts access owner name (Transfer.of target atom source).value
      rw [lines, List.count_append, hprepared.count_eq_zero hwrite (by decide),
        List.count_singleton_self]
  | call type =>
      obtain rfl := Option.some.inj h
      cases access with
      | accessor => exact target.count_callIntoUnion owner type source name
      | member =>
          cases target with
          | ndk | cpp | java => exact List.count_singleton_self
  | fill fixed element =>
      obtain rfl := Option.some.inj h
      cases access with
      | accessor => exact Target.count_loop_accessor owner source name _ fixed element
      | member =>
          exact Target.count_loop_member owner source name _ _ fixed
            (Transfer.preparation_startWith target element _)

/-- How the lines of a conversion begin. -/
theorem lines_startWith (h : (plan.write? target access owner source name).isSome) :
    StartWith (plan.lines target access owner source name) Target.conversionOpenings := by
  cases plan with
  | unhandled | plainUnion | unknownType | nestedContainer | compoundElements | snippet => cases h
  | copy atom =>
      refine StartWith.append ?_ ?_
      · exact (Transfer.preparation_startWith target atom source).coarsen (by decide)
      · exact .cons "out" (target.assign_starts access owner name _) (by decide) .nil
  | call type => exact target.call_startWith access owner type source name
  | fill fixed element => exact target.loop_startWith access owner source name fixed element _ _

/-- No line of a conversion is a marker. -/
theorem not_starts_error (h : (plan.write? target access owner source name).isSome) :
    ∀ line ∈ plan.lines target access owner source name, ¬Starts line "#error" :=
  (lines_startWith h).not_starts (by decide)

end FieldPlan

end HalBridge
