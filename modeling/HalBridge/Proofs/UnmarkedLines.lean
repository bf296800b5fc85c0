import HalBridge.Proofs.EmittedBlocks
import HalBridge.Proofs.ErrorLines
import HalBridge.Proofs.NameTexts

/-!
# Lines without marks

What is generated from proper names, apart from the lines that mark fields, stays on one line and
has no `#`: neither names nor numbers have such characters, and the fixed texts around them have
none either.
-/

namespace HalBridge

open Text QualifiedName
open QualifiedName.Token (isName isNumeral startsName continuesName isName_iff
  continuesName_of_startsName)

/-! ### Names -/

theorem isNameMark_lt {c : Char} (h : isNameMark c) : c.toNat < 128 := by
  simp only [isNameMark, continuesName, startsName, isNumeral, Char.le_def, Bool.or_eq_true,
    Bool.and_eq_true, decide_eq_true_eq, UInt32.le_iff_toNat_le] at h
  rcases h with ((((((⟨-, h⟩ | ⟨-, h⟩) | rfl) | ⟨-, h⟩) | rfl) | rfl) | rfl)
  · exact Nat.lt_of_le_of_lt h (by decide)
  · exact Nat.lt_of_le_of_lt h (by decide)
  · decide
  · exact Nat.lt_of_le_of_lt h (by decide)
  · decide
  · decide
  · decide

/-- What holds of the marks of names among the first 128 characters holds of all of them. -/
theorem forall_isNameMark {P : Char → Prop}
    (h : ∀ code < 128, isNameMark (Char.ofNat code) → P (Char.ofNat code)) {c : Char}
    (hc : isNameMark c) : P c := by
  rw [← Char.ofNat_toNat c] at hc ⊢
  exact h c.toNat (isNameMark_lt (Char.ofNat_toNat c ▸ hc)) hc

theorem unmarked_of_isNameMark {text : String} (h : ∀ c ∈ text.toList, isNameMark c) :
    Unmarked text := by
  intro c hc
  refine forall_isNameMark (P := fun c => ¬isLineBreak c ∧ c ≠ '#') ?_ (h c hc)
  decide

theorem isNameMark_of_continuesName {c : Char} (h : continuesName c) : isNameMark c := by
  simp [isNameMark, h]

theorem unmarked_of_isName {name : String} (h : isName name) : Unmarked name :=
  unmarked_of_isNameMark fun _ hc => isNameMark_of_continuesName (continuesName_of_mem h hc)

theorem unmarked_toString (n : Nat) : Unmarked (toString n) :=
  unmarked_of_isNameMark fun _ hc => isNameMark_of_mem_toString hc

/-- The first letter of a name in upper case is a letter. -/
theorem unmarked_capitalize {name : String} (h : isName name) : Unmarked (capitalize name) := by
  have hupper : ∀ {c : Char}, isNameMark c → Unmarked (String.ofList (upperChar c)) := by
    intro c hc
    refine forall_isNameMark (P := fun c => Unmarked (String.ofList (upperChar c))) ?_ hc
    decide +kernel
  obtain ⟨first, rest, htext, hfirst, hrest⟩ := isName_iff.mp h
  have hcapital : capitalize name = String.ofList (upperChar first) ++ String.ofList rest := by
    rw [← String.ofList_append, capitalize, htext]
  rw [hcapital, unmarked_append]
  refine ⟨hupper (isNameMark_of_continuesName (continuesName_of_startsName hfirst)), ?_⟩
  refine unmarked_of_isNameMark fun c hc => isNameMark_of_continuesName (hrest c ?_)
  rwa [String.toList_ofList] at hc

theorem unmarked_intercalate {separator : String} {parts : List String}
    (hseparator : Unmarked separator) (h : ∀ part ∈ parts, Unmarked part) :
    Unmarked (String.intercalate separator parts) := by
  intro c hc
  rcases mem_intercalate hc with hc | ⟨part, hpart, hc⟩
  · exact hseparator c hc
  · exact h part hpart c hc

theorem unmarked_join {parts : List String} (h : ∀ part ∈ parts, Unmarked part) :
    Unmarked (String.join parts) := by
  intro c hc
  rw [String.toList_join] at hc
  obtain ⟨part, hpart, hc⟩ := List.mem_flatMap.mp hc
  exact h part hpart c hc

theorem unmarked_split {text part : String} {separator : Char} (h : Unmarked text)
    (hpart : part ∈ split separator text) : Unmarked part :=
  fun c hc => h c (mem_split hpart hc).1

namespace QualifiedName.Regular

variable {q : QualifiedName}

theorem unmarked_package (h : q.Regular) : Unmarked q.package := by
  obtain ⟨names, -, hnames, htext⟩ := h.package
  rw [htext]
  exact unmarked_intercalate (by decide) fun name hname => unmarked_of_isName (hnames name hname)

theorem unmarked_names (h : q.Regular) : ∀ name ∈ q.names, Unmarked name :=
  fun name hname => unmarked_of_isName (h.isName_of_mem_names name hname)

theorem unmarked_toText (h : q.Regular) : Unmarked q.toText :=
  unmarked_of_isNameMark fun _ hc => h.isNameMark_of_mem hc

theorem unmarked_canonicalPackage (h : q.Regular) : Unmarked q.canonicalPackage := by
  unfold canonicalPackage
  split
  · exact h.unmarked_package
  · exact (unmarked_append _ _).mpr ⟨h.unmarked_package, unmarked_toString _⟩

theorem unmarked_canonicalPath (h : q.Regular) : Unmarked q.canonicalPath := by
  intro c hc
  rw [canonicalPath, dotsToSlashes, String.toList_map] at hc
  obtain ⟨d, hd, rfl⟩ := List.mem_map.mp hc
  split
  · decide
  · exact h.unmarked_canonicalPackage d hd

theorem unmarked_canonicalType (h : q.Regular) (target : Target) :
    Unmarked (target.canonicalType q) := by
  have htype : Unmarked q.canonicalTypeName := unmarked_join h.unmarked_names
  have hpackage : Unmarked (String.intercalate "::" (split '.' q.canonicalPackage)) :=
    unmarked_intercalate (by decide) fun part hpart =>
      unmarked_split h.unmarked_canonicalPackage hpart
  cases target with
  | ndk | cpp =>
      simp only [Target.canonicalType, unmarked_append, htype, hpackage]
      decide
  | java =>
      simp only [Target.canonicalType, canonicalName, unmarked_append, htype,
        h.unmarked_canonicalPackage]
      decide

theorem unmarked_legacyType (h : q.Regular) (target : Target) : Unmarked (target.legacyType q) := by
  have hnamespace : Unmarked q.version.codeNamespace := by
    simp only [Version.codeNamespace, unmarked_append, unmarked_toString]
    decide
  have hnames : ∀ part ∈ q.version.codeNamespace :: q.names, Unmarked part :=
    List.forall_mem_cons.mpr ⟨hnamespace, h.unmarked_names⟩
  cases target with
  | ndk | cpp =>
      have hparts : ∀ part ∈ split '.' q.package ++ q.version.codeNamespace :: q.names,
          Unmarked part := by
        intro part hpart
        rcases List.mem_append.mp hpart with hpart | hpart
        · exact unmarked_split h.unmarked_package hpart
        · exact hnames part hpart
      have hpath := @unmarked_intercalate "::" _ (by decide) hparts
      exact (unmarked_append "::" _).mpr ⟨by decide, hpath⟩
  | java =>
      have hparts := List.forall_mem_cons.mpr ⟨h.unmarked_package, hnames⟩
      exact @unmarked_intercalate "." _ (by decide) hparts

theorem unmarked_head (h : q.Regular) (target : Target) : Unmarked (target.head q) := by
  have hcanonical := h.unmarked_canonicalType target
  have hlegacy := h.unmarked_legacyType target
  delta Target.head
  cases target with
  | ndk | cpp | java =>
      dsimp only
      simp only [unmarked_append, hcanonical, hlegacy]
      decide

end QualifiedName.Regular

/-! ### Lines of blocks -/

section Lines

variable {source name value : String} {owner : QualifiedName}

theorem RangeCheck.unmarked_lines (check : RangeCheck) (target : Target)
    (hsource : Unmarked source) : ∀ line ∈ check.lines target source, Unmarked line := by
  have hbound : ∀ upper, Unmarked (check.bound upper) := by
    intro upper
    unfold bound
    split <;> simp only [unmarked_append, unmarked_toString] <;> decide
  have hcondition : Unmarked (check.condition source) := by
    unfold condition
    split
    · simp only [unmarked_append, hsource]
      decide
    · simp only [unmarked_append, hsource, hbound]
      decide
  have hfailure : Unmarked (target.failure source) := by
    delta Target.failure
    cases target with
    | ndk | cpp =>
        dsimp only
        decide
    | java =>
        dsimp only
        simp only [unmarked_append, hsource]
        decide
  unfold RangeCheck.lines
  simp only [List.forall_mem_cons, unmarked_append, hcondition, hfailure]
  decide

theorem Cast.unmarked_apply {cast : Cast} (hcast : ∀ type, cast = .toEnum type → Unmarked type)
    (hsource : Unmarked source) : Unmarked (cast.apply source) := by
  delta Cast.apply
  cases cast with
  | toScalar type =>
      dsimp only
      have htype : Unmarked type.cppText := by cases type <;> decide
      simp only [unmarked_append, hsource, htype]
      decide
  | toEnum type =>
      dsimp only
      simp only [unmarked_append, hsource, hcast type rfl]
      decide
  | keep => exact hsource
  | toChar | fromUnsignedShort | toString16 =>
      dsimp only
      simp only [unmarked_append, hsource]
      decide

theorem Target.unmarked_writing (target : Target) (access : Access) (howner : owner.Regular)
    (hname : isName name) (hvalue : Unmarked value) :
    Unmarked (target.writing access owner name value) := by
  have hname' := unmarked_of_isName hname
  have hcapital := unmarked_capitalize hname
  have htype := howner.unmarked_canonicalType target
  delta Target.writing
  cases target <;> cases access <;> dsimp only <;>
    simp only [unmarked_append, hname', hcapital, htype, hvalue] <;> decide

theorem Target.unmarked_callLines {type : QualifiedName} (target : Target) (access : Access)
    (howner : owner.Regular) (htype : type.Regular) (hsource : Unmarked source)
    (hname : isName name) :
    ∀ line ∈ target.callLines access owner type source name, Unmarked line := by
  have hname' := unmarked_of_isName hname
  have hwriting := fun value hvalue =>
    @Target.unmarked_writing name value owner target .accessor howner hname hvalue
  have htype := htype.unmarked_canonicalType target
  delta Target.callLines
  cases target with
  | ndk | cpp =>
      cases access with
      | member =>
          dsimp only
          simp only [List.forall_mem_singleton, unmarked_append, hname', hsource]
          decide
      | accessor =>
          have hmoved := hwriting ("std::move(" ++ name ++ ")") (by
            simp only [unmarked_append, hname']
            decide)
          dsimp only
          simp only [List.forall_mem_cons, unmarked_append, hname', hsource, htype, hmoved]
          decide
  | java =>
      cases access with
      | member =>
          dsimp only
          simp only [List.forall_mem_singleton, unmarked_append, hname', hsource]
          decide
      | accessor =>
          have hcalled := hwriting ("h2aTranslate(" ++ source ++ ")") (by
            simp only [unmarked_append, hsource]
            decide)
          dsimp only
          simpa only [List.forall_mem_singleton] using hcalled

/-- The types of the values of an atom have proper names. -/
def Atom.Proper (atom : Atom) : Prop :=
  ∀ q backing, atom = .enum q backing → q.Regular

theorem Transfer.unmarked_preparation (target : Target) (atom : Atom) (hsource : Unmarked source) :
    ∀ line ∈ (Transfer.of target atom source).preparation target, Unmarked line := by
  have hcomments : ∀ line ∈ target.valueComments atom, Unmarked line := by
    cases target <;> cases atom <;> first
      | exact fun _ hline => absurd hline List.not_mem_nil
      | decide
  intro line hline
  unfold preparation Transfer.of at hline
  rcases List.mem_append.mp hline with hline | hline
  · dsimp only at hline
    cases hcheck : atom.rangeCheck? with
    | none =>
        rw [hcheck] at hline
        exact absurd hline List.not_mem_nil
    | some check =>
        rw [hcheck] at hline
        exact check.unmarked_lines target hsource line hline
  · exact hcomments line hline

theorem Cast.ofJavaScalar_ne_toEnum (scalar : Scalar) (type : String) :
    Cast.ofJavaScalar scalar ≠ .toEnum type := by
  cases scalar <;> exact Cast.noConfusion

theorem Transfer.unmarked_value (target : Target) {atom : Atom} (hatom : atom.Proper)
    (hsource : Unmarked source) : Unmarked (Transfer.of target atom source).value := by
  refine Cast.unmarked_apply ?_ hsource
  intro type htype
  unfold Transfer.of Target.castOf at htype
  cases target with
  | ndk | cpp =>
      cases atom with
      | enum q backing =>
          obtain rfl := Cast.toEnum.inj htype
          exact (hatom q backing rfl).unmarked_canonicalType _
      | scalar | string => cases htype
  | java =>
      cases atom with
      | enum q backing => exact absurd htype (Cast.ofJavaScalar_ne_toEnum backing type)
      | scalar scalar => exact absurd htype (Cast.ofJavaScalar_ne_toEnum scalar type)
      | string => cases htype

theorem Target.unmarked_elementType (target : Target) {atom : Atom} (hatom : atom.Proper) :
    Unmarked (target.elementType atom) := by
  have hjava : ∀ scalar : Scalar, Unmarked scalar.aidlText := by
    intro scalar
    cases scalar <;> decide
  have hcpp : ∀ scalar : Scalar, Unmarked scalar.aidl.cppText := by
    intro scalar
    cases scalar <;> decide
  cases target with
  | ndk | cpp =>
      cases atom with
      | enum q backing => exact (hatom q backing rfl).unmarked_canonicalType _
      | scalar scalar => exact hcpp scalar
      | string => decide
  | java =>
      cases atom with
      | enum q backing => exact hjava backing
      | scalar scalar => exact hjava scalar
      | string => decide

theorem ElementRead.unmarked_apply (read : ElementRead) (hsource : Unmarked source) :
    Unmarked (read.apply source) := by
  delta ElementRead.apply
  cases read <;> dsimp only <;> simp only [unmarked_append, hsource] <;> decide

/-- The texts of a sink. -/
def Target.Sink.texts (sink : Target.Sink) : List String :=
  sink.container :: (sink.fresh.toList ++ sink.finish.toList)

theorem Target.unmarked_length (fixed : Bool) (hsource : Unmarked source) :
    Unmarked (if fixed then source ++ ".length" else source ++ ".size()") := by
  split <;> simp only [unmarked_append, hsource] <;> decide

theorem Target.unmarked_loopHead (target : Target) (fixed : Bool) (hsource : Unmarked source) :
    Unmarked (target.loopHead source fixed) := by
  delta Target.loopHead
  cases target with
  | ndk | cpp =>
      dsimp only
      decide
  | java =>
      dsimp only
      simp only [unmarked_append, unmarked_length fixed hsource]
      decide

theorem Target.unmarked_beforeLoop {elementType : String} {sink : Target.Sink} (target : Target)
    (fixed : Bool) (hsource : Unmarked source) (htype : Unmarked elementType)
    (hsink : ∀ text ∈ sink.texts, Unmarked text) :
    ∀ line ∈ target.beforeLoop source fixed elementType sink, Unmarked line := by
  obtain ⟨container, fresh, finish⟩ := sink
  simp only [Sink.texts, List.forall_mem_cons, List.forall_mem_append] at hsink
  obtain ⟨hcontainer, hfresh, -⟩ := hsink
  delta Target.beforeLoop
  cases target with
  | ndk | cpp =>
      have hsize : Unmarked (if fixed then "sizeof(" ++ source ++ ")/sizeof(" ++ source ++ "[0])"
          else source ++ ".size()") := by
        split <;> simp only [unmarked_append, hsource] <;> decide
      have hdeclared : ∀ line ∈ fresh.toList.map
          ("    std::vector<" ++ elementType ++ "> " ++ · ++ ";"), Unmarked line := by
        simp only [List.forall_mem_map, unmarked_append, htype]
        exact fun name hname => ⟨⟨by decide, hfresh name hname⟩, by decide⟩
      dsimp only
      simp only [List.forall_mem_append, List.forall_mem_cons, unmarked_append, hsize,
        iff_true_intro hdeclared]
      decide
  | java =>
      have hdeclared : Unmarked ((fresh.map (elementType ++ "[] " ++ ·)).getD container) := by
        cases fresh with
        | none => exact hcontainer
        | some name =>
            simp only [Option.map_some, Option.getD_some, unmarked_append, htype,
              hfresh name (Option.mem_toList.mpr rfl)]
            decide
      dsimp only
      simp only [List.forall_mem_cons, unmarked_append, htype, hsource,
        unmarked_length fixed hsource, hdeclared]
      decide

theorem Target.unmarked_loop {elementType : String} {preparation : List String} {sink : Target.Sink}
    (target : Target) (fixed : Bool) (hsource : Unmarked source) (htype : Unmarked elementType)
    (hpreparation : ∀ line ∈ preparation, Unmarked line) (hvalue : Unmarked value)
    (hsink : ∀ text ∈ sink.texts, Unmarked text) :
    ∀ line ∈ target.loop source fixed elementType preparation value sink, Unmarked line := by
  have hbefore := target.unmarked_beforeLoop fixed hsource htype hsink
  simp only [Sink.texts, List.forall_mem_cons, List.forall_mem_append] at hsink
  obtain ⟨hcontainer, -, hfinish⟩ := hsink
  have hstore : Unmarked (target.storeElement sink.container value) := by
    delta Target.storeElement
    cases target <;> dsimp only <;> simp only [unmarked_append, hcontainer, hvalue] <;> decide
  have hround : ∀ line ∈
      (preparation ++ [target.storeElement sink.container value]).map ("        " ++ ·),
      Unmarked line := by
    simp only [List.forall_mem_map, unmarked_append, List.forall_mem_append,
      List.forall_mem_singleton]
    exact ⟨fun line hline => ⟨by decide, hpreparation line hline⟩, by decide, hstore⟩
  have hafter : ∀ line ∈ Target.afterLoop sink, Unmarked line := by
    simp only [Target.afterLoop, List.forall_mem_append, List.forall_mem_map, unmarked_append,
      List.forall_mem_singleton]
    exact ⟨fun line hline => ⟨by decide, hfinish line hline⟩, by decide⟩
  rw [Target.loop_eq]
  refine List.forall_mem_append.mpr ⟨List.forall_mem_append.mpr ⟨hbefore, ?_⟩, ?_⟩
  · exact List.forall_mem_cons.mpr ⟨target.unmarked_loopHead fixed hsource, hround⟩
  · exact List.forall_mem_cons.mpr ⟨by decide, hafter⟩

theorem Target.unmarked_sink (target : Target) (access : Access) (howner : owner.Regular)
    (hname : isName name) : ∀ text ∈ (target.sink access owner name).texts, Unmarked text := by
  have hname' := unmarked_of_isName hname
  cases access with
  | member =>
      have hfield : Unmarked (target.fieldRef name) := by
        delta Target.fieldRef
        cases target <;> dsimp only <;> simp only [unmarked_append, hname'] <;> decide
      simpa [Target.sink, Sink.texts] using hfield
  | accessor =>
      have hmove : Unmarked (target.move name) := by
        delta Target.move
        cases target with
        | ndk | cpp =>
            dsimp only
            simp only [unmarked_append, hname']
            decide
        | java => exact hname'
      have hset := target.unmarked_writing .accessor howner hname hmove
      rw [← Target.assign_eq_writing, Target.assign] at hset
      simpa [Target.sink, Sink.texts, hname'] using hset

end Lines

end HalBridge
