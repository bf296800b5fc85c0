import HalBridge.Proofs.ConverterCalls
import HalBridge.Proofs.NameTexts

/-!
# The notes on converter functions

A note on a field that is not converted names the field and its type, and the two can be read off
its message, since names have neither quotes nor blanks. So different fields have different notes.
How a message begins and ends tells the notes on converter functions from those that merging and
the AIDL definitions leave.
-/

namespace HalBridge

open QualifiedName QualifiedName.Token

/-- The kind of a note and how its message begins. -/
def Note.opening (note : Note) : NoteKind × List Char :=
  (note.kind, note.message.toList.take 2)

/-- How the notes on converter functions begin. Of those on fields some begin like the notes on
members of definitions and are told apart by their end. -/
def Note.isOnConverter (note : Note) : Bool :=
  note.kind = .unknownType ||
    [(.unsupported, ['A', 'n']), (.unsupported, ['N', 'e']), (.unsupported, ['A', 'r']),
      (.unsupported, ['C', 'a'])].contains note.opening ||
    (note.opening = (.unsupported, ['F', 'i']) && note.message.toList.reverse.take 2 = ['.', 'd'])

theorem take_toList_append {text : String} (h : 2 ≤ text.toList.length) (rest : String) :
    (text ++ rest).toList.take 2 = text.toList.take 2 := by
  rw [String.toList_append, List.take_append_of_le_length h]

theorem take_reverse_append {text : String} (h : 2 ≤ text.toList.length) (front : String) :
    (front ++ text).toList.reverse.take 2 = text.toList.reverse.take 2 := by
  rw [String.toList_append, List.reverse_append, List.take_append_of_le_length (by simpa using h)]

/-! ### What a message names -/

section Messages

variable {front front' name name' owner owner' tail : String}

/-- A name in quotes and the owner after it are found from the end of a message. -/
theorem eq_of_quoted (hname : '"' ∉ name.toList) (hname' : '"' ∉ name'.toList)
    (howner : '"' ∉ owner.toList) (howner' : '"' ∉ owner'.toList) (htail : '"' ∉ tail.toList)
    (hfront : front.toList.getLast? = some '"') (hfront' : front'.toList.getLast? = some '"')
    (h : front ++ name ++ "\" of " ++ owner ++ tail =
      front' ++ name' ++ "\" of " ++ owner' ++ tail) :
    name = name' ∧ owner = owner' := by
  have hlists :
      front.toList ++ name.toList ++ '"' :: (" of ".toList ++ owner.toList ++ tail.toList) =
      front'.toList ++ name'.toList ++
        '"' :: (" of ".toList ++ owner'.toList ++ tail.toList) := by
    have hof : "\" of ".toList = '"' :: " of ".toList := rfl
    simpa only [String.toList_append, List.append_assoc, hof, List.cons_append]
      using congrArg String.toList h
  have hback : ∀ text : String, '"' ∉ text.toList →
      '"' ∉ " of ".toList ++ text.toList ++ tail.toList := by
    intro text htext
    rw [List.mem_append, List.mem_append, not_or, not_or]
    exact ⟨⟨by decide, htext⟩, htail⟩
  obtain ⟨hfronts, hbacks⟩ := eq_of_last (hback owner howner) (hback owner' howner') hlists
  obtain ⟨start, hstart⟩ := List.getLast?_eq_some_iff.mp hfront
  obtain ⟨start', hstart'⟩ := List.getLast?_eq_some_iff.mp hfront'
  rw [hstart, hstart', List.append_assoc, List.append_assoc] at hfronts
  refine ⟨String.toList_inj.mp (eq_of_last hname hname' hfronts).2, ?_⟩
  exact String.toList_inj.mp (List.append_cancel_left (List.append_cancel_right hbacks))

/-- A name in quotes and the owner after it are found from the start of a message, if a blank
follows them. -/
theorem eq_of_started {rest rest' : List Char} (hname : '"' ∉ name.toList)
    (hname' : '"' ∉ name'.toList) (howner : ' ' ∉ owner.toList) (howner' : ' ' ∉ owner'.toList)
    (h : front.toList ++ (name.toList ++ '"' :: (" of ".toList ++ (owner.toList ++ ' ' :: rest))) =
      front.toList ++ (name'.toList ++ '"' :: (" of ".toList ++ (owner'.toList ++ ' ' :: rest')))) :
    name = name' ∧ owner = owner' := by
  obtain ⟨hnames, hrests⟩ := eq_of_first hname hname' (List.append_cancel_left h)
  have howners := (eq_of_first howner howner' (List.append_cancel_left hrests)).1
  exact ⟨String.toList_inj.mp hnames, String.toList_inj.mp howners⟩

end Messages

/-! ### Notes on fields -/

namespace FieldPlan

variable {plan plan' : FieldPlan} {owner owner' : QualifiedName} {name name' : String}
  {note : Note}

/-- How the note on a plan begins. -/
def opening : FieldPlan → NoteKind × List Char
  | .unhandled _ => (.unsupported, ['A', 'n'])
  | .plainUnion _ => (.unsupported, ['F', 'i'])
  | .unknownType _ => (.unknownType, ['A', 'n'])
  | .nestedContainer => (.unsupported, ['N', 'e'])
  | .compoundElements _ => (.unsupported, ['A', 'r'])
  | _ => (.collision, [])

theorem opening_of_note (h : plan.note? owner name = some note) : note.opening = plan.opening := by
  cases plan with
  | unhandled | plainUnion | unknownType | nestedContainer | compoundElements =>
      obtain rfl := Option.some.inj h
      simp only [Note.opening, opening, String.append_assoc]
      rw [take_toList_append (by decide)]
      rfl
  | snippet | call | copy | fill => cases h

theorem isOnConverter_of_note (h : plan.note? owner name = some note) : note.isOnConverter := by
  have hopening := opening_of_note h
  cases plan with
  | unhandled | unknownType | nestedContainer | compoundElements =>
      obtain rfl := Option.some.inj h
      rw [Note.isOnConverter, hopening]
      rfl
  | plainUnion q =>
      obtain rfl := Option.some.inj h
      rw [Note.isOnConverter, hopening]
      dsimp only
      rw [take_reverse_append (by decide)]
      rfl
  | snippet | call | copy | fill => cases h

/-- The note on a field tells which field of which type it is about. -/
theorem note_inj (howner : owner.Regular) (howner' : owner'.Regular) (hname : isName name)
    (hname' : isName name') (h : plan.note? owner name = some note)
    (h' : plan'.note? owner' name' = some note) : owner = owner' ∧ name = name' := by
  have hopening : plan.opening = plan'.opening := by
    rw [← opening_of_note h, opening_of_note h']
  have hquote : ¬isNameMark '"' := by decide
  have hblank : ¬isNameMark ' ' := by decide
  -- The notes on one kind of plan have the name and the owner in the same place.
  have hfound : name = name' ∧ owner.toText = owner'.toText := by
    have hquoted : ∀ {front front' tail : String}, '"' ∉ tail.toList →
        front.toList.getLast? = some '"' → front'.toList.getLast? = some '"' →
        front ++ name ++ "\" of " ++ owner.toText ++ tail =
          front' ++ name' ++ "\" of " ++ owner'.toText ++ tail →
        name = name' ∧ owner.toText = owner'.toText :=
      eq_of_quoted (not_mem_of_isName hname hquote) (not_mem_of_isName hname' hquote)
        (howner.not_mem_toText hquote) (howner'.not_mem_toText hquote)
    cases plan with
    | unhandled special =>
        cases plan' with
        | unhandled special' =>
            exact hquoted (by decide) (last_append (by decide)) (last_append (by decide))
              (congrArg Note.message (Option.some.inj (h.trans h'.symm)))
        | _ => simp [opening] at hopening
    | unknownType q =>
        cases plan' with
        | unknownType q' =>
            exact hquoted (by decide) (last_append (by decide)) (last_append (by decide))
              (congrArg Note.message (Option.some.inj (h.trans h'.symm)))
        | _ => simp [opening] at hopening
    | nestedContainer =>
        cases plan' with
        | nestedContainer =>
            exact hquoted (by decide) (by decide) (by decide)
              (congrArg Note.message (Option.some.inj (h.trans h'.symm)))
        | _ => simp [opening] at hopening
    | compoundElements label =>
        cases plan' with
        | compoundElements label' =>
            exact hquoted (by decide) (last_append (by decide)) (last_append (by decide))
              (congrArg Note.message (Option.some.inj (h.trans h'.symm)))
        | _ => simp [opening] at hopening
    | plainUnion q =>
        cases plan' with
        | plainUnion q' =>
            have hlists := congrArg (String.toList ∘ Note.message)
              (Option.some.inj (h.trans h'.symm))
            simp only [Function.comp_apply, String.toList_append, List.append_assoc] at hlists
            exact eq_of_started (not_mem_of_isName hname hquote) (not_mem_of_isName hname' hquote)
              (howner.not_mem_toText hblank) (howner'.not_mem_toText hblank) hlists
        | _ => simp [opening] at hopening
    | snippet | call | copy | fill => cases h
  exact ⟨howner.toText_inj howner' hfound.2, hfound.1⟩

theorem isSome_marker_iff : (plan.marker? name).isSome ↔ (plan.note? owner name).isSome := by
  cases plan <;> simp [marker?, note?]

end FieldPlan

/-- The field and the line that marks it, if it is marked. -/
def FieldBlock.mark? (block : FieldBlock) : Option (String × String) :=
  (block.plan.marker? block.name).map fun marker => (block.name, marker)

/-- A field is marked just if there is a note on it. -/
theorem FieldBlock.mark_cases (block : FieldBlock) (owner : QualifiedName) :
    (block.mark? = none ∧ block.note? owner = none) ∨
      ∃ marker note, block.plan.marker? block.name = some marker ∧
        block.mark? = some (block.name, marker) ∧ block.note? owner = some note := by
  unfold mark? note?
  cases hmarker : block.plan.marker? block.name with
  | none =>
      left
      refine ⟨rfl, ?_⟩
      rw [← Option.not_isSome_iff_eq_none, ← FieldPlan.isSome_marker_iff, hmarker]
      exact Bool.false_ne_true
  | some marker =>
      right
      have hsome : (block.plan.note? owner block.name).isSome := by
        rw [← FieldPlan.isSome_marker_iff, hmarker]
        rfl
      obtain ⟨note, hnote⟩ := Option.isSome_iff_exists.mp hsome
      exact ⟨marker, note, rfl, rfl, hnote⟩

/-! ### Notes on functions -/

namespace ConverterFunction

variable {function other : ConverterFunction} {q r : QualifiedName} {note : Note}

/-- What there is to report about a function: that it is a stub, or the fields it does not
convert. -/
def reports (function : ConverterFunction) : List Note :=
  match function.blocks with
  | none => [stubNote function.type]
  | some blocks => blocks.filterMap (·.note? function.type)

/-- The fields that are marked in a function, and the lines that mark them. -/
def marks (function : ConverterFunction) : List (String × String) :=
  function.fieldBlocks.filterMap FieldBlock.mark?

/-- The type of the function and its fields have proper names, which are different for different
fields. -/
structure Named (function : ConverterFunction) : Prop where
  type : function.type.Regular
  fields : ∀ block ∈ function.fieldBlocks, isName block.name
  distinct : (function.fieldBlocks.map FieldBlock.name).Nodup

theorem opening_stubNote (q : QualifiedName) :
    (stubNote q).opening = (.unsupported, ['C', 'a']) := by
  simp only [Note.opening, stubNote, String.append_assoc]
  rw [take_toList_append (by decide)]
  rfl

theorem stubNote_inj (hq : q.Regular) (hr : r.Regular) (h : stubNote q = stubNote r) : q = r := by
  have hmessage := congrArg Note.message h
  simp only [stubNote, String.append_left_inj, String.append_right_inj] at hmessage
  exact hq.toText_inj hr hmessage

theorem mem_reports_cases (h : note ∈ function.reports) :
    (function.isStub ∧ note = stubNote function.type) ∨
      ∃ block ∈ function.fieldBlocks, block.note? function.type = some note := by
  unfold reports at h
  unfold isStub fieldBlocks
  cases hblocks : function.blocks with
  | none =>
      rw [hblocks] at h
      exact Or.inl ⟨rfl, List.mem_singleton.mp h⟩
  | some blocks =>
      rw [hblocks] at h
      exact Or.inr (List.mem_filterMap.mp h)

theorem mem_reports_of_block {block : FieldBlock} (hblock : block ∈ function.fieldBlocks)
    (hnote : block.note? function.type = some note) : note ∈ function.reports := by
  unfold fieldBlocks at hblock
  unfold reports
  cases hblocks : function.blocks with
  | none =>
      rw [hblocks] at hblock
      exact absurd hblock List.not_mem_nil
  | some blocks =>
      rw [hblocks] at hblock
      exact List.mem_filterMap.mpr ⟨block, hblock, hnote⟩

theorem stubNote_mem_reports (h : function.isStub) : stubNote function.type ∈ function.reports := by
  rw [reports, Option.isNone_iff_eq_none.mp h]
  exact List.mem_singleton_self _

theorem isOnConverter_of_mem_reports (h : note ∈ function.reports) : note.isOnConverter := by
  rcases mem_reports_cases h with ⟨-, rfl⟩ | ⟨block, -, hnote⟩
  · rw [Note.isOnConverter, opening_stubNote]
    rfl
  · exact FieldPlan.isOnConverter_of_note hnote

theorem note_ne_stubNote {block : FieldBlock} (h : block.note? q = some note) :
    note ≠ stubNote r := by
  rintro rfl
  have hopening := FieldPlan.opening_of_note h
  rw [opening_stubNote] at hopening
  cases hplan : block.plan <;> simp [hplan, FieldPlan.opening] at hopening

/-- A report tells which function it is about. -/
theorem type_eq_of_mem_reports (hfunction : function.Named) (hother : other.Named)
    (h : note ∈ function.reports) (h' : note ∈ other.reports) : function.type = other.type := by
  rcases mem_reports_cases h with ⟨-, rfl⟩ | ⟨block, hblock, hnote⟩
  · rcases mem_reports_cases h' with ⟨-, hsame⟩ | ⟨block', -, hnote'⟩
    · exact stubNote_inj hfunction.type hother.type hsame
    · exact absurd rfl (note_ne_stubNote hnote')
  · rcases mem_reports_cases h' with ⟨-, rfl⟩ | ⟨block', hblock', hnote'⟩
    · exact absurd rfl (note_ne_stubNote hnote)
    · exact (FieldPlan.note_inj hfunction.type hother.type (hfunction.fields block hblock)
        (hother.fields block' hblock') hnote hnote').1

theorem Named.nodup_reports (h : function.Named) : function.reports.Nodup := by
  unfold reports
  cases hblocks : function.blocks with
  | none => exact List.nodup_singleton _
  | some blocks =>
      have hfields : function.fieldBlocks = blocks := by rw [fieldBlocks, hblocks]; rfl
      have hdistinct := h.distinct
      rw [hfields, List.nodup_iff_pairwise_ne, List.pairwise_map] at hdistinct
      rw [List.nodup_iff_pairwise_ne, List.pairwise_filterMap]
      refine hdistinct.imp_of_mem ?_
      intro block block' hblock hblock' hne note hnote note' hnote' hsame
      subst hsame
      rw [← hfields] at hblock hblock'
      exact hne (FieldPlan.note_inj h.type h.type (h.fields block hblock)
        (h.fields block' hblock') hnote hnote').2

/-- Nothing is reported twice about functions of different types. -/
theorem nodup_flatMap_reports {functions : List ConverterFunction}
    (hnamed : ∀ function ∈ functions, function.Named)
    (hdistinct : (functions.map ConverterFunction.type).Nodup) :
    (functions.flatMap reports).Nodup := by
  rw [List.nodup_flatMap]
  refine ⟨fun function hfunction => (hnamed function hfunction).nodup_reports, ?_⟩
  rw [List.nodup_iff_pairwise_ne, List.pairwise_map] at hdistinct
  refine hdistinct.imp_of_mem ?_
  intro function other hfunction hother hne note hnote hnote'
  exact hne (type_eq_of_mem_reports (hnamed function hfunction) (hnamed other hother) hnote hnote')

end ConverterFunction

/-! ### Other notes -/

theorem Note.not_isOnConverter_of_kind {note : Note}
    (h : note.kind = .collision ∨ note.kind = .unhandledComments) : ¬note.isOnConverter := by
  rcases h with h | h <;> simp [Note.isOnConverter, Note.opening, h]

theorem Note.not_isOnConverter_of_opening {note : Note} (start : List Char)
    (h : note.opening = (.unsupported, start))
    (hstart : start ∉ [['A', 'n'], ['N', 'e'], ['A', 'r'], ['C', 'a'], ['F', 'i']]) :
    ¬note.isOnConverter := by
  have hkind : note.kind = .unsupported := congrArg Prod.fst h
  simp only [List.mem_cons, List.not_mem_nil, or_false, not_or] at hstart
  obtain ⟨hAn, hNe, hAr, hCa, hFi⟩ := hstart
  simp [Note.isOnConverter, hkind, h, hAn, hNe, hAr, hCa, hFi]

theorem Note.not_isOnConverter_of_ending {front text : String}
    (h : Note.opening ⟨.unsupported, front ++ text⟩ = (.unsupported, ['F', 'i']))
    (hlong : 2 ≤ text.toList.length) (hend : text.toList.reverse.take 2 ≠ ['.', 'd']) :
    ¬Note.isOnConverter ⟨.unsupported, front ++ text⟩ := by
  rw [Note.isOnConverter, h]
  dsimp only
  rw [take_reverse_append hlong]
  simp [hend]

theorem Note.opening_append (kind : NoteKind) {text : String} (rest : String)
    (hlong : 2 ≤ text.toList.length) :
    Note.opening ⟨kind, text ++ rest⟩ = (kind, text.toList.take 2) := by
  rw [Note.opening, take_toList_append hlong]

theorem Catalog.not_isOnConverter_backNote (path : String) (owner target : QualifiedName) :
    ¬(backNote path owner target).isOnConverter := by
  refine Note.not_isOnConverter_of_opening ['V', 'e'] ?_ (by decide)
  simp only [backNote, String.append_assoc]
  exact Note.opening_append _ _ (by decide)

theorem Aidl.not_isOnConverter_shapeNote {owner : QualifiedName} {field : Field} {shape : Shape}
    {note : Note} (h : Aidl.shapeNote? owner field shape = some note) : ¬note.isOnConverter := by
  unfold Aidl.shapeNote? at h
  split at h
  · cases h
  · obtain rfl := Option.some.inj h
    refine Note.not_isOnConverter_of_ending ?_ (by decide) (by decide)
    simp only [String.append_assoc]
    exact Note.opening_append _ _ (by decide)
  · cases h

end HalBridge
