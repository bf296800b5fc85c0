import HalBridge.Proofs.ConverterNotes
import HalBridge.Proofs.NoteSink

/-!
# The notes of the phases of a run

Merging, the AIDL definitions and the comments that stand alone leave no notes on converter
functions. What is done about a field does not depend on the target, so the functions of all targets
have the same notes, and only those of the first target are new to the sink. There are as many of
them as there are marked fields and stubs.
-/

namespace HalBridge

/-! ### Notes of the other phases -/

namespace Catalog

variable {catalog : Catalog} {notes after : Notes}

theorem not_isOnConverter_of_recordField {field : Field} {name : String} {fields : List Field}
    {note : Note} (h : note ∈ (catalog.recordField field name fields).2) :
    ¬note.isOnConverter := by
  apply Note.not_isOnConverter_of_kind
  left
  rcases catalog.recordField_cases field name fields with
    ⟨-, heq⟩ | ⟨front, existing, back, -, -, ⟨-, heq⟩ | ⟨-, heq⟩⟩
  · rw [heq] at h
    exact absurd h List.not_mem_nil
  · rw [heq] at h
    rw [List.mem_singleton.mp h]
    rfl
  · rw [heq] at h
    rw [List.mem_singleton.mp h]
    rfl

theorem recordSteps_offers {steps : List Merge.Step} {fields merged : List Field}
    (h : catalog.recordSteps steps fields notes = .ok (merged, after)) :
    ∃ more, after = notes.extend more ∧ ∀ note ∈ more, ¬note.isOnConverter := by
  induction steps generalizing fields notes with
  | nil =>
      obtain ⟨-, rfl⟩ := Prod.mk.inj (Except.ok.inj h)
      exact ⟨[], rfl, fun _ hnote => absurd hnote List.not_mem_nil⟩
  | cons step rest ih =>
      cases step with
      | back path owner target =>
          obtain ⟨more, rfl, hmore⟩ := ih h
          refine ⟨backNote path owner target :: more, rfl, ?_⟩
          exact List.forall_mem_cons.mpr ⟨not_isOnConverter_backNote path owner target, hmore⟩
      | field field =>
          cases hname : field.name with
          | none =>
              simp only [recordSteps, hname] at h
              cases h
          | some name =>
              simp only [recordSteps, hname] at h
              obtain ⟨more, rfl, hmore⟩ := ih h
              refine ⟨_, (Notes.extend_append _ _ _).symm, ?_⟩
              rw [List.forall_mem_append]
              exact ⟨fun _ hnote => not_isOnConverter_of_recordField hnote, hmore⟩

theorem mergeNoting_offers (catalog : Catalog) (q : QualifiedName) :
    Offers (catalog.mergeNoting q) (¬·.isOnConverter) := by
  intro notes schema after h
  unfold mergeNoting at h
  rw [Outcome.get_bind] at h
  cases hmerge : catalog.merge q notes with
  | error fault =>
      rw [hmerge] at h
      exact absurd h Outcome.throw_ne_ok
  | ok made =>
      rw [hmerge] at h
      obtain ⟨-, rfl⟩ := EStateM.Result.ok.inj h
      unfold merge at hmerge
      split at hmerge
      · cases hmerge
      · obtain ⟨recorded, hrecorded, hmade⟩ := Outcome.except_bind_ok_iff.mp hmerge
        obtain rfl := Except.ok.inj hmade
        exact recordSteps_offers hrecorded

theorem mergeAll_offers (catalog : Catalog) (types : List QualifiedName) :
    Offers (catalog.mergeAll types) (¬·.isOnConverter) := by
  induction types with
  | nil => exact offers_pure _
  | cons q rest ih =>
      unfold mergeAll
      split
      · exact (mergeNoting_offers catalog q).bind fun _ => ih.bind fun _ => offers_pure _
      · exact ih

end Catalog

namespace Aidl

variable {catalog : Catalog} {registry : Registry}

theorem members_offers (owner : QualifiedName) (fields : List Field) :
    Offers (members catalog registry owner fields) (¬·.isOnConverter) := by
  induction fields with
  | nil => exact offers_pure _
  | cons field rest ih =>
      unfold members
      split
      · exact offers_throw _
      · refine Offers.bind (offers_extend ?_) fun _ => ih.bind fun _ => offers_pure _
        intro note hnote
        exact not_isOnConverter_shapeNote (Option.mem_toList.mp hnote)

theorem not_isOnConverter_of_start {front rest : String} (start : List Char)
    (hlong : 2 ≤ front.toList.length) (hfront : front.toList.take 2 = start)
    (hstart : start ∉ [['A', 'n'], ['N', 'e'], ['A', 'r'], ['C', 'a'], ['F', 'i']]) :
    ¬Note.isOnConverter ⟨.unsupported, front ++ rest⟩ := by
  refine Note.not_isOnConverter_of_opening start ?_ hstart
  rw [Note.opening_append _ _ hlong, hfront]

theorem compoundDefinition_offers (ref : Ref) (schema : MergedSchema) (outline : Definition) :
    Offers (compoundDefinition catalog registry ref schema outline) (¬·.isOnConverter) := by
  unfold compoundDefinition
  split
  · refine Offers.bind (offers_leaveNote ?_) fun _ => offers_pure _
    rw [String.append_assoc]
    exact not_isOnConverter_of_start ['U', 'n'] (by decide) (by decide) (by decide)
  · exact (members_offers _ _).bind fun _ => offers_pure _
  · exact (members_offers _ _).bind fun _ => offers_pure _

theorem definition_offers (ref : Ref) (schema : Option MergedSchema) :
    Offers (definition catalog registry ref schema) (¬·.isOnConverter) := by
  unfold definition
  dsimp only
  split
  · split
    · exact offers_throw _
    · exact offers_pure _
  · split
    · exact offers_throw _
    · exact compoundDefinition_offers _ _ _
  · refine Offers.bind (offers_leaveNote ?_) fun _ => offers_pure _
    simp only [String.append_assoc]
    exact not_isOnConverter_of_start ['T', 'y'] (by decide) (by decide) (by decide)
  · refine Offers.bind (offers_leaveNote ?_) fun _ => offers_pure _
    exact not_isOnConverter_of_start ['N', 'o'] (by decide) (by decide) (by decide)

end Aidl

theorem Catalog.aidlFiles_offers (catalog : Catalog) (registry : Registry)
    (schemas : List (QualifiedName × MergedSchema)) (types : List QualifiedName) :
    Offers (catalog.aidlFiles registry schemas types) (¬·.isOnConverter) := by
  induction types with
  | nil => exact offers_pure _
  | cons q rest ih =>
      exact (Aidl.definition_offers _ _).bind fun _ => ih.bind fun _ => offers_pure _

theorem Conversion.commentNotes_offers {releases : List QualifiedName} {notes found : Notes}
    {s t : Resolver} (h : commentNotes releases notes s = .ok found t) :
    ∃ more, found = notes.extend more ∧ ∀ note ∈ more, ¬note.isOnConverter := by
  induction releases generalizing notes s with
  | nil =>
      obtain ⟨rfl, -⟩ := Outcome.pure_ok_iff.mp h
      exact ⟨[], rfl, fun _ hnote => absurd hnote List.not_mem_nil⟩
  | cons release rest ih =>
      obtain ⟨document, read, -, h⟩ := Outcome.bind_ok_iff.mp h
      cases hcomments : document.unhandledComments with
      | none =>
          rw [hcomments] at h
          exact absurd h Outcome.throw_ne_ok
      | some comments =>
          rw [hcomments] at h
          obtain ⟨more, rfl, hmore⟩ := ih h
          refine ⟨_, (Notes.extend_append _ _ _).symm, ?_⟩
          rw [List.forall_mem_append]
          refine ⟨?_, hmore⟩
          intro note hnote
          obtain ⟨comment, -, rfl⟩ := List.mem_map.mp hnote
          exact Note.not_isOnConverter_of_kind (Or.inr rfl)

/-! ### Notes of the targets -/

namespace ConverterFunction

variable {function : ConverterFunction}

/-- The same function for another target. -/
def retarget (target : Target) (function : ConverterFunction) : ConverterFunction :=
  { function with target }

theorem Named.notes_eq_reports (h : function.Named) : function.notes = function.reports := by
  have hreports := h.nodup_reports
  unfold notes reports at *
  cases hblocks : function.blocks with
  | none => rfl
  | some blocks =>
      simp only [hblocks] at hreports
      exact (Notes.firstOccurrences_of_empty _).eq_of_nodup hreports

end ConverterFunction

namespace Catalog

variable {catalog : Catalog} {registry : Registry} {target : Target} {q : QualifiedName}
  {types : List Ref} {schemas : List (QualifiedName × MergedSchema)} {notes after : Notes}
  {functions : List ConverterFunction}

theorem converterFunction_retarget {converted : QualifiedName → Bool} {schema : MergedSchema}
    {function : ConverterFunction} (other : Target)
    (h : catalog.converterFunction target converted registry schema = .ok function) :
    catalog.converterFunction other converted registry schema = .ok (function.retarget other) := by
  unfold converterFunction at h ⊢
  cases hstyle : schema.style with
  | union =>
      rw [hstyle] at h
      obtain rfl := Except.ok.inj h
      rfl
  | struct | safeUnion =>
      rw [hstyle] at h
      obtain ⟨blocks, hblocks, rfl⟩ := Outcome.except_map_ok_iff.mp h
      exact Outcome.except_map_ok_iff.mpr ⟨blocks, hblocks, rfl⟩

/-- The functions for another target differ in the target only. -/
theorem functionsFor_retarget (other : Target)
    (h : catalog.functionsFor target types schemas registry = .ok functions) :
    catalog.functionsFor other types schemas registry =
      .ok (functions.map (ConverterFunction.retarget other)) := by
  unfold functionsFor at h ⊢
  generalize (byPackage types).filterMap (fun ref => schemas.lookup ref.name) = merged at h ⊢
  induction merged generalizing functions with
  | nil =>
      obtain rfl := Except.ok.inj h
      rfl
  | cons schema rest ih =>
      rw [List.mapM_cons] at h ⊢
      obtain ⟨function, hfunction, h⟩ := Outcome.except_bind_ok_iff.mp h
      obtain ⟨others, hothers, h⟩ := Outcome.except_bind_ok_iff.mp h
      obtain rfl := Except.ok.inj h
      rw [converterFunction_retarget other hfunction, ih hothers]
      rfl

theorem emitFunctions_notes {converted : QualifiedName → Bool}
    (h : catalog.emitFunctions target converted schemas registry types notes =
      .ok functions after) :
    after = notes.extend (functions.flatMap ConverterFunction.notes) := by
  induction types generalizing notes functions with
  | nil =>
      obtain ⟨rfl, rfl⟩ := Outcome.pure_ok_iff.mp h
      rfl
  | cons first rest ih =>
      unfold emitFunctions at h
      cases hschema : schemas.lookup first.name with
      | none =>
          rw [hschema] at h
          exact ih h
      | some schema =>
          rw [hschema] at h
          obtain ⟨function, middle, hfunction, h⟩ := Outcome.bind_ok_iff.mp h
          obtain ⟨others, last, hothers, h⟩ := Outcome.bind_ok_iff.mp h
          obtain ⟨rfl, rfl⟩ := Outcome.pure_ok_iff.mp h
          have hmiddle : middle = notes.extend function.notes := by
            unfold emitFunction at hfunction
            rw [emitFunction_ok hfunction] at hfunction
            exact (EStateM.Result.ok.inj hfunction).2.symm
          rw [List.flatMap_cons, Notes.extend_append, ← hmiddle]
          exact ih hothers

/-- Each target offers the notes of its functions, and these are the same for all targets. -/
theorem targetFiles_notes {targets : List Target} {files : List (String × String)}
    (hfunctions : catalog.functionsFor target types schemas registry = .ok functions)
    (h : catalog.targetFiles q types schemas registry targets notes = .ok files after) :
    after = notes.extend
      (targets.flatMap fun _ => functions.flatMap ConverterFunction.notes) := by
  induction targets generalizing notes files with
  | nil => exact (Outcome.pure_ok_iff.mp h).2.symm
  | cons first rest ih =>
      obtain ⟨made, middle, hmade, h⟩ := Outcome.bind_ok_iff.mp h
      obtain ⟨others, last, hothers, h⟩ := Outcome.bind_ok_iff.mp h
      obtain ⟨-, rfl⟩ := Outcome.pure_ok_iff.mp h
      have hmiddle : middle = notes.extend (functions.flatMap ConverterFunction.notes) := by
        unfold converterFiles at hmade
        obtain ⟨emitted, left, hemitted, hmade⟩ := Outcome.bind_ok_iff.mp hmade
        have hleft : left = middle := by
          cases hheader : first.headerFile? q with
          | none =>
              rw [hheader] at hmade
              exact (Outcome.pure_ok_iff.mp hmade).2
          | some header =>
              rw [hheader] at hmade
              exact (Outcome.pure_ok_iff.mp hmade).2
        have hsame : emitted = functions.map (ConverterFunction.retarget first) :=
          Except.ok.inj ((emitFunctions_ok hemitted).symm.trans
            (functionsFor_retarget first hfunctions))
        rw [← hleft, emitFunctions_notes hemitted, hsame, List.flatMap_map]
        rfl
      rw [List.flatMap_cons, Notes.extend_append, ← hmiddle]
      exact ih hothers

/-- The notes of all targets together are those of one. -/
theorem targetFiles_notes_all {files : List (String × String)}
    (hfunctions : catalog.functionsFor target types schemas registry = .ok functions)
    (h : catalog.targetFiles q types schemas registry Target.all notes = .ok files after) :
    after = notes.extend (functions.flatMap ConverterFunction.notes) := by
  rw [targetFiles_notes hfunctions h]
  simp only [Target.all, List.flatMap_cons, List.flatMap_nil, List.append_nil,
    Notes.extend_append, Notes.extend_extend_self]

end Catalog

/-! ### Marks and notes -/

/-- The line marks a field whose type is not known. -/
def marksUnknownType (line : String) : Bool :=
  "#error FIXME Unknown type: ".toList.isPrefixOf line.toList

theorem FieldPlan.unknownType_iff {plan : FieldPlan} {owner : QualifiedName} {name marker : String}
    {note : Note} (hmarker : plan.marker? name = some marker)
    (hnote : plan.note? owner name = some note) :
    note.kind = .unknownType ↔ marksUnknownType marker := by
  cases plan with
  | unhandled | plainUnion | unknownType | nestedContainer | compoundElements =>
      obtain rfl := Option.some.inj hmarker
      obtain rfl := Option.some.inj hnote
      simp [marksUnknownType, String.toList_append]
  | snippet | call | copy | fill => cases hnote

namespace FieldBlock

variable {owner : QualifiedName}

theorem length_notes (blocks : List FieldBlock) :
    (blocks.filterMap (·.note? owner)).length = (blocks.filterMap mark?).length := by
  induction blocks with
  | nil => rfl
  | cons block rest ih =>
      rcases block.mark_cases owner with ⟨hmark, hnote⟩ | ⟨marker, note, -, hmark, hnote⟩
      · simpa only [List.filterMap_cons, hmark, hnote] using ih
      · simpa only [List.filterMap_cons, hmark, hnote, List.length_cons, Nat.add_right_cancel_iff]
          using ih

theorem length_unknown (blocks : List FieldBlock) :
    ((blocks.filterMap (·.note? owner)).filter (·.kind = .unknownType)).length =
      (blocks.filterMap mark?).countP (fun mark => marksUnknownType mark.2) := by
  induction blocks with
  | nil => rfl
  | cons block rest ih =>
      rcases block.mark_cases owner with ⟨hmark, hnote⟩ | ⟨marker, note, hmarker, hmark, hnote⟩
      · simpa only [List.filterMap_cons, hmark, hnote] using ih
      · have hkind := FieldPlan.unknownType_iff hmarker hnote
        simp only [List.filterMap_cons, hmark, hnote, List.filter_cons, List.countP_cons]
        by_cases hunknown : note.kind = .unknownType
        · simp [hunknown, hkind.mp hunknown, ih]
        · simp [hunknown, Bool.eq_false_iff.mpr (mt hkind.mpr hunknown), ih]

end FieldBlock

namespace ConverterFunction

/-- There is a note for each marked field, and one for a stub. -/
theorem length_reports (function : ConverterFunction) :
    function.reports.length = function.marks.length + function.isStub.toNat := by
  unfold reports marks fieldBlocks isStub
  cases function.blocks with
  | none => rfl
  | some blocks => exact FieldBlock.length_notes blocks

theorem length_unknown (function : ConverterFunction) :
    (function.reports.filter (·.kind = .unknownType)).length =
      function.marks.countP (fun mark => marksUnknownType mark.2) := by
  unfold reports marks fieldBlocks
  cases function.blocks with
  | none => rfl
  | some blocks => exact FieldBlock.length_unknown blocks

theorem length_flatMap_reports (functions : List ConverterFunction) :
    (functions.flatMap reports).length =
      (functions.flatMap marks).length + functions.countP isStub := by
  induction functions with
  | nil => rfl
  | cons function rest ih =>
      rw [List.flatMap_cons, List.flatMap_cons, List.length_append, List.length_append, ih,
        length_reports, List.countP_cons]
      cases function.isStub <;> simp <;> omega

theorem length_flatMap_unknown (functions : List ConverterFunction) :
    ((functions.flatMap reports).filter (·.kind = .unknownType)).length =
      (functions.flatMap marks).countP (fun mark => marksUnknownType mark.2) := by
  induction functions with
  | nil => rfl
  | cons function rest ih =>
      rw [List.flatMap_cons, List.flatMap_cons, List.filter_append, List.length_append, ih,
        length_unknown, List.countP_append]

end ConverterFunction

end HalBridge
