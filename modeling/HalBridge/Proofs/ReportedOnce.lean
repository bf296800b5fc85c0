import HalBridge.Proofs.MarkedSources
import HalBridge.Proofs.PhaseNotes
import HalBridge.Proofs.SampleDocuments

/-!
# Every problem is reported once

The notes of the converter functions come last in the sink of a run. They are all new to it, since
no other phase leaves such notes, and all different, since each of them names the field or the
union that it is about. So there is one note for each field that is marked in the source of a
target and one for each stub, whatever the number of targets, and the log has a line for each note.
The marks are counted in the text of the source, as its lines that begin with `#error`.
-/

namespace HalBridge

open QualifiedName.Token

/-! ### The log -/

/-- `line` is the text without the line breaks at its end. -/
def StripsTo (text line : String) : Prop :=
  (∃ breaks, text = line ++ String.ofList (List.replicate breaks '\n')) ∧
    line.toList.getLast? ≠ some '\n'

theorem stripsTo_dropEndWhile (text : String) :
    StripsTo text (Text.dropEndWhile (· = '\n') text) := by
  -- Reversed, the text is the breaks and then what does not begin with one.
  generalize hbreaks : text.toList.reverse.takeWhile (· = '\n') = breaks
  generalize hrest : text.toList.reverse.dropWhile (· = '\n') = rest
  have hline : Text.dropEndWhile (· = '\n') text = String.ofList rest.reverse := by
    rw [← hrest]
    rfl
  have hall : breaks = List.replicate breaks.length '\n' := by
    rw [List.eq_replicate_iff]
    refine ⟨rfl, fun c hc => ?_⟩
    rw [← hbreaks] at hc
    simpa using List.mem_takeWhile_imp hc
  rw [hline]
  refine ⟨⟨breaks.length, ?_⟩, ?_⟩
  · have hsplit : breaks ++ rest = text.toList.reverse := by
      rw [← hbreaks, ← hrest]
      exact List.takeWhile_append_dropWhile
    apply String.toList_inj.mp
    rw [String.toList_append, String.toList_ofList, String.toList_ofList,
      ← List.reverse_replicate, ← hall, ← List.reverse_append, hsplit, List.reverse_reverse]
  · rw [String.toList_ofList, List.getLast?_reverse, ← hrest]
    intro hhead
    have hfirst := List.head?_dropWhile_not (· = '\n') text.toList.reverse
    rw [hhead] at hfirst
    simp at hfirst

namespace Notes

/-- The log is the title, a line for each of these notes in their order, and a closing line. -/
def Logs (text title : String) (entries : List Note) : Prop :=
  ∃ lines, List.Forall₂ (fun note line => StripsTo note.message line) entries lines ∧
    text = title ++ "\n" ++ String.join (lines.map (· ++ "\n")) ++ "END OF LOG\n"

theorem logs_log (notes : Notes) (title : String) :
    Logs (notes.log title) title notes.entries := by
  refine ⟨notes.entries.map fun note => Text.dropEndWhile (· = '\n') note.message, ?_, ?_⟩
  · rw [List.forall₂_map_right_iff, List.forall₂_same]
    exact fun note _ => stripsTo_dropEndWhile note.message
  · unfold log
    rw [Text.joinLines_newline (by simp)]
    simp [String.append_assoc]

end Notes

/-! ### The functions of a run -/

namespace ConverterFunction

/-- The same is reported about both functions, and the same fields are marked alike. -/
structure Alike (function other : ConverterFunction) : Prop where
  type : function.type = other.type
  notes : function.notes = other.notes
  marks : function.marks = other.marks
  stub : function.isStub = other.isStub

end ConverterFunction

namespace Conversion

variable {repository : Repository} {request : String} {force : Bool} {registry : Registry}
  {conversion : Conversion} {t : Resolver} {target : Target}
  {functions : List ConverterFunction}

theorem Completed.named (h : Completed registry conversion t)
    (hregular : conversion.name.Regular)
    (hpackages : ∀ q ∈ conversion.types, q.package = conversion.name.package)
    (hidentified : conversion.Identified)
    (hfunctions : conversion.functions registry target = .ok functions) :
    ∀ function ∈ functions, function.Named := by
  intro function hfunction
  obtain ⟨schema, hschema, hmade⟩ := h.schema_of_mem hfunctions hfunction
  have htypes := h.mem_types hschema
  have htype := hidentified.regular hregular hpackages _ htypes
  rcases (Catalog.converterFunction_ok hmade).2 with ⟨-, hstub⟩ | ⟨-, blocks, hblocks, hfields⟩
  · have hnone : function.fieldBlocks = [] := by
      rw [ConverterFunction.fieldBlocks, hstub]
      rfl
    refine ⟨htype, ?_, ?_⟩
    · rw [hnone]
      exact fun _ hblock => absurd hblock List.not_mem_nil
    · rw [hnone]
      exact List.nodup_nil
  · have hsome : function.fieldBlocks.map FieldBlock.field = schema.fields := by
      rw [ConverterFunction.fieldBlocks, hblocks]
      exact Catalog.map_field_of_mapM hfields
    have hnames := hidentified.fields _ (mem_schemas_of_lookup hschema)
    refine ⟨htype, ?_, ?_⟩
    · intro block hblock
      have hfield : block.field ∈ schema.fields := by
        rw [← hsome]
        exact List.mem_map_of_mem hblock
      obtain ⟨name, hname, hisName⟩ := hnames block.field hfield
      rwa [FieldBlock.name, hname]
    · have htags := Catalog.map_some_tags function hsome fun field hfield => by
        obtain ⟨name, hname, -⟩ := hnames field hfield
        rw [hname]
        exact Option.some_ne_none name
      have hnodup := (h.merged hschema).ordered.nodup
      rw [← htags] at hnodup
      exact hnodup.of_map some

/-- Comments, merging and the definitions fill the sink first, each note once, and none of their
notes is on a converter function. -/
theorem run_earlier_notes (hfaithful : repository.Faithful)
    (h : run request force registry { repository } = .ok conversion t) :
    ∃ earlier sources, earlier.entries.Nodup ∧
      (∀ note ∈ earlier.entries, ¬note.isOnConverter) ∧
      conversion.catalog.targetFiles conversion.name conversion.convertible conversion.schemas
        registry Target.all earlier = .ok sources conversion.notes := by
  obtain ⟨hcompleted, -⟩ := run_completed hfaithful h
  obtain ⟨-, comments, read, hcomments, -, made, hgenerate⟩ := run_phases h
  obtain ⟨definitions, sources, merging, defining, hmerged, hdefined, hsources, -⟩ :=
    Catalog.generate_ok hgenerate
  rw [← hcompleted.catalog] at hmerged hdefined hsources
  obtain ⟨first, rfl, hfirst⟩ := commentNotes_offers hcomments
  obtain ⟨second, rfl, hsecond⟩ := Catalog.mergeAll_offers _ _ _ _ _ hmerged
  obtain ⟨third, rfl, hthird⟩ := Catalog.aidlFiles_offers _ _ _ _ _ _ _ hdefined
  have hearlier := Notes.firstOccurrences_of_empty (first ++ second ++ third)
  rw [Notes.extend_append, Notes.extend_append] at hearlier
  refine ⟨_, sources, hearlier.nodup, ?_, hsources⟩
  intro note hnote
  have hoffered := (hearlier.mem_iff note).mp hnote
  simp only [List.mem_append] at hoffered
  rcases hoffered with (hoffered | hoffered) | hoffered
  · exact hfirst note hoffered
  · exact hsecond note hoffered
  · exact hthird note hoffered

theorem run_name_regular (h : run request force registry { repository } = .ok conversion t) :
    conversion.name.Regular :=
  QualifiedName.regular_of_parse
    (QualifiedName.read_eq_ok_iff.mp (read_of_checkRequest (run_phases h).1))

/-- The notes on the functions of a target are in the sink of the run, after all others, none of
which is on a converter function. No note is there twice. -/
theorem run_notes (hfaithful : repository.Faithful)
    (h : run request force registry { repository } = .ok conversion t)
    (hidentified : conversion.Identified)
    (hfunctions : conversion.functions registry target = .ok functions) :
    conversion.notes.entries.Nodup ∧
      (∀ function ∈ functions, function.notes = function.reports) ∧
      ∃ before, conversion.notes.entries =
          before ++ functions.flatMap ConverterFunction.reports ∧
        ∀ note ∈ before, ¬note.isOnConverter := by
  obtain ⟨hcompleted, -⟩ := run_completed hfaithful h
  have hnamed :=
    hcompleted.named (run_name_regular h) (run_types hfaithful h).2 hidentified hfunctions
  have hreports : ∀ function ∈ functions, function.notes = function.reports :=
    fun function hfunction => (hnamed function hfunction).notes_eq_reports
  obtain ⟨earlier, sources, hnodup, hother, hsources⟩ := run_earlier_notes hfaithful h
  have hnotes := Catalog.targetFiles_notes_all hfunctions hsources
  rw [List.flatMap_congr hreports] at hnotes
  have hnew : ∀ note ∈ functions.flatMap ConverterFunction.reports, note ∉ earlier.entries := by
    intro note hnote hmem
    obtain ⟨function, -, hreport⟩ := List.mem_flatMap.mp hnote
    exact hother note hmem (ConverterFunction.isOnConverter_of_mem_reports hreport)
  have hdistinct : (functions.flatMap ConverterFunction.reports).Nodup :=
    ConverterFunction.nodup_flatMap_reports hnamed (hcompleted.nodup_functions hfunctions)
  have hentries : conversion.notes.entries =
      earlier.entries ++ functions.flatMap ConverterFunction.reports := by
    rw [hnotes, Notes.entries_extend_of_fresh hdistinct hnew]
  refine ⟨?_, hreports, earlier.entries, hentries, hother⟩
  rw [hentries]
  refine hnodup.append hdistinct ?_
  intro note hmem hreport
  exact hnew note hreport hmem

/-- The functions of a target are reported on once each: there is one note for each field that is
marked in them, and one for each stub, and there are no other notes on converter functions. -/
structure ReportsOnce (conversion : Conversion) (functions : List ConverterFunction) : Prop where
  fields : ∀ function ∈ functions, ∀ block ∈ function.fieldBlocks, ∀ marker,
    block.plan.marker? block.name = some marker →
      block.lines function.target function.access function.type = [marker] ∧
        ∃ note, block.note? function.type = some note ∧ conversion.notes.entries.count note = 1
  stubs : ∀ function ∈ functions, function.isStub →
    conversion.notes.entries.count (ConverterFunction.stubNote function.type) = 1
  others : ∃ before, conversion.notes.entries =
      before ++ functions.flatMap ConverterFunction.notes ∧ ∀ note ∈ before, ¬note.isOnConverter
  number : (functions.flatMap ConverterFunction.notes).length =
    (functions.flatMap ConverterFunction.marks).length +
      functions.countP ConverterFunction.isStub
  unknown : (conversion.notes.ofKind .unknownType).length =
    (functions.flatMap ConverterFunction.marks).countP fun mark => marksUnknownType mark.2

theorem run_reportsOnce (hfaithful : repository.Faithful)
    (h : run request force registry { repository } = .ok conversion t)
    (hidentified : conversion.Identified)
    (hfunctions : conversion.functions registry target = .ok functions) :
    conversion.ReportsOnce functions := by
  obtain ⟨hdistinct, hreports, before, hentries, hother⟩ :=
    run_notes hfaithful h hidentified hfunctions
  have hnotes := List.flatMap_congr hreports
  have honce : ∀ function ∈ functions, ∀ note ∈ function.reports,
      conversion.notes.entries.count note = 1 := by
    intro function hfunction note hnote
    refine List.count_eq_one_of_mem hdistinct ?_
    rw [hentries]
    exact List.mem_append_right _ (List.mem_flatMap.mpr ⟨function, hfunction, hnote⟩)
  refine ⟨?_, ?_, ?_, ?_, ?_⟩
  · intro function hfunction block hblock marker hmarker
    refine ⟨FieldPlan.lines_of_marker _ _ _ _ hmarker, ?_⟩
    rcases block.mark_cases function.type with ⟨hmark, -⟩ | ⟨-, note, -, -, hnote⟩
    · rw [FieldBlock.mark?, hmarker] at hmark
      cases hmark
    · exact ⟨note, hnote, honce function hfunction note
        (ConverterFunction.mem_reports_of_block hblock hnote)⟩
  · intro function hfunction hstub
    exact honce function hfunction _ (ConverterFunction.stubNote_mem_reports hstub)
  · exact ⟨before, by rw [hentries, hnotes], hother⟩
  · rw [hnotes]
    exact ConverterFunction.length_flatMap_reports functions
  · have hnone : before.filter (·.kind = .unknownType) = [] := by
      rw [List.filter_eq_nil_iff]
      intro note hnote hkind
      refine hother note hnote ?_
      simp [Note.isOnConverter, of_decide_eq_true hkind]
    rw [Notes.ofKind, hentries, List.filter_append, hnone, List.nil_append]
    exact ConverterFunction.length_flatMap_unknown functions

theorem Completed.types_perm (h : Completed registry conversion t)
    (hfunctions : conversion.functions registry target = .ok functions) :
    (functions.map ConverterFunction.type).Perm
      (conversion.types.filter fun q => (conversion.catalog.compound? q).isSome) := by
  rw [List.perm_ext_iff_of_nodup (h.nodup_functions hfunctions) (h.distinct.filter _)]
  intro q
  rw [List.mem_map, List.mem_filter]
  constructor
  · rintro ⟨function, hfunction, rfl⟩
    obtain ⟨schema, hschema, -⟩ := h.schema_of_mem hfunctions hfunction
    obtain ⟨fields, hcompound⟩ := (h.merged hschema).compound
    exact ⟨h.mem_types hschema, by rw [hcompound]; rfl⟩
  · rintro ⟨hq, hcompound⟩
    exact h.exists_function hfunctions hq hcompound

/-- The marks that are reported stand in the source: its lines that begin with `#error` are those of
the blocks of its functions, in their order. If snippets bring none, they are the marks of the
fields, and there is a note on a converter function for each of them and for each stub. -/
structure MarkedIn (source : String) (conversion : Conversion) (registry : Registry)
    (functions : List ConverterFunction) : Prop where
  lines : errorLines source =
    functions.flatMap fun function => function.fieldBlocks.flatMap FieldBlock.errorLines
  marks : registry.Quiet →
    errorLines source = (functions.flatMap ConverterFunction.marks).map Prod.snd
  number : registry.Quiet → conversion.notes.entries.countP Note.isOnConverter =
    (errorLines source).length + functions.countP ConverterFunction.isStub
  unknown : registry.Quiet →
    (conversion.notes.ofKind .unknownType).length = (errorLines source).countP marksUnknownType

theorem ReportsOnce.countP_isOnConverter (h : conversion.ReportsOnce functions)
    (hreports : ∀ function ∈ functions, function.notes = function.reports) :
    conversion.notes.entries.countP Note.isOnConverter =
      (functions.flatMap ConverterFunction.marks).length +
        functions.countP ConverterFunction.isStub := by
  obtain ⟨before, hentries, hother⟩ := h.others
  have hnone : before.countP Note.isOnConverter = 0 := List.countP_eq_zero.mpr hother
  have hall : (functions.flatMap ConverterFunction.notes).countP Note.isOnConverter =
      (functions.flatMap ConverterFunction.notes).length := by
    rw [List.countP_eq_length]
    intro note hnote
    obtain ⟨function, hfunction, hnote⟩ := List.mem_flatMap.mp hnote
    rw [hreports function hfunction] at hnote
    exact ConverterFunction.isOnConverter_of_mem_reports hnote
  rw [hentries, List.countP_append, hnone, hall, h.number, Nat.zero_add]

theorem run_markedIn (hfaithful : repository.Faithful)
    (h : run request force registry { repository } = .ok conversion t)
    (hnamed : conversion.ProperlyNamed) (hvalues : target = .java ∨ conversion.ValuesNamed)
    (hfunctions : conversion.functions registry target = .ok functions) {source : String}
    (hsource : conversion.files.text? (target.sourceFile conversion.name) = some source) :
    MarkedIn source conversion registry functions := by
  obtain ⟨hcompleted, -⟩ := run_completed hfaithful h
  have hname := run_name_regular h
  have hregular := hnamed.toIdentified.regular hname (run_types hfaithful h).2
  have hlines := hcompleted.errorLines_source hname hregular hnamed hvalues hfunctions hsource
  have honce := run_reportsOnce hfaithful h hnamed.toIdentified hfunctions
  have hreports := (run_notes hfaithful h hnamed.toIdentified hfunctions).2.1
  have hmarks : registry.Quiet →
      errorLines source = (functions.flatMap ConverterFunction.marks).map Prod.snd := by
    intro hquiet
    rw [hlines, List.map_flatMap]
    refine List.flatMap_congr fun function hfunction => ?_
    exact ConverterFunction.errorLines_eq_marks
      (hcompleted.quiet_snippets hquiet hfunctions hfunction)
  refine ⟨hlines, hmarks, fun hquiet => ?_, fun hquiet => ?_⟩
  · rw [hmarks hquiet, List.length_map]
    exact honce.countP_isOnConverter hreports
  · rw [hmarks hquiet, List.countP_map]
    exact honce.unknown

/-- **Reported once.** Each compound of a run has one function for each target. The functions of
all targets have the same notes, marks and stubs, and the sink of the run has one note for each
marked field and for each stub, and no other notes on functions. The source of a target has the
texts of these functions, and if the names in it are proper, the marks are its lines that begin with
`#error`. The log has a line for each note, in the order of the sink. -/
theorem problems_reported_once (repository : Repository) (hread : repository.Faithful)
    (request : String) (force : Bool) (registry : Registry) (conversion : Conversion)
    (t : Resolver) (h : run request force registry { repository } = .ok conversion t)
    (hidentified : conversion.Identified) :
    (∃ functions : Target → List ConverterFunction, ∀ target,
      conversion.functions registry target = .ok (functions target) ∧
      ((functions target).map ConverterFunction.type).Perm
        (conversion.types.filter fun q => (conversion.catalog.compound? q).isSome) ∧
      (∃ source, conversion.files.text? (target.sourceFile conversion.name) = some source ∧
        Converter.Defines target source (functions target) ∧
        (conversion.ProperlyNamed → target = .java ∨ conversion.ValuesNamed →
          MarkedIn source conversion registry (functions target))) ∧
      (∀ other, List.Forall₂ ConverterFunction.Alike (functions target) (functions other)) ∧
      conversion.ReportsOnce (functions target)) ∧
    ∃ log, conversion.files.text? logFile = some log ∧
      Notes.Logs log (logTitle conversion.name) conversion.notes.entries := by
  obtain ⟨hcompleted, -⟩ := run_completed hread h
  obtain ⟨functions, hfunctions, -⟩ := hcompleted.converterTexts .ndk
  refine ⟨⟨fun target => functions.map (ConverterFunction.retarget target), ?_⟩, ?_⟩
  · intro target
    have htarget : conversion.functions registry target =
        .ok (functions.map (ConverterFunction.retarget target)) :=
      Catalog.functionsFor_retarget target hfunctions
    obtain ⟨source, hsource, hdefines⟩ := hcompleted.source htarget
    refine ⟨htarget, hcompleted.types_perm htarget, ⟨source, hsource, hdefines, ?_⟩, ?_,
      run_reportsOnce hread h hidentified htarget⟩
    · exact fun hnamed hvalues => run_markedIn hread h hnamed hvalues htarget hsource
    · intro other
      rw [List.forall₂_map_left_iff, List.forall₂_map_right_iff, List.forall₂_same]
      exact fun function _ => ⟨rfl, rfl, rfl, rfl⟩
  · obtain ⟨notes, made, -, hfiles⟩ := hcompleted.generated
    refine ⟨_, ?_, conversion.notes.logs_log _⟩
    rw [hfiles, FileSet.text_put, if_pos rfl]

/-- A structure with two fields of unknown types and a vector of vectors. -/
def strayTypes : Repository :=
  Sample.repository [Sample.release "p" "1.0" [Sample.struct "S" [
    ("a", Sample.named "x@1.0::T"), ("b", Sample.named "x@1.0::T"),
    ("c", Sample.vec (Sample.vec (Sample.plain "string")))]]]
where
  struct : QualifiedName := ⟨"p", ⟨1, 0⟩, some "S", []⟩
  stray : QualifiedName := ⟨"x", ⟨1, 0⟩, some "T", []⟩
  marks : List String :=
    ["#error FIXME Unknown type: x@1.0::T", "#error FIXME Unknown type: x@1.0::T",
     "#error Nested arrays and vectors are currently not supported. Needs implementation for "
       ++ "field: c"]

namespace strayTypes

theorem isName_of_mem :
    ∀ name ∈ [some "a", some "b", some "c"], ∃ text, name = some text ∧ isName text := by
  simp only [List.forall_mem_cons]
  exact ⟨⟨_, rfl, by decide⟩, ⟨_, rfl, by decide⟩, ⟨_, rfl, by decide⟩,
    fun _ hname => absurd hname List.not_mem_nil⟩

theorem regular_stray : stray.Regular :=
  ⟨⟨["x"], List.cons_ne_nil _ _, by decide, rfl⟩,
    Or.inr ⟨"T", rfl, by decide, fun _ houter => absurd houter List.not_mem_nil⟩⟩

theorem properlyNamed (htypes : conversion.types = [struct])
    (hfields : conversion.schemas.map (fun entry => entry.2.fields.map Field.name) =
      [[some "a", some "b", some "c"]])
    (hreferences : ∀ decl ∈ conversion.catalog.decls, ∀ type ∈ decl.body.types,
      type.ref?.map Ref.name ∈ [none, some stray])
    (hmembers : ∀ decl ∈ conversion.catalog.decls,
      ∀ field ∈ conversion.catalog.fieldsOf decl.name,
        field.name ∈ [some "a", some "b", some "c"]) : conversion.ProperlyNamed := by
  refine ⟨⟨?_, ?_⟩, ?_, ?_⟩
  · rw [htypes]
    intro q hq
    rw [List.mem_singleton.mp hq]
    exact ⟨"S", rfl, by decide, fun _ houter => absurd houter List.not_mem_nil⟩
  · intro entry hentry field hfield
    have hnames : entry.2.fields.map Field.name = [some "a", some "b", some "c"] :=
      List.mem_singleton.mp (hfields ▸ List.mem_map_of_mem hentry)
    exact isName_of_mem _ (hnames ▸ List.mem_map_of_mem hfield)
  · intro decl hdecl type htype ref href
    have hstray := hreferences decl hdecl type htype
    rw [href] at hstray
    have hsame : ref.name = stray := by simpa using hstray
    rw [hsame]
    exact regular_stray
  · intro q field hfield
    have hq := Catalog.mem_names_of_compound (Catalog.compound_of_mem_fieldsOf hfield)
    obtain ⟨decl, hdecl, rfl⟩ := List.mem_map.mp hq
    exact isName_of_mem _ (hmembers decl hdecl field hfield)

end strayTypes

theorem problems_reported_once_strayTypes :
    ∃ conversion t, run "p@1.0" false .default { repository := strayTypes } = .ok conversion t ∧
      conversion.ProperlyNamed ∧ conversion.ValuesNamed ∧
      (conversion.notes.ofKind .unknownType).length = 2 ∧ conversion.notes.entries.length = 3 ∧
      ∃ functions : Target → List ConverterFunction, ∀ target,
        conversion.functions .default target = .ok (functions target) ∧
        conversion.ReportsOnce (functions target) ∧
        ∃ source, conversion.files.text? (target.sourceFile conversion.name) = some source ∧
          MarkedIn source conversion .default (functions target) ∧
          errorLines source = strayTypes.marks := by
  have hfound :
      Outcome.view (fun conversion _ =>
          (conversion.types, conversion.schemas.map fun entry => entry.2.fields.map Field.name,
            (conversion.notes.ofKind .unknownType).length, conversion.notes.entries.length,
            decide ((∀ decl ∈ conversion.catalog.decls, ∀ type ∈ decl.body.types,
                type.ref?.map Ref.name ∈ [none, some strayTypes.stray]) ∧
              (∀ decl ∈ conversion.catalog.decls, ∀ field ∈ conversion.catalog.fieldsOf decl.name,
                field.name ∈ [some "a", some "b", some "c"]) ∧
              (∀ q ∈ conversion.types, (conversion.catalog.valuesFromRoot q).length = 0) ∧
              ∀ target ∈ Target.all,
                (conversion.functions .default target).toOption.map (fun functions =>
                  (functions.flatMap ConverterFunction.marks).map Prod.snd) =
                  some strayTypes.marks)))
        (run "p@1.0" false .default { repository := strayTypes }) =
        some ([strayTypes.struct], [[some "a", some "b", some "c"]], 2, 3, true) := by
    decide +kernel
  obtain ⟨conversion, t, hrun, hfound⟩ := Outcome.of_view hfound
  simp only [Prod.mk.injEq, decide_eq_true_eq] at hfound
  obtain ⟨htypes, hfields, hunknown, hnumber, hreferences, hmembers, hvalues, hmarks⟩ := hfound
  have hnamed := strayTypes.properlyNamed htypes hfields hreferences hmembers
  have hchecked : conversion.ValuesNamed := by
    intro q hq value hvalue
    rw [List.eq_nil_of_length_eq_zero (hvalues q hq)] at hvalue
    exact absurd hvalue List.not_mem_nil
  obtain ⟨⟨functions, hfunctions⟩, -⟩ :=
    problems_reported_once strayTypes (Repository.faithful_of_read_eq_nil rfl) "p@1.0" false
      .default conversion t hrun hnamed.toIdentified
  refine ⟨conversion, t, hrun, hnamed, hchecked, hunknown, hnumber, functions, fun target => ?_⟩
  obtain ⟨htarget, -, ⟨source, hsource, -, hmarked⟩, -, hreports⟩ := hfunctions target
  have hlines := hmarks target (by cases target <;> decide)
  rw [htarget] at hlines
  have hmarked := hmarked hnamed (Or.inr hchecked)
  refine ⟨htarget, hreports, source, hsource, hmarked, ?_⟩
  rw [hmarked.marks (by decide +kernel)]
  exact Option.some.inj hlines

end Conversion

end HalBridge
