import HalBridge.Proofs.ConversionLines
import HalBridge.Proofs.ConverterNotes
import HalBridge.Proofs.NoteSink
import HalBridge.Proofs.ResolverWellFormed
import HalBridge.Proofs.SampleDocuments
import HalBridge.Proofs.TypedefUnfolding
import HalBridge.Proofs.UnionDispatch

/-!
# Every field is covered

A converter function has one block for each merged field. What the type of a field stands for
decides what the block is: a marker with a note, the snippet of a replaced type, or a conversion,
which writes the field once. The labels of the cases of a safe union are pairwise different, since
merged fields have different names.
-/

namespace HalBridge

open Text

/-- What is done about a field. -/
inductive Treatment where
  | marked
  | replaced
  | converted
deriving DecidableEq

namespace FieldPlan

def treatment : FieldPlan → Treatment
  | .unhandled _ | .plainUnion _ | .unknownType _ | .nestedContainer | .compoundElements _ =>
      .marked
  | .snippet _ => .replaced
  | .call _ | .copy _ | .fill _ _ => .converted

variable {plan : FieldPlan} {owner : QualifiedName} {name marker : String} {note : Note}

theorem marks_of_treatment (h : plan.treatment = .marked) (owner : QualifiedName)
    (name : String) :
    ∃ marker note, plan.marker? name = some marker ∧ plan.note? owner name = some note := by
  cases plan with
  | unhandled | plainUnion | unknownType | nestedContainer | compoundElements =>
      exact ⟨_, _, rfl, rfl⟩
  | snippet | call | copy | fill => cases h

/-- The compiler rejects a marker. -/
theorem marker_starts (h : plan.marker? name = some marker) : Starts marker "#error" := by
  cases plan with
  | unhandled | plainUnion | unknownType =>
      obtain rfl := Option.some.inj h
      exact .append (by decide) _
  | nestedContainer | compoundElements =>
      obtain rfl := Option.some.inj h
      exact .append (.append (by decide) _) _
  | snippet | call | copy | fill => cases h

/-- A note names the field that it is on. -/
theorem note_names (h : plan.note? owner name = some note) :
    ∃ front back, note.message =
      front ++ "\"" ++ name ++ "\" of " ++ owner.toText ++ back := by
  cases plan with
  | unhandled special =>
      obtain rfl := Option.some.inj h
      refine ⟨"An unhandled type was found in translation: " ++ special.toText ++ " (field ",
        ")", ?_⟩
      exact String.toList_inj.mp (by simp)
  | plainUnion q =>
      obtain rfl := Option.some.inj h
      refine ⟨"Field ", " is the union " ++ q.toText
        ++ ", which has no discriminator and cannot be translated.", ?_⟩
      exact String.toList_inj.mp (by simp)
  | unknownType q =>
      obtain rfl := Option.some.inj h
      refine ⟨"An unknown named type was found in translation: " ++ q.toText ++ " (field ",
        ")", ?_⟩
      exact String.toList_inj.mp (by simp)
  | nestedContainer =>
      obtain rfl := Option.some.inj h
      refine ⟨"Nested arrays and vectors are not supported for field ", ".", ?_⟩
      exact String.toList_inj.mp (by simp)
  | compoundElements label =>
      obtain rfl := Option.some.inj h
      refine ⟨"Arrays of " ++ label ++ " are not supported for field ", ".", ?_⟩
      exact String.toList_inj.mp (by simp)
  | snippet | call | copy | fill => cases h

theorem note_of_treatment (h : plan.treatment ≠ .marked) : plan.note? owner name = none := by
  cases plan with
  | snippet | call | copy | fill => rfl
  | unhandled | plainUnion | unknownType | nestedContainer | compoundElements =>
      exact absurd rfl h

theorem exists_write (h : plan.treatment = .converted) (target : Target) (access : Access)
    (owner : QualifiedName) (source name : String) :
    ∃ write, plan.write? target access owner source name = some write := by
  cases plan with
  | call | copy | fill => exact ⟨_, rfl⟩
  | snippet | unhandled | plainUnion | unknownType | nestedContainer | compoundElements => cases h

end FieldPlan

namespace Catalog

/-! ### What the type of a field decides -/

/-- A container of values of this type is not converted. -/
def BarsElements (catalog : Catalog) : Ty → Prop
  | .vec _ | .array _ _ | .special _ => True
  | .named ref => ¬catalog.NamesEnum ref
  | .scalar _ | .string => False

section Types

variable (catalog : Catalog) (converted : QualifiedName → Bool) (registry : Registry)

/-- A field of this type has to be converted by hand. The type is no typedef. -/
def NeedsHand : Ty → Prop
  | .special _ => True
  | .named ref => catalog.NamesPlainUnion ref ∨
      (¬catalog.NamesEnum ref ∧ converted ref.name = false ∧ registry.lookup ref.name = none)
  | .vec element | .array element _ =>
      ∃ plain, catalog.StandsFor element plain ∧ catalog.BarsElements plain
  | .scalar _ | .string => False

/-- A field of this type is left to an entry of the registry. The type is no typedef. -/
def ReplacedBy (entry : Replacement) : Ty → Prop
  | .named ref => ¬catalog.NamesEnum ref ∧ ¬catalog.NamesPlainUnion ref ∧
      converted ref.name = false ∧ registry.lookup ref.name = some entry
  | .special _ | .vec _ | .array _ _ | .scalar _ | .string => False

end Types

variable {catalog : Catalog} {converted : QualifiedName → Bool} {registry : Registry}
  {type plain : Ty} {ref : Ref} {descriptor : Descriptor}

theorem NamesEnum.not_plainUnion (h : catalog.NamesEnum ref) : ¬catalog.NamesPlainUnion ref := by
  obtain ⟨storage, values, hbody⟩ := h
  rintro ⟨fields, hunion⟩
  rw [hbody] at hunion
  cases hunion

theorem NamesSafeUnion.not_plainUnion (h : catalog.NamesSafeUnion ref) :
    ¬catalog.NamesPlainUnion ref := by
  obtain ⟨fields, hbody⟩ := h
  rintro ⟨others, hunion⟩
  rw [hbody] at hunion
  cases hunion

theorem NamesSafeUnion.not_enum (h : catalog.NamesSafeUnion ref) : ¬catalog.NamesEnum ref := by
  obtain ⟨fields, hbody⟩ := h
  rintro ⟨storage, values, henum⟩
  rw [hbody] at henum
  cases henum

theorem DescribedAs.atom_eq_none_iff (h : catalog.DescribedAs plain descriptor) :
    descriptor.atom? = none ↔ catalog.BarsElements plain := by
  cases h with
  | scalar | string | special | vec | array => simp [Descriptor.atom?, BarsElements]
  | enum henum => simp [Descriptor.atom?, BarsElements, henum]
  | plainUnion hunion =>
      have henum : ¬catalog.NamesEnum _ := fun henum => henum.not_plainUnion hunion
      simp [Descriptor.atom?, BarsElements, henum]
  | safeUnion hunion => simp [Descriptor.atom?, BarsElements, hunion.not_enum]
  | record henum => simp [Descriptor.atom?, BarsElements, henum]

/-- Among named types only records and safe unions are looked up. -/
theorem treatment_ofNamed (henum : ¬catalog.NamesEnum ref) (hunion : ¬catalog.NamesPlainUnion ref) :
    ((FieldPlan.ofNamed converted registry ref.name).treatment = .marked ↔
      catalog.NeedsHand converted registry (.named ref)) ∧
    ((FieldPlan.ofNamed converted registry ref.name).treatment = .replaced ↔
      ∃ entry, catalog.ReplacedBy converted registry entry (.named ref)) := by
  unfold FieldPlan.ofNamed
  cases hconverted : converted ref.name with
  | true => simp [FieldPlan.treatment, NeedsHand, ReplacedBy, hunion, hconverted]
  | false =>
      cases hlookup : registry.lookup ref.name with
      | none =>
          simp [FieldPlan.treatment, NeedsHand, ReplacedBy, henum, hconverted, hlookup]
      | some entry =>
          simp [FieldPlan.treatment, NeedsHand, ReplacedBy, henum, hunion, hconverted, hlookup]

theorem treatment_ofElement {element : Ty} (fixed : Bool) (hplain : catalog.StandsFor element plain)
    (h : catalog.DescribedAs plain descriptor) :
    ((FieldPlan.ofElement fixed descriptor).treatment = .marked ↔
      ∃ plain, catalog.StandsFor element plain ∧ catalog.BarsElements plain) ∧
    (FieldPlan.ofElement fixed descriptor).treatment ≠ .replaced := by
  have hbars : (∃ plain, catalog.StandsFor element plain ∧ catalog.BarsElements plain) ↔
      catalog.BarsElements plain := by
    constructor
    · rintro ⟨other, hother, hbars⟩
      rwa [hplain.unique hother] at hbars
    · exact fun hbars => ⟨plain, hplain, hbars⟩
  rw [hbars, ← h.atom_eq_none_iff]
  unfold FieldPlan.ofElement
  cases descriptor.atom? with
  | some atom => simp [FieldPlan.treatment]
  | none =>
      dsimp only
      split <;> simp [FieldPlan.treatment]

theorem DescribedAs.treatment (h : catalog.DescribedAs plain descriptor)
    (converted : QualifiedName → Bool) (registry : Registry) :
    ((FieldPlan.of converted registry descriptor).treatment = .marked ↔
      catalog.NeedsHand converted registry plain) ∧
    ((FieldPlan.of converted registry descriptor).treatment = .replaced ↔
      ∃ entry, catalog.ReplacedBy converted registry entry plain) := by
  cases h with
  | scalar | string | special =>
      simp [FieldPlan.of, FieldPlan.treatment, NeedsHand, ReplacedBy]
  | vec hplain hinner =>
      obtain ⟨hmarked, hreplaced⟩ := treatment_ofElement false hplain hinner
      exact ⟨hmarked, by simpa [FieldPlan.of, ReplacedBy] using hreplaced⟩
  | array hplain hinner =>
      obtain ⟨hmarked, hreplaced⟩ := treatment_ofElement true hplain hinner
      exact ⟨hmarked, by simpa [FieldPlan.of, ReplacedBy] using hreplaced⟩
  | enum henum =>
      simp [FieldPlan.of, FieldPlan.treatment, NeedsHand, ReplacedBy, henum,
        henum.not_plainUnion]
  | plainUnion hunion =>
      simp [FieldPlan.of, FieldPlan.treatment, NeedsHand, ReplacedBy, hunion]
  | safeUnion hunion => exact treatment_ofNamed hunion.not_enum hunion.not_plainUnion
  | record henum hunion => exact treatment_ofNamed henum hunion

theorem DescribedAs.plan_of_replacedBy {entry : Replacement}
    (h : catalog.DescribedAs plain descriptor)
    (hreplaced : catalog.ReplacedBy converted registry entry plain) :
    FieldPlan.of converted registry descriptor = .snippet entry.lines := by
  cases h with
  | scalar | string | special | vec | array => cases hreplaced
  | enum henum => exact absurd henum hreplaced.1
  | plainUnion hunion => exact absurd hunion hreplaced.2.1
  | safeUnion | record =>
      obtain ⟨-, -, hconverted, hlookup⟩ := hreplaced
      simp [FieldPlan.of, FieldPlan.ofNamed, hconverted, hlookup]

/-! ### Blocks -/

/-- A block of a function for `owner` does for its field what the type of the field asks for, and
`notes` has the note on it if there is one. -/
structure CoversField (catalog : Catalog) (target : Target) (converted : QualifiedName → Bool)
    (registry : Registry) (access : Access) (owner : QualifiedName) (notes : List Note)
    (block : FieldBlock) : Prop where
  marked_iff : block.plan.treatment = .marked ↔
    ∃ plain, catalog.StandsFor block.field.type plain ∧ catalog.NeedsHand converted registry plain
  replaced_iff : block.plan.treatment = .replaced ↔
    ∃ plain, catalog.StandsFor block.field.type plain ∧
      ∃ entry, catalog.ReplacedBy converted registry entry plain
  marked : block.plan.treatment = .marked → ∃ marker note,
    block.lines target access owner = [marker] ∧ Starts marker "#error" ∧
    block.note? owner = some note ∧ notes.count note = 1 ∧
    ∃ front back, note.message =
      front ++ "\"" ++ block.name ++ "\" of " ++ owner.toText ++ back
  replaced : ∀ plain, catalog.StandsFor block.field.type plain →
    ∀ entry, catalog.ReplacedBy converted registry entry plain →
      block.lines target access owner = entry.lines ∧ block.note? owner = none
  converted : block.plan.treatment = .converted →
    block.note? owner = none ∧
    (∀ line ∈ block.lines target access owner, ¬Starts line "#error") ∧
    ∃ write, block.plan.write? target access owner
        (access.read (Text.orNone block.field.access)) block.name = some write ∧
      (block.lines target access owner).count write = 1

theorem coversField_of_fieldBlock {field : Field} {block : FieldBlock}
    (h : catalog.fieldBlock converted registry field = .ok block) (target : Target)
    (access : Access) (owner : QualifiedName) {notes : List Note}
    (hnotes : ∀ note, block.note? owner = some note → notes.count note = 1) :
    catalog.CoversField target converted registry access owner notes block := by
  obtain ⟨descriptor, hdescribe, rfl⟩ := Outcome.except_map_ok_iff.mp h
  obtain ⟨plain, hplain, hdescribed⟩ := describedAs_of_describe hdescribe
  obtain ⟨hmarked, hreplaced⟩ := hdescribed.treatment converted registry
  have honly : ∀ P : Ty → Prop, (∃ other, catalog.StandsFor field.type other ∧ P other) ↔
      P plain := by
    intro P
    constructor
    · rintro ⟨other, hother, hP⟩
      rwa [hplain.unique hother] at hP
    · exact fun hP => ⟨plain, hplain, hP⟩
  refine ⟨?_, ?_, ?_, ?_, ?_⟩
  · rw [honly]
    exact hmarked
  · rw [honly fun plain => ∃ entry, catalog.ReplacedBy converted registry entry plain]
    exact hreplaced
  · intro htreatment
    obtain ⟨marker, note, hmarker, hnote⟩ :=
      FieldPlan.marks_of_treatment htreatment owner (Text.orNone field.name)
    exact ⟨marker, note, FieldPlan.lines_of_marker target access owner _ hmarker,
      FieldPlan.marker_starts hmarker, hnote, hnotes note hnote, FieldPlan.note_names hnote⟩
  · intro other hother entry hentry
    rw [hplain.unique hother] at hentry
    simp [FieldBlock.lines, FieldBlock.note?, hdescribed.plan_of_replacedBy hentry,
      FieldPlan.lines, FieldPlan.note?]
  · intro htreatment
    obtain ⟨write, hwrite⟩ := FieldPlan.exists_write htreatment target access owner
      (access.read (Text.orNone field.access)) (Text.orNone field.name)
    refine ⟨FieldPlan.note_of_treatment (by rw [htreatment]; decide), ?_, write, hwrite,
      FieldPlan.count_write hwrite⟩
    exact FieldPlan.not_starts_error (Option.isSome_of_eq_some hwrite)

/-! ### Functions -/

/-- The body of a function is made of one block for each merged field, in the order of the fields,
each of which does what the type of its field asks for. No two cases have the same label, and the
notes of the function are those on the fields that are marked. -/
structure CoversFields (catalog : Catalog) (target : Target) (converted : QualifiedName → Bool)
    (registry : Registry) (schema : MergedSchema) (function : ConverterFunction) : Prop where
  fields : function.fieldBlocks.map FieldBlock.field = schema.fields
  body : function.body? = some (target.opening (accessOf schema.style) schema.name
    ++ function.fieldBlocks.flatMap (·.placed target (accessOf schema.style) schema.name)
    ++ target.closing (accessOf schema.style))
  labels : (function.fieldBlocks.map fun block =>
    target.caseLabel schema.name block.name).Nodup
  notes : FirstOccurrences (function.fieldBlocks.filterMap (·.note? schema.name)) function.notes
  blocks : ∀ block ∈ function.fieldBlocks,
    catalog.CoversField target converted registry (accessOf schema.style) schema.name
      function.notes block

section Merged

variable {q : QualifiedName} {notes after : Notes} {schema : MergedSchema}

theorem named_of_merge (h : catalog.merge q notes = .ok (schema, after)) :
    ∀ field ∈ schema.fields, field.name ≠ none := by
  have hmerges := mergesTo_of_merge h
  intro field hfield hnone
  obtain ⟨fields, hcompound⟩ := hmerges.compound
  rw [merge_eq_error (by rw [hcompound]; rfl) notes ⟨field, hmerges.mem_walk hfield, hnone⟩] at h
  cases h

theorem nodup_labels (h : catalog.merge q notes = .ok (schema, after)) {blocks : List FieldBlock}
    (hfields : blocks.map FieldBlock.field = schema.fields) (target : Target) :
    (blocks.map fun block => target.caseLabel schema.name block.name).Nodup := by
  have htags := map_some_tags { target, type := schema.name, access := .member, blocks := blocks }
    hfields (named_of_merge h)
  have hnodup := (mergesTo_of_merge h).ordered.nodup
  rw [← htags] at hnodup
  have hlabels := (hnodup.of_map some).map (target.label_injective schema.name)
  rw [ConverterFunction.tags, List.map_map] at hlabels
  simp only [Target.caseLabel_eq_label]
  exact hlabels

theorem Unfoldable.coversFields (h : catalog.Unfoldable)
    (hmerge : catalog.merge q notes = .ok (schema, after)) (hstyle : schema.style ≠ .union)
    (target : Target) (converted : QualifiedName → Bool) (registry : Registry) :
    ∃ function, catalog.converterFunction target converted registry schema = .ok function ∧
      catalog.CoversFields target converted registry schema function := by
  have hblock : ∀ field ∈ schema.fields,
      ∃ block, catalog.fieldBlock converted registry field = .ok block := by
    intro field _
    obtain ⟨descriptor, hdescribe⟩ := h.describe field.type
    exact ⟨_, Outcome.except_map_ok_iff.mpr ⟨descriptor, hdescribe, rfl⟩⟩
  obtain ⟨blocks, hblocks⟩ := Outcome.mapM_ok hblock
  have hfields := map_field_of_mapM hblocks
  have hnotes := Notes.firstOccurrences_of_empty (blocks.filterMap (·.note? schema.name))
  refine ⟨_, converterFunction_of_blocks target hstyle hblocks, hfields, ?_,
    nodup_labels hmerge hfields target, hnotes, ?_⟩
  · exact congrArg some (ConverterFunction.bodyLines_eq target schema.name _ blocks)
  · intro block hmem
    obtain ⟨field, -, hmade⟩ := Outcome.mem_of_mapM hblocks hmem
    refine coversField_of_fieldBlock hmade target (accessOf schema.style) schema.name ?_
    intro note hnote
    exact List.count_eq_one_of_mem hnotes.nodup
      ((hnotes.mem_iff note).mpr (List.mem_filterMap.mpr ⟨block, hmem, hnote⟩))

end Merged

end Catalog

namespace Resolver

theorem Idle.chainEnds {s : Resolver} (h : s.Idle) (q : QualifiedName) :
    s.catalog.ChainEnds q := by
  by_cases hq : q ∈ s.catalog.names
  · exact h.chains q hq
  · exact Catalog.chainEnds_of_not_mem hq

/-- **Coverage.** In a resolved model in which no typedef reaches itself through containers, the
function for a merged struct or safe union is emitted and covers every merged field by a block of
its own. -/
theorem merged_fields_covered (repository : Repository) (hread : repository.Faithful)
    (calls : List Call) (s : Resolver) (h : performAll calls { repository } = .ok () s)
    (hcontainers : ∀ q r, s.catalog.Contains q r →
      ¬Relation.ReflTransGen s.catalog.Unfolds r q)
    (q : QualifiedName) (notes after : Notes) (schema : MergedSchema)
    (hmerge : s.catalog.merge q notes = .ok (schema, after)) (hstyle : schema.style ≠ .union)
    (target : Target) (converted : QualifiedName → Bool) (registry : Registry) :
    ∃ function, s.catalog.converterFunction target converted registry schema = .ok function ∧
      s.catalog.CoversFields target converted registry schema function := by
  obtain ⟨hidle, -⟩ := performAll_ok (idle_fresh hread) h
  have hunfoldable := Catalog.unfoldable_of_containers hidle.chainEnds hcontainers
  exact hunfoldable.coversFields hmerge hstyle target converted registry

/-- A struct with an enum and a handle. -/
def lockedState : Repository :=
  Sample.repository [Sample.release "p" "1.0" [
    Sample.enum "State" (Sample.scalar "int32") [],
    Sample.struct "Holder" [("state", Sample.named "State"), ("lock", Sample.plain "handle")]]]

theorem ok_of_toOption {α : Type} {outcome : Except Fault α} {found : α}
    (h : outcome.toOption = some found) : outcome = .ok found := by
  cases outcome with
  | error fault => cases h
  | ok value => rw [Option.some.inj h]

namespace lockedState

def state : QualifiedName :=
  ⟨"p", ⟨1, 0⟩, some "State", []⟩

def holder : QualifiedName :=
  ⟨"p", ⟨1, 0⟩, some "Holder", []⟩

/-- What is seen of the struct and its function, where nothing else is converted. -/
structure Summary where
  noTypedef : Bool
  style : CompoundStyle
  fields : List (Option String × Ty)
  body : Option (List String)
  notes : List Note
deriving DecidableEq

def summary? (s : Resolver) : Option Summary := do
  let (schema, _) ← (s.catalog.merge holder {}).toOption
  let function ← (s.catalog.converterFunction .ndk (· = holder) .default schema).toOption
  return { noTypedef := s.catalog.names.all fun q => (s.catalog.aliased? q).isNone
           style := schema.style, fields := schema.fields.map fun field => (field.name, field.type)
           body := function.body?, notes := function.notes }

theorem view_loaded :
    Outcome.view (fun _ s => summary? s)
      (performAll [.release ⟨"p", ⟨1, 0⟩, some "", []⟩] { repository := lockedState }) =
    some (some
      { noTypedef := true, style := .struct
        fields := [(some "state", .named (.declared state)), (some "lock", .special .handle)]
        body := some ["out->state = static_cast<aidl::p::State>(in.state);",
          "#error FIXME Unhandled type: handle", "return true;"]
        notes := [⟨.unsupported, "An unhandled type was found in translation: handle "
          ++ "(field \"lock\" of p@1.0::Holder)"⟩] }) := by
  decide +kernel

theorem loaded :
    ∃ s schema after function,
      performAll [.release ⟨"p", ⟨1, 0⟩, some "", []⟩] { repository := lockedState } = .ok () s ∧
      s.catalog.merge holder {} = .ok (schema, after) ∧
      s.catalog.converterFunction .ndk (· = holder) .default schema = .ok function ∧
      (∀ q aliased, s.catalog.aliased? q ≠ some aliased) ∧ schema.style = .struct ∧
      schema.fields.map (fun field => (field.name, field.type)) =
        [(some "state", .named (.declared state)), (some "lock", .special .handle)] ∧
      function.body? = some ["out->state = static_cast<aidl::p::State>(in.state);",
        "#error FIXME Unhandled type: handle", "return true;"] ∧
      function.notes = [⟨.unsupported, "An unhandled type was found in translation: handle "
        ++ "(field \"lock\" of p@1.0::Holder)"⟩] := by
  obtain ⟨_, s, hrun, hseen⟩ := Outcome.of_view view_loaded
  obtain ⟨⟨schema, after⟩, hmerge, hseen⟩ := Option.bind_eq_some_iff.mp hseen
  obtain ⟨function, hfunction, hseen⟩ := Option.bind_eq_some_iff.mp hseen
  obtain ⟨hnames, hstyle, hfields, hbody, hnotes⟩ := Summary.mk.inj (Option.some.inj hseen)
  refine ⟨s, schema, after, function, hrun, ok_of_toOption hmerge, ok_of_toOption hfunction, ?_,
    hstyle, hfields, hbody, hnotes⟩
  intro q aliased haliased
  have hnone := List.all_eq_true.mp hnames q (Catalog.mem_names_of_aliased haliased)
  rw [haliased] at hnone
  cases hnone

end lockedState

theorem merged_fields_covered_lockedState :
    ∃ s schema after function,
      performAll [.release ⟨"p", ⟨1, 0⟩, some "", []⟩] { repository := lockedState } = .ok () s ∧
      s.catalog.merge lockedState.holder {} = .ok (schema, after) ∧ schema.style ≠ .union ∧
      s.catalog.converterFunction .ndk (· = lockedState.holder) .default schema = .ok function ∧
      s.catalog.CoversFields .ndk (· = lockedState.holder) .default schema function := by
  obtain ⟨s, schema, after, -, hrun, hmerge, -, haliased, hstyle, -⟩ := lockedState.loaded
  have hnounion : schema.style ≠ .union := by rw [hstyle]; decide
  have hcontainers : ∀ q r, s.catalog.Contains q r →
      ¬Relation.ReflTransGen s.catalog.Unfolds r q := by
    rintro q r ⟨aliased, h, -⟩
    exact absurd h (haliased q aliased)
  obtain ⟨function, hfunction, hcovers⟩ :=
    merged_fields_covered lockedState (Repository.faithful_of_read_eq_nil rfl) _ s hrun hcontainers
      _ _ _ schema hmerge hnounion .ndk (· = lockedState.holder) .default
  exact ⟨s, schema, after, function, hrun, hmerge, hnounion, hfunction, hcovers⟩

/-- The enum is a named type that is neither converted in the run nor registered, and its field is
converted all the same: only the handle is marked and noted. -/
theorem enum_converted_lockedState :
    ∃ s schema after function,
      performAll [.release ⟨"p", ⟨1, 0⟩, some "", []⟩] { repository := lockedState } = .ok () s ∧
      s.catalog.merge lockedState.holder {} = .ok (schema, after) ∧ schema.style = .struct ∧
      s.catalog.converterFunction .ndk (· = lockedState.holder) .default schema = .ok function ∧
      schema.fields.map (fun field => (field.name, field.type)) =
        [(some "state", .named (.declared lockedState.state)), (some "lock", .special .handle)] ∧
      decide (lockedState.state = lockedState.holder) = false ∧
      Registry.default.lookup lockedState.state = none ∧
      function.body? = some ["out->state = static_cast<aidl::p::State>(in.state);",
        "#error FIXME Unhandled type: handle", "return true;"] ∧
      function.notes = [⟨.unsupported, "An unhandled type was found in translation: handle "
        ++ "(field \"lock\" of p@1.0::Holder)"⟩] := by
  obtain ⟨s, schema, after, function, hrun, hmerge, hfunction, -, hstyle, hfields, hbody, hnotes⟩ :=
    lockedState.loaded
  exact ⟨s, schema, after, function, hrun, hmerge, hstyle, hfunction, hfields, by decide, by decide,
    hbody, hnotes⟩

end Resolver

end HalBridge
