import HalBridge.Proofs.GeneratedFiles
import HalBridge.Proofs.SampleDocuments
import HalBridge.Proofs.SourceTexts

/-!
# Calls between converter functions

A converter function calls another one for a field whose type, with its typedefs unfolded, is a
named type that is converted in the same run. Such a type is declared, since a reference that is
resolved as external is to no declared type, and it is neither an enum nor a plain union, since
these are described as what they are. So it is a compound that is merged, and its function is not a
stub. There is one function for each merged compound, since no type is collected twice.
-/

namespace HalBridge

/-- The type of a value that needs a function of its own. -/
def Descriptor.callee? : Descriptor → Option QualifiedName
  | .record q _ => some q
  | .union q true _ => some q
  | _ => none

def FieldPlan.callee? : FieldPlan → Option QualifiedName
  | .call type => some type
  | _ => none

/-- The types whose functions a function calls, in the order of its fields. -/
def ConverterFunction.callees (function : ConverterFunction) : List QualifiedName :=
  (function.blocks.getD []).filterMap fun block => block.plan.callee?

/-- The blocks of a function; a stub has none. -/
def ConverterFunction.fieldBlocks (function : ConverterFunction) : List FieldBlock :=
  function.blocks.getD []

theorem FieldPlan.callee_eq_some_iff {plan : FieldPlan} {type : QualifiedName} :
    plan.callee? = some type ↔ plan = .call type := by
  cases plan <;> simp [callee?]

theorem FieldPlan.of_eq_call {converted : QualifiedName → Bool} {registry : Registry}
    {descriptor : Descriptor} {type : QualifiedName}
    (h : FieldPlan.of converted registry descriptor = .call type) :
    converted type ∧ descriptor.callee? = some type := by
  have hnamed : ∀ q, ofNamed converted registry q = .call type → q = type ∧ converted type := by
    intro q hq
    unfold ofNamed at hq
    split at hq
    · rename_i hconverted
      obtain rfl := FieldPlan.call.inj hq
      exact ⟨rfl, hconverted⟩
    · split at hq <;> cases hq
  have helement : ∀ fixed element, ofElement fixed element ≠ .call type := by
    intro fixed element hcall
    unfold ofElement at hcall
    split at hcall
    · cases hcall
    · split at hcall <;> cases hcall
  cases descriptor with
  | record q label =>
      obtain ⟨rfl, hconverted⟩ := hnamed q h
      exact ⟨hconverted, rfl⟩
  | union q safe label =>
      cases safe with
      | false => cases h
      | true =>
          obtain ⟨rfl, hconverted⟩ := hnamed q h
          exact ⟨hconverted, rfl⟩
  | sequence element label => exact absurd h (helement false element)
  | fixedArray element size label => exact absurd h (helement true element)
  | scalar | enum | string | unsupported => cases h

namespace Catalog

variable {catalog : Catalog} {type : Ty} {shape : Shape} {ref : Ref} {q : QualifiedName}

/-! ### What a shape refers to -/

theorem resolveAlias_eq_or_mem {resolved : Ty} (h : catalog.resolveAlias type = .ok resolved) :
    resolved = type ∨ ∃ decl ∈ catalog.decls, resolved ∈ decl.body.types := by
  unfold resolveAlias at h
  split at h
  · exact Or.inl (Except.ok.inj h).symm
  · rename_i first _
    dsimp only at h
    split at h
    · cases h
    · obtain rfl := Except.ok.inj h
      cases hlast : (catalog.typedefChain first).path.getLast?.bind catalog.aliased? with
      | none => exact Or.inl rfl
      | some aliased =>
          obtain ⟨last, -, haliased⟩ := Option.bind_eq_some_iff.mp hlast
          exact Or.inr (mem_types_of_aliased haliased)

section Shapes

variable {P : Ref → Prop}
  (hdeclared : ∀ decl ∈ catalog.decls, ∀ type ∈ decl.body.types, ∀ ref,
    type.ref? = some ref → P ref)

include hdeclared

theorem shapeWith_refs {jump : QualifiedName → Ty → Except Fault Shape}
    (hjump : ∀ q resolved shape, (∀ ref, resolved.ref? = some ref → P ref) →
      jump q resolved = .ok shape → ∀ ref, shape.base = .named ref → P ref)
    (htype : ∀ ref, type.ref? = some ref → P ref)
    (h : catalog.shapeWith jump type = .ok shape) : ∀ ref, shape.base = .named ref → P ref := by
  induction type generalizing shape with
  | scalar | string | special =>
      obtain rfl := Except.ok.inj h
      exact fun _ hbase => nomatch hbase
  | vec element ih | array element _ ih =>
      obtain ⟨inner, hinner, h⟩ := Outcome.except_bind_ok_iff.mp h
      obtain rfl := Except.ok.inj h
      exact fun ref hbase => ih htype hinner ref hbase
  | named ref =>
      unfold shapeWith at h
      split at h
      · obtain rfl := Except.ok.inj h
        intro same hsame
        exact htype same (congrArg some (Shape.named.inj hsame))
      · split at h
        · rename_i resolved hresolved
          refine hjump _ resolved shape ?_ h
          rcases resolveAlias_eq_or_mem hresolved with rfl | ⟨decl, hdecl, hmem⟩
          · exact htype
          · exact hdeclared decl hdecl resolved hmem
        · cases h

/-- A property of all references in declared types holds of the references in shapes. -/
theorem shape_refs (htype : ∀ ref, type.ref? = some ref → P ref)
    (h : catalog.shape type = .ok shape) : ∀ ref, shape.base = .named ref → P ref := by
  unfold Catalog.shape at h
  generalize catalog.decls.length = depth at h
  induction depth generalizing type shape with
  | zero =>
      refine shapeWith_refs hdeclared (fun _ _ _ _ hjump => ?_) htype h
      cases hjump
  | succ depth ih =>
      exact shapeWith_refs hdeclared (fun _ _ _ hresolved hjump => ih hresolved hjump) htype h

end Shapes

/-! ### Fields that are converted by a call -/

/-- Whether a reference may be to a type that has a converter function of its own. -/
def isCallable (catalog : Catalog) (ref : Ref) : Bool :=
  match (catalog.decl? ref).map Decl.body with
  | some (.enum _ _) => false
  | some (.compound .union _) => false
  | _ => true

theorem describeRef_callable {descriptor : Descriptor}
    (h : catalog.describeRef ref = .ok descriptor) (hcallee : descriptor.callee? = some q) :
    ref.name = q ∧ catalog.isCallable ref := by
  unfold describeRef at h
  unfold isCallable
  split at h
  · cases hscalar : catalog.enumScalar ref.name with
    | error chain =>
        rw [hscalar] at h
        cases h
    | ok scalar =>
        rw [hscalar] at h
        obtain rfl := Except.ok.inj h
        cases hcallee
  · obtain rfl := Except.ok.inj h
    cases hcallee
  · rename_i hbody
    obtain rfl := Except.ok.inj h
    exact ⟨Option.some.inj hcallee, by rw [hbody]⟩
  · rename_i henum hunion _
    obtain rfl := Except.ok.inj h
    refine ⟨Option.some.inj hcallee, ?_⟩
    split
    · rename_i hbody
      exact absurd hbody (henum _ _)
    · rename_i hbody
      exact absurd hbody (hunion _)
    · rfl

theorem describeShape_callable {descriptor : Descriptor}
    (h : catalog.describeShape shape = .ok descriptor) (hcallee : descriptor.callee? = some q) :
    ∃ ref, shape = .named ref ∧ ref.name = q ∧ catalog.isCallable ref := by
  cases shape with
  | named ref => exact ⟨ref, rfl, describeRef_callable h hcallee⟩
  | scalar | string | special =>
      obtain rfl := Except.ok.inj h
      cases hcallee
  | vec element _ | array element _ _ =>
      unfold describeShape at h
      cases helement : catalog.describeShape element with
      | error chain =>
          rw [helement] at h
          cases h
      | ok inner =>
          rw [helement] at h
          obtain rfl := Except.ok.inj h
          cases hcallee

/-- A field is converted by a call only if its type is a converted type, typedefs apart. -/
theorem shape_of_call {converted : QualifiedName → Bool} {registry : Registry} {field : Field}
    {block : FieldBlock} (h : catalog.fieldBlock converted registry field = .ok block)
    (hcall : block.plan = .call q) :
    converted q ∧ ∃ ref, catalog.shape field.type = .ok (.named ref) ∧ ref.name = q ∧
      catalog.isCallable ref := by
  unfold fieldBlock describe at h
  cases hshape : catalog.shape field.type with
  | error fault =>
      rw [hshape] at h
      cases h
  | ok shape =>
      cases hdescriptor : catalog.describeShape shape with
      | error chain =>
          simp only [hshape, bind, Except.bind, hdescriptor] at h
          cases h
      | ok descriptor =>
          simp only [hshape, bind, Except.bind, hdescriptor] at h
          obtain rfl := Except.ok.inj h
          obtain ⟨hconverted, hcallee⟩ := FieldPlan.of_eq_call hcall
          obtain ⟨ref, rfl, href⟩ := describeShape_callable hdescriptor hcallee
          exact ⟨hconverted, ref, rfl, href⟩

/-- A converted type that may be called is a compound, and no plain union. -/
theorem compound_of_isCallable (hagrees : Resolver.Agrees catalog ref)
    (hcallable : catalog.isCallable ref) (hconvertible : catalog.isConvertible ref.name) :
    ∃ style fields, catalog.compound? ref.name = some (style, fields) ∧ style ≠ .union := by
  have hfound : (catalog.find? ref.name).isSome := by
    cases hfind : catalog.find? ref.name with
    | none => simp [isConvertible, isEnum, storage?, compound?, hfind] at hconvertible
    | some decl => rfl
  cases ref with
  | external q => exact absurd (contains_iff.mp hfound) hagrees
  | declared q =>
      obtain ⟨decl, hfind⟩ := Option.isSome_iff_exists.mp hfound
      simp only [Ref.name] at hfind hconvertible ⊢
      simp only [isCallable, decl?, hfind, Option.map_some] at hcallable
      simp only [isConvertible, isEnum, storage?, compound?, hfind, Option.map_some]
        at hconvertible ⊢
      cases hbody : decl.body with
      | compound style fields =>
          refine ⟨style, fields, rfl, ?_⟩
          rintro rfl
          simp [hbody] at hcallable
      | enum storage values => simp [hbody] at hcallable
      | typedef aliased => simp [hbody] at hconvertible
      | interface => simp [hbody] at hconvertible

theorem MergesTo.compound {schema : MergedSchema} (h : catalog.MergesTo q schema) :
    ∃ fields, catalog.compound? q = some (schema.style, fields) := by
  obtain ⟨found, hfound, hstyle⟩ := Option.map_eq_some_iff.mp h.style.symm
  exact ⟨found.2, by rw [hfound, ← hstyle]⟩

theorem MergesTo.mem_types {schema : MergedSchema} {field : Field} (h : catalog.MergesTo q schema)
    (hfield : field ∈ schema.fields) : ∃ decl ∈ catalog.decls, field.type ∈ decl.body.types := by
  obtain ⟨fields, hcompound⟩ := h.compound
  obtain ⟨before, after, hfields, -⟩ := h.newest field hfield
  have hmet : field.withoutAccess ∈ (catalog.walk q).fields.map Field.withoutAccess := by
    refine List.mem_map_of_mem ?_
    rw [hfields]
    exact List.mem_append_right before List.mem_cons_self
  rw [(fields_walk_perm (by rw [hcompound]; rfl)).mem_iff] at hmet
  obtain ⟨plain, hplain, hsame⟩ := List.mem_map.mp hmet
  obtain ⟨r, -, hplain⟩ := List.mem_flatMap.mp hplain
  have htype : plain.type = field.type := congrArg (fun field => field.type) hsame
  rw [← htype]
  exact mem_types_of_mem_fieldsOf (List.mem_of_mem_filter hplain)

/-! ### Functions -/

theorem map_field_of_mapM {converted : QualifiedName → Bool} {registry : Registry}
    {fields : List Field} {blocks : List FieldBlock}
    (h : fields.mapM (catalog.fieldBlock converted registry) = .ok blocks) :
    blocks.map FieldBlock.field = fields := by
  have hpairs := Outcome.forall₂_of_mapM h
  clear h
  induction hpairs with
  | nil => rfl
  | @cons field block _ _ hblock _ ih =>
      obtain ⟨descriptor, -, rfl⟩ := Outcome.except_map_ok_iff.mp hblock
      rw [List.map_cons, ih]

theorem converterFunction_ok {target : Target} {converted : QualifiedName → Bool}
    {registry : Registry} {schema : MergedSchema} {function : ConverterFunction}
    (h : catalog.converterFunction target converted registry schema = .ok function) :
    function.type = schema.name ∧
      ((schema.style = .union ∧ function.blocks = none) ∨
        (schema.style ≠ .union ∧ ∃ blocks, function.blocks = some blocks ∧
          schema.fields.mapM (catalog.fieldBlock converted registry) = .ok blocks)) := by
  unfold converterFunction at h
  cases hstyle : schema.style with
  | union =>
      rw [hstyle] at h
      obtain rfl := Except.ok.inj h
      exact ⟨rfl, Or.inl ⟨rfl, rfl⟩⟩
  | struct | safeUnion =>
      rw [hstyle] at h
      cases hblocks : schema.fields.mapM (catalog.fieldBlock converted registry) with
      | error fault =>
          rw [hblocks] at h
          cases h
      | ok blocks =>
          rw [hblocks] at h
          obtain rfl := Except.ok.inj h
          exact ⟨rfl, Or.inr ⟨by decide, blocks, rfl, rfl⟩⟩

theorem target_of_converterFunction {target : Target} {converted : QualifiedName → Bool}
    {registry : Registry} {schema : MergedSchema} {function : ConverterFunction}
    (h : catalog.converterFunction target converted registry schema = .ok function) :
    function.target = target := by
  unfold converterFunction at h
  cases hstyle : schema.style with
  | union =>
      rw [hstyle] at h
      obtain rfl := Except.ok.inj h
      rfl
  | struct | safeUnion =>
      rw [hstyle] at h
      obtain ⟨blocks, -, rfl⟩ := Outcome.except_map_ok_iff.mp h
      rfl

end Catalog

/-! ### The functions of a run -/

/-- A block converts its field by a call just if that is planned, snippets apart. It is planned for
a field whose type, unfolded, is the one that the called function converts. -/
structure ConverterFunction.Calls (caller : ConverterFunction) (catalog : Catalog)
    (block : FieldBlock) : Prop where
  planned : ∀ type, block.plan = .call type →
    (∃ ref, catalog.shape block.field.type = .ok (.named ref) ∧ ref.name = type) ∧
      block.lines caller.target caller.access caller.type =
        caller.target.callLines caller.access caller.type type (block.reading caller.access)
          block.name
  only : ∀ type, block.lines caller.target caller.access caller.type =
      caller.target.callLines caller.access caller.type type (block.reading caller.access)
        block.name →
    (∃ called, block.plan = .call called) ∨ ∃ lines, block.plan = .snippet lines

/-- Every function that is called is there once and is not a stub. -/
structure ClosedUnderCalls (functions : List ConverterFunction) : Prop where
  called : ∀ caller ∈ functions, ∀ type ∈ caller.callees,
    ∃ function, functions.filter (·.type = type) = [function] ∧ ¬function.isStub
  stubs : ∀ stub ∈ functions, stub.isStub → ∀ caller ∈ functions, stub.type ∉ caller.callees

namespace Conversion

variable {registry : Registry} {conversion : Conversion} {t : Resolver} {target : Target}
  {functions : List ConverterFunction} {q : QualifiedName}

theorem map_name_convertible (conversion : Conversion) :
    conversion.convertible.map Ref.name =
      conversion.types.filter conversion.catalog.isConvertible := by
  rw [convertible, List.map_map]
  exact List.map_id _

theorem mem_convertible_iff :
    conversion.convertible.any (·.name = q) ↔
      q ∈ conversion.types ∧ conversion.catalog.isConvertible q := by
  rw [← List.mem_filter, ← map_name_convertible]
  simp

theorem mem_schemas_of_lookup {schemas : List (QualifiedName × MergedSchema)}
    {schema : MergedSchema} (h : schemas.lookup q = some schema) : (q, schema) ∈ schemas := by
  obtain ⟨front, back, rfl, -⟩ := List.lookup_eq_some_iff.mp h
  exact List.mem_append_right _ List.mem_cons_self

theorem Completed.merged (h : Completed registry conversion t) {schema : MergedSchema}
    (hschema : conversion.schemas.lookup q = some schema) :
    conversion.catalog.MergesTo q schema :=
  h.schemas_merge.2 _ (mem_schemas_of_lookup hschema)

theorem Completed.mem_types (h : Completed registry conversion t) {schema : MergedSchema}
    (hschema : conversion.schemas.lookup q = some schema) : q ∈ conversion.types := by
  have hkey : q ∈ conversion.schemas.map Prod.fst :=
    List.mem_map_of_mem (mem_schemas_of_lookup hschema)
  rw [h.schemas_merge.1] at hkey
  exact List.mem_of_mem_filter hkey

theorem Completed.exists_schema (h : Completed registry conversion t) (hq : q ∈ conversion.types)
    (hcompound : (conversion.catalog.compound? q).isSome) :
    ∃ schema, conversion.schemas.lookup q = some schema := by
  have hkey : q ∈ conversion.schemas.map Prod.fst := by
    rw [h.schemas_merge.1]
    exact List.mem_filter.mpr ⟨hq, hcompound⟩
  obtain ⟨entry, hentry, rfl⟩ := List.mem_map.mp hkey
  exact Option.isSome_iff_exists.mp (List.lookup_isSome_iff.mpr ⟨entry, hentry, beq_self_eq_true _⟩)

theorem Completed.schema_of_mem (h : Completed registry conversion t)
    (hfunctions : conversion.functions registry target = .ok functions)
    {function : ConverterFunction} (hfunction : function ∈ functions) :
    ∃ schema, conversion.schemas.lookup function.type = some schema ∧
      conversion.catalog.converterFunction target
        (fun q => conversion.convertible.any (·.name = q)) registry schema = .ok function := by
  obtain ⟨schema, hschema, hmade⟩ := Outcome.mem_of_mapM hfunctions hfunction
  obtain ⟨ref, -, hlookup⟩ := List.mem_filterMap.mp hschema
  have htype : function.type = ref.name := by
    rw [(Catalog.converterFunction_ok hmade).1, (h.merged hlookup).name]
  rw [htype]
  exact ⟨schema, hlookup, hmade⟩

/-- A block of a function is made for a field of the merged type. -/
theorem Completed.fieldBlock_of_mem (h : Completed registry conversion t)
    (hfunctions : conversion.functions registry target = .ok functions)
    {function : ConverterFunction} (hfunction : function ∈ functions) {block : FieldBlock}
    (hblock : block ∈ function.fieldBlocks) :
    ∃ field schema, conversion.schemas.lookup function.type = some schema ∧
      field ∈ schema.fields ∧
      conversion.catalog.fieldBlock (fun q => conversion.convertible.any (·.name = q)) registry
        field = .ok block := by
  obtain ⟨schema, hschema, hmade⟩ := h.schema_of_mem hfunctions hfunction
  rcases (Catalog.converterFunction_ok hmade).2 with ⟨-, hstub⟩ | ⟨-, blocks, hblocks, hfields⟩
  · rw [ConverterFunction.fieldBlocks, hstub] at hblock
    exact absurd hblock List.not_mem_nil
  · rw [ConverterFunction.fieldBlocks, hblocks, Option.getD_some] at hblock
    obtain ⟨field, hfield, hfieldBlock⟩ := Outcome.mem_of_mapM hfields hblock
    exact ⟨field, schema, hschema, hfield, hfieldBlock⟩

theorem Completed.exists_function (h : Completed registry conversion t)
    (hfunctions : conversion.functions registry target = .ok functions)
    (hq : q ∈ conversion.types) (hcompound : (conversion.catalog.compound? q).isSome) :
    ∃ function ∈ functions, function.type = q := by
  obtain ⟨schema, hschema⟩ := h.exists_schema hq hcompound
  have href : Ref.declared q ∈ Catalog.byPackage conversion.convertible := by
    rw [(Catalog.byPackage_perm _).mem_iff]
    refine List.mem_map_of_mem (List.mem_filter.mpr ⟨hq, ?_⟩)
    rw [Catalog.isConvertible, hcompound, Bool.true_or]
  obtain ⟨function, hfunction, hmade⟩ :=
    Outcome.mapM_mem hfunctions (List.mem_filterMap.mpr ⟨_, href, hschema⟩)
  refine ⟨function, hfunction, ?_⟩
  rw [(Catalog.converterFunction_ok hmade).1, (h.merged hschema).name]

theorem Completed.nodup_functions (h : Completed registry conversion t)
    (hfunctions : conversion.functions registry target = .ok functions) :
    (functions.map (·.type)).Nodup := by
  have hsorted : ((Catalog.byPackage conversion.convertible).map Ref.name).Nodup := by
    rw [((Catalog.byPackage_perm _).map Ref.name).nodup_iff, map_name_convertible]
    exact h.distinct.filter _
  -- The functions are for some of the sorted types, in the same order.
  have hsublist : ∀ refs : List Ref,
      ((refs.filterMap fun ref => conversion.schemas.lookup ref.name).map MergedSchema.name).Sublist
        (refs.map Ref.name) := by
    intro refs
    induction refs with
    | nil => exact .slnil
    | cons ref rest ih =>
        rw [List.filterMap_cons, List.map_cons]
        cases hschema : conversion.schemas.lookup ref.name with
        | none => exact ih.cons _
        | some schema =>
            rw [List.map_cons, (h.merged hschema).name]
            exact ih.cons_cons _
  have htypes := List.forall₂_map_right_iff.mpr (List.forall₂_map_left_iff.mpr
    ((Outcome.forall₂_of_mapM hfunctions).imp fun schema function hmade =>
      (Catalog.converterFunction_ok hmade).1.symm))
  rw [List.forall₂_eq_eq_eq] at htypes
  rw [← htypes]
  exact (hsublist _).nodup hsorted

theorem Completed.function_unique (h : Completed registry conversion t)
    (hfunctions : conversion.functions registry target = .ok functions)
    {function : ConverterFunction} (hfunction : function ∈ functions) :
    functions.filter (·.type = function.type) = [function] := by
  have hdistinct := h.nodup_functions hfunctions
  obtain ⟨front, back, rfl⟩ := List.append_of_mem hfunction
  rw [List.map_append, List.map_cons] at hdistinct
  have hothers := (List.nodup_cons.mp (List.nodup_middle.mp hdistinct)).1
  rw [List.mem_append, not_or] at hothers
  have hnone : ∀ others : List ConverterFunction, function.type ∉ others.map (·.type) →
      others.filter (·.type = function.type) = [] := by
    intro others hother
    rw [List.filter_eq_nil_iff]
    intro other hmem hsame
    exact hother (List.mem_map.mpr ⟨other, hmem, of_decide_eq_true hsame⟩)
  rw [List.filter_append, List.filter_cons_of_pos (by simp), hnone front hothers.1,
    hnone back hothers.2]
  rfl

/-- What a function calls is a compound of the run that is no plain union. -/
theorem Completed.compound_of_callee (h : Completed registry conversion t)
    (hfunctions : conversion.functions registry target = .ok functions)
    {caller : ConverterFunction} (hcaller : caller ∈ functions) (hq : q ∈ caller.callees) :
    q ∈ conversion.types ∧
      ∃ style fields, conversion.catalog.compound? q = some (style, fields) ∧ style ≠ .union := by
  obtain ⟨block, hblock, hplan⟩ := List.mem_filterMap.mp hq
  have hcall := FieldPlan.callee_eq_some_iff.mp hplan
  obtain ⟨field, schema, hschema, hfield, hfieldBlock⟩ :=
    h.fieldBlock_of_mem hfunctions hcaller hblock
  obtain ⟨hconverted, ref, hshape, rfl, hcallable⟩ := Catalog.shape_of_call hfieldBlock hcall
  obtain ⟨htypes, hconvertible⟩ := mem_convertible_iff.mp hconverted
  -- References in declared types agree with the catalogue, hence so does the one in the shape.
  have hdeclared : ∀ decl ∈ conversion.catalog.decls, ∀ type ∈ decl.body.types, ∀ ref,
      type.ref? = some ref → Resolver.Agrees conversion.catalog ref := by
    rw [h.catalog]
    intro decl hdecl type htype ref href
    exact ((h.idle.consistent.resolved decl hdecl).refs type htype ref href).agrees
  obtain ⟨decl, hdecl, htype⟩ := (h.merged hschema).mem_types hfield
  have hagrees := Catalog.shape_refs hdeclared (hdeclared decl hdecl _ htype) hshape ref rfl
  exact ⟨htypes, Catalog.compound_of_isCallable hagrees hcallable hconvertible⟩

theorem Completed.closedUnderCalls (h : Completed registry conversion t)
    (hfunctions : conversion.functions registry target = .ok functions) :
    ClosedUnderCalls functions := by
  have hcalled : ∀ caller ∈ functions, ∀ type ∈ caller.callees,
      ∃ function, functions.filter (·.type = type) = [function] ∧ ¬function.isStub := by
    intro caller hcaller type htype
    obtain ⟨htypes, style, fields, hcompound, hstyle⟩ :=
      h.compound_of_callee hfunctions hcaller htype
    obtain ⟨function, hfunction, rfl⟩ := h.exists_function hfunctions htypes
      (Option.isSome_iff_exists.mpr ⟨_, hcompound⟩)
    refine ⟨function, h.function_unique hfunctions hfunction, ?_⟩
    obtain ⟨schema, hschema, hmade⟩ := h.schema_of_mem hfunctions hfunction
    have hmerges := (h.merged hschema).style
    rw [hcompound] at hmerges
    rcases (Catalog.converterFunction_ok hmade).2 with ⟨hunion, -⟩ | ⟨-, blocks, hblocks, -⟩
    · exact absurd ((Option.some.inj hmerges).symm.trans hunion) hstyle
    · rw [ConverterFunction.isStub, hblocks]
      exact Bool.false_ne_true
  refine ⟨hcalled, ?_⟩
  intro stub hmem hstub caller hcaller htype
  obtain ⟨function, hunique, hfunction⟩ := hcalled caller hcaller _ htype
  rw [h.function_unique hfunctions hmem] at hunique
  obtain rfl := List.singleton_inj.mp hunique
  exact hfunction hstub

theorem Completed.target_of_mem (h : Completed registry conversion t)
    (hfunctions : conversion.functions registry target = .ok functions)
    {function : ConverterFunction} (hfunction : function ∈ functions) :
    function.target = target := by
  obtain ⟨schema, -, hmade⟩ := h.schema_of_mem hfunctions hfunction
  exact Catalog.target_of_converterFunction hmade

theorem Completed.calls (h : Completed registry conversion t)
    (hfunctions : conversion.functions registry target = .ok functions)
    {caller : ConverterFunction} (hcaller : caller ∈ functions) {block : FieldBlock}
    (hblock : block ∈ caller.fieldBlocks) : caller.Calls conversion.catalog block := by
  obtain ⟨field, -, -, -, hfieldBlock⟩ := h.fieldBlock_of_mem hfunctions hcaller hblock
  refine ⟨fun type hcall => ⟨?_, block.lines_of_call hcall _ _ _⟩, fun type hlines => ?_⟩
  · obtain ⟨-, ref, hshape, href, -⟩ := Catalog.shape_of_call hfieldBlock hcall
    obtain ⟨descriptor, -, rfl⟩ := Outcome.except_map_ok_iff.mp hfieldBlock
    exact ⟨ref, hshape, href⟩
  · exact block.call_or_snippet_of_lines hlines

/-- The source that is generated for these functions. -/
theorem Completed.source (h : Completed registry conversion t)
    (hfunctions : conversion.functions registry target = .ok functions) :
    ∃ source, conversion.files.text? (target.sourceFile conversion.name) = some source ∧
      Converter.Defines target source functions := by
  obtain ⟨same, hsame, htexts⟩ := h.converterTexts target
  obtain rfl := Except.ok.inj (hsame.symm.trans hfunctions)
  unfold Catalog.converterTexts at htexts
  cases target with
  | ndk | cpp =>
      simp only [Target.headerFile?, List.forall_mem_cons] at htexts
      exact ⟨_, htexts.2.1, _, Converter.definesCpp_cppText _ _ _⟩
  | java =>
      simp only [Target.headerFile?, List.forall_mem_cons] at htexts
      exact ⟨_, htexts.1, Converter.definesJava_javaText _ fun function hfunction =>
        h.target_of_mem hfunctions hfunction⟩

/-- **Closed sources.** For every target, the functions of the generated source call only functions
that are in the source, once each, and that are not stubs. A call is made for each field whose type,
unfolded, is converted by the called function. The header, if the target has one, declares the
functions that are not stubs, in the order of the source. -/
theorem sources_closed (repository : Repository) (hread : repository.Faithful) (request : String)
    (force : Bool) (registry : Registry) (conversion : Conversion) (t : Resolver)
    (h : run request force registry { repository } = .ok conversion t) (target : Target) :
    ∃ functions source, conversion.functions registry target = .ok functions ∧
      ClosedUnderCalls functions ∧
      (∀ caller ∈ functions, caller.target = target ∧
        ∀ block ∈ caller.fieldBlocks, caller.Calls conversion.catalog block) ∧
      conversion.files.text? (target.sourceFile conversion.name) = some source ∧
      Converter.Defines target source functions ∧
      ∀ file, target.headerFile? conversion.name = some file →
        ∃ header, conversion.files.text? ("include/" ++ file) = some header ∧
          Converter.Declares header ((functions.filter fun function => !function.isStub).map
            fun function => target.head function.type) := by
  obtain ⟨hcompleted, -⟩ := run_completed hread h
  obtain ⟨functions, hfunctions, htexts⟩ := hcompleted.converterTexts target
  obtain ⟨source, hsource, hdefines⟩ := hcompleted.source hfunctions
  refine ⟨functions, source, hfunctions, hcompleted.closedUnderCalls hfunctions, ?_, hsource,
    hdefines, ?_⟩
  · intro caller hcaller
    exact ⟨hcompleted.target_of_mem hfunctions hcaller,
      fun block hblock => hcompleted.calls hfunctions hcaller hblock⟩
  · intro file hfile
    unfold Catalog.converterTexts at htexts
    simp only [hfile, List.forall_mem_cons] at htexts
    have hheads : (functions.filter fun function => !function.isStub).map
          (fun function => function.target.head function.type) =
        (functions.filter fun function => !function.isStub).map
          (fun function => target.head function.type) := by
      refine List.map_congr_left fun function hfunction => ?_
      rw [hcompleted.target_of_mem hfunctions (List.mem_of_mem_filter hfunction)]
    refine ⟨_, htexts.1, ?_⟩
    rw [← hheads]
    exact Converter.declares_headerText _ functions

/-- A release with a structure that has a field of its own type, under another name. -/
def linkedNodes : Repository :=
  Sample.repository [Sample.release "p" "1.0"
    [Sample.struct "Node" [("next", Sample.named "Link")],
      Sample.typeAlias "Link" (Sample.named "Node")]]
where
  node : QualifiedName := ⟨"p", ⟨1, 0⟩, some "Node", []⟩

/-- Its one function calls itself. -/
theorem sources_closed_linkedNodes :
    ∃ conversion t, run "p@1.0" false .default { repository := linkedNodes } = .ok conversion t ∧
      ∃ functions source, conversion.functions .default .ndk = .ok functions ∧
        functions.map ConverterFunction.callees = [[linkedNodes.node]] ∧
        ClosedUnderCalls functions ∧
        conversion.files.text? (Target.ndk.sourceFile conversion.name) = some source ∧
        Converter.Defines .ndk source functions ∧
        source = licenseLine
          ++ "\n#include \"p/translate-ndk.h\"\n\nnamespace android::h2a \x7b\n\n"
          ++ "__attribute__((warn_unused_result)) bool translate(const ::p::V1_0::Node& in, "
          ++ "aidl::p::Node* out) \x7b\n"
          ++ "    if (!translate(in.next, &out->next)) return false;\n    return true;\n\x7d\n\n"
          ++ "\x7d  // namespace android::h2a\n" := by
  have hfound :
      Outcome.view (fun conversion _ =>
          ((conversion.functions .default .ndk).toOption.map (·.map ConverterFunction.callees),
            conversion.files.text? (Target.ndk.sourceFile conversion.name)))
        (run "p@1.0" false .default { repository := linkedNodes }) =
        some (some [[linkedNodes.node]], some (licenseLine
          ++ "\n#include \"p/translate-ndk.h\"\n\nnamespace android::h2a \x7b\n\n"
          ++ "__attribute__((warn_unused_result)) bool translate(const ::p::V1_0::Node& in, "
          ++ "aidl::p::Node* out) \x7b\n"
          ++ "    if (!translate(in.next, &out->next)) return false;\n    return true;\n\x7d\n\n"
          ++ "\x7d  // namespace android::h2a\n")) := by
    decide +kernel
  obtain ⟨conversion, t, hrun, hfound⟩ := Outcome.of_view hfound
  obtain ⟨hcalls, htext⟩ := Prod.mk.inj hfound
  obtain ⟨functions, source, hfunctions, hclosed, -, hsource, hdefines, -⟩ :=
    sources_closed linkedNodes (Repository.faithful_of_read_eq_nil rfl) "p@1.0" false .default
      conversion t hrun .ndk
  rw [hfunctions] at hcalls
  exact ⟨conversion, t, hrun, functions, source, hfunctions, Option.some.inj hcalls, hclosed,
    hsource, hdefines, Option.some.inj (hsource.symm.trans htext)⟩

end Conversion

end HalBridge
