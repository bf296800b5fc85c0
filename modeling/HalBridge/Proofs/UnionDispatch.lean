import HalBridge.Proofs.ConverterCalls

/-!
# The dispatch of a safe union

The converter function of a safe union is a dispatch over its discriminator, with one case for each
merged field. Merging splices the fields of the versions that the union embeds, so the cases are
the tags of the union itself only if it embeds no version: an embedded version has cases for its
fields and none for the field that holds it.
-/

namespace HalBridge

open Merge

/-- The expression that the case for a field of a safe union reads. -/
def FieldBlock.source (block : FieldBlock) : String :=
  Access.accessor.read (Text.orNone block.field.access)

/-- The names in the labels of the cases of a dispatch, in order. -/
def ConverterFunction.tags (function : ConverterFunction) : List String :=
  function.fieldBlocks.map FieldBlock.name

/-- The labels of the cases of a dispatch, in order. -/
def ConverterFunction.labels (function : ConverterFunction) : List String :=
  function.tags.map (function.target.label function.type)

namespace Catalog

variable {catalog : Catalog} {q : QualifiedName}

/-! ### The paths of a walk -/

namespace Expands

variable {seen seen' : List QualifiedName} {path : String} {fields : List Field}
  {steps : List Step}

/-- A field is met at the end of the path, or in a version that is entered on the way. -/
theorem met_cases (h : catalog.Expands seen q path fields seen' steps) {met : Field}
    (hmet : met ∈ steps.filterMap Step.field?) :
    (∃ field ∈ fields, met = { field with access := field.name.map (path ++ ·) }) ∨
      ∃ t, t ∉ seen ∧ ∃ field ∈ catalog.fieldsOf t, met.owner = field.owner := by
  induction h with
  | done => cases hmet
  | @plain seen q path field rest seen' steps _ _ ih =>
      rw [List.filterMap_cons] at hmet
      rcases List.mem_cons.mp hmet with rfl | hmet
      · exact Or.inl ⟨field, List.mem_cons_self, rfl⟩
      · rcases ih hmet with ⟨later, hlater, heq⟩ | hentered
        · exact Or.inl ⟨later, List.mem_cons_of_mem _ hlater, heq⟩
        · exact Or.inr hentered
  | back _ _ _ ih =>
      rcases ih hmet with ⟨later, hlater, heq⟩ | hentered
      · exact Or.inl ⟨later, List.mem_cons_of_mem _ hlater, heq⟩
      · exact Or.inr hentered
  | @descend seen q path field rest target seen' seen'' inner outer _ hnew hinner _ ihin ihout =>
      rw [List.filterMap_append] at hmet
      rcases List.mem_append.mp hmet with hmet | hmet
      · rcases ihin hmet with ⟨below, hbelow, rfl⟩ | ⟨t, ht, hfield⟩
        · exact Or.inr ⟨target, hnew, below, hbelow, rfl⟩
        · exact Or.inr ⟨t, fun hseen => ht (List.mem_append_left _ hseen), hfield⟩
      · rcases ihout hmet with ⟨later, hlater, heq⟩ | ⟨t, ht, hfield⟩
        · exact Or.inl ⟨later, List.mem_cons_of_mem _ hlater, heq⟩
        · refine Or.inr ⟨t, fun hseen => ht ?_, hfield⟩
          exact hinner.mem_of_mem (List.mem_append_left _ hseen)

/-- Without version references the walk meets the fields as they stand. -/
theorem met_of_plain (h : catalog.Expands seen q path fields seen' steps)
    (hplain : ∀ field ∈ fields, catalog.versionTarget? q field = none) :
    steps.filterMap Step.field? =
      fields.map fun field => { field with access := field.name.map (path ++ ·) } := by
  induction h with
  | done => rfl
  | plain _ _ ih =>
      rw [List.filterMap_cons, List.map_cons, ← ih (List.forall_mem_of_forall_mem_cons hplain)]
      rfl
  | back htarget _ _ _ | descend htarget _ _ _ _ _ =>
      rw [hplain _ List.mem_cons_self] at htarget
      cases htarget

end Expands

section Merged

variable {schema : MergedSchema} {field : Field}

theorem MergesTo.walk_expands (h : catalog.MergesTo q schema) :
    catalog.Expands [q] q "" (catalog.fieldsOf q) (catalog.walk q).entered
      (catalog.walk q).steps := by
  obtain ⟨fields, hcompound⟩ := h.compound
  exact Catalog.walk_expands (by rw [hcompound]; rfl)

theorem MergesTo.mem_walk (h : catalog.MergesTo q schema) (hfield : field ∈ schema.fields) :
    field ∈ (catalog.walk q).fields := by
  obtain ⟨before, after, hmet, -⟩ := h.newest field hfield
  rw [hmet]
  exact List.mem_append_right before List.mem_cons_self

/-- A merged field that the type itself declares is reached by its own name. -/
theorem MergesTo.access_of_own (h : catalog.MergesTo q schema)
    (howned : ∀ t, ∀ field ∈ catalog.fieldsOf t, field.owner = t)
    (hfield : field ∈ schema.fields) (hown : field.owner = q) : field.access = field.name := by
  rcases h.walk_expands.met_cases (h.mem_walk hfield) with
    ⟨declared, -, rfl⟩ | ⟨t, ht, other, hother, heq⟩
  · simp
  · rw [hown, howned t other hother] at heq
    exact absurd (List.mem_singleton.mpr heq.symm) ht

theorem MergesTo.names_of_plain (h : catalog.MergesTo q schema)
    (hplain : ∀ field ∈ catalog.fieldsOf q, catalog.versionTarget? q field = none)
    (hdistinct : ((catalog.fieldsOf q).map Field.name).Nodup) :
    schema.fields.map Field.name = (catalog.fieldsOf q).map Field.name := by
  have hnames : (catalog.walk q).fields.map Field.name =
      (catalog.fieldsOf q).map Field.name := by
    rw [Walk.fields, h.walk_expands.met_of_plain hplain, List.map_map]
    rfl
  have hordered := h.ordered
  rw [hnames] at hordered
  exact hordered.eq_of_nodup hdistinct

theorem MergesTo.access_of_plain (h : catalog.MergesTo q schema)
    (hplain : ∀ field ∈ catalog.fieldsOf q, catalog.versionTarget? q field = none)
    (hfield : field ∈ schema.fields) : field.access = field.name := by
  have hmet := h.mem_walk hfield
  rw [Walk.fields, h.walk_expands.met_of_plain hplain] at hmet
  obtain ⟨declared, -, rfl⟩ := List.mem_map.mp hmet
  simp

/-- What is merged is declared in a version that is reached. -/
theorem MergesTo.exists_declared (h : catalog.MergesTo q schema) (hfield : field ∈ schema.fields) :
    ∃ t, catalog.Reaches q t ∧ ∃ declared ∈ catalog.plainFields t,
      declared.name = field.name ∧ declared.type = field.type := by
  obtain ⟨fields, hcompound⟩ := h.compound
  have hq : (catalog.compound? q).isSome := by rw [hcompound]; rfl
  have hmet := List.mem_map_of_mem (f := Field.withoutAccess) (h.mem_walk hfield)
  rw [(fields_walk_perm hq).mem_iff] at hmet
  obtain ⟨declared, hdeclared, hsame⟩ := List.mem_map.mp hmet
  obtain ⟨t, ht, hdeclared⟩ := List.mem_flatMap.mp hdeclared
  exact ⟨t, (mem_entered_walk_iff hq t).mp ht, declared, hdeclared,
    congrArg (fun field => field.name) hsame, congrArg (fun field => field.type) hsame⟩

end Merged

/-! ### The function -/

/-- The cases of the function are the tags that `q` itself declares, and every value is read by
accessors alone, from the union down. -/
structure CoversDiscriminator (catalog : Catalog) (q : QualifiedName)
    (function : ConverterFunction) : Prop where
  tags : (function.tags.map some).Perm ((catalog.fieldsOf q).map Field.name)
  sources : ∀ block ∈ function.fieldBlocks, ∃ path : List String,
    (∀ step ∈ path, ∃ t, catalog.Reaches q t ∧ some step ∈ (catalog.fieldsOf t).map Field.name) ∧
      block.source = "in" ++ String.join (path.map fun step => "." ++ step ++ "()")

/-- The body of the function is a dispatch with one case for each merged field. -/
structure Dispatches (catalog : Catalog) (target : Target) (q : QualifiedName)
    (schema : MergedSchema) (function : ConverterFunction) : Prop where
  fields : function.fieldBlocks.map FieldBlock.field = schema.fields
  body : function.body? = some (target.prologue q ++ [Target.switchOpen] ++
    function.fieldBlocks.flatMap (fun block =>
      (Text.indentation ++ target.label q block.name) ::
        Text.indentLines (Text.indentLines
          (block.plan.lines target .accessor q block.source block.name)) ++
        [Text.indentation ++ Text.indentation ++ "break;"]) ++
    Text.indentLines target.defaultCase ++ ["\x7d", target.epilogue])
  distinct : function.labels.Nodup
  reached : ∀ tag, tag ∈ function.tags ↔
    ∃ t, catalog.Reaches q t ∧ ∃ field ∈ catalog.plainFields t, field.name = some tag
  labels : ∀ tag, target.label q tag ∈ function.labels ↔
    ∃ t, catalog.Reaches q t ∧ ∃ field ∈ catalog.plainFields t, field.name = some tag
  own : (∀ t, ∀ field ∈ catalog.fieldsOf t, field.owner = t) →
    ∀ block ∈ function.fieldBlocks, block.field.owner = q →
      block.source = "in." ++ block.name ++ "()"
  covers : (∀ field ∈ catalog.fieldsOf q, catalog.versionTarget? q field = none) →
    ((catalog.fieldsOf q).map Field.name).Nodup →
    function.tags.map some = (catalog.fieldsOf q).map Field.name ∧
      catalog.CoversDiscriminator q function

section Emitted

variable {schema : MergedSchema} {blocks : List FieldBlock}

theorem converterFunction_of_safeUnion (target : Target) (converted : QualifiedName → Bool)
    (registry : Registry) (hstyle : schema.style = .safeUnion)
    (hfields : ∀ field ∈ schema.fields,
      ∃ descriptor, catalog.describe field.type = .ok descriptor) :
    ∃ blocks, blocks.map FieldBlock.field = schema.fields ∧
      catalog.converterFunction target converted registry schema =
        .ok { target, type := schema.name, access := .accessor, blocks := some blocks } := by
  have hblock : ∀ field ∈ schema.fields,
      ∃ block, catalog.fieldBlock converted registry field = .ok block := by
    intro field hfield
    obtain ⟨descriptor, hdescriptor⟩ := hfields field hfield
    exact ⟨_, by rw [fieldBlock, hdescriptor]; rfl⟩
  obtain ⟨blocks, hblocks⟩ := Outcome.mapM_ok hblock
  refine ⟨blocks, map_field_of_mapM hblocks, ?_⟩
  unfold converterFunction
  rw [hstyle]
  simp only [hblocks]
  rfl

/-- The tags are the names of the merged fields. -/
theorem map_some_tags (function : ConverterFunction)
    (hblocks : function.fieldBlocks.map FieldBlock.field = schema.fields)
    (hnamed : ∀ field ∈ schema.fields, field.name ≠ none) :
    function.tags.map some = schema.fields.map Field.name := by
  rw [← hblocks] at hnamed ⊢
  rw [ConverterFunction.tags, List.map_map, List.map_map]
  refine List.map_congr_left ?_
  intro block hblock
  obtain ⟨name, hname⟩ :=
    Option.ne_none_iff_exists'.mp (hnamed block.field (List.mem_map_of_mem hblock))
  simp [FieldBlock.name, hname, Text.orNone]

theorem source_of_access {block : FieldBlock} (h : block.field.access = block.field.name) :
    block.source = "in." ++ block.name ++ "()" := by
  rw [FieldBlock.source, h]
  rfl

theorem MergesTo.dispatches (target : Target) (h : catalog.MergesTo q schema)
    (hnamed : ∀ field ∈ schema.fields, field.name ≠ none)
    (hblocks : blocks.map FieldBlock.field = schema.fields) :
    catalog.Dispatches target q schema
      { target, type := schema.name, access := .accessor, blocks := some blocks } := by
  have htags := map_some_tags
    { target, type := schema.name, access := .accessor, blocks := some blocks } hblocks hnamed
  have hfield : ∀ block ∈ blocks, block.field ∈ schema.fields := by
    intro block hblock
    rw [← hblocks]
    exact List.mem_map_of_mem hblock
  have hreached : ∀ tag, tag ∈ blocks.map FieldBlock.name ↔
      ∃ t, catalog.Reaches q t ∧ ∃ field ∈ catalog.plainFields t, field.name = some tag := by
    intro tag
    rw [← h.present (some tag), ← List.mem_map, ← htags, List.mem_map]
    simp [ConverterFunction.tags, ConverterFunction.fieldBlocks]
  refine ⟨hblocks, ?_, ?_, hreached, ?_, ?_, ?_⟩
  · simp only [← Target.caseLabel_eq_label, ← h.name]
    rfl
  · have hnodup := h.ordered.nodup
    rw [← htags] at hnodup
    exact (hnodup.of_map some).map (target.label_injective schema.name)
  · intro tag
    rw [← hreached tag, ← h.name]
    exact List.mem_map_of_injective (target.label_injective schema.name)
  · intro howned block hblock hown
    exact source_of_access (h.access_of_own howned (hfield block hblock) hown)
  · intro hplain hdistinct
    rw [h.names_of_plain hplain hdistinct] at htags
    refine ⟨htags, htags ▸ List.Perm.rfl, ?_⟩
    intro block hblock
    refine ⟨[block.name], ?_, ?_⟩
    · intro step hstep
      refine ⟨q, Relation.ReflTransGen.refl, ?_⟩
      rw [List.mem_singleton.mp hstep, ← htags]
      exact List.mem_map_of_mem (List.mem_map_of_mem hblock)
    · rw [source_of_access (h.access_of_plain hplain (hfield block hblock))]
      simp [← String.append_assoc]

end Emitted

/-- The function of a safe union dispatches over the merged fields: its labels are pairwise
different and name the fields of the versions reached, in the order of merging, and a field of the
union itself is read by its accessor. The cases of a union that embeds no version are the tags it
declares. No function is emitted only if a field has no name or a type without a description. -/
theorem dispatches_safeUnion (catalog : Catalog) (q : QualifiedName) (fields : List Field)
    (hq : catalog.compound? q = some (.safeUnion, fields)) (notes : Notes) (target : Target)
    (converted : QualifiedName → Bool) (registry : Registry) :
    (∃ schema after function, catalog.merge q notes = .ok (schema, after) ∧
      catalog.converterFunction target converted registry schema = .ok function ∧
      catalog.Dispatches target q schema function) ∨
    ∃ t, catalog.Reaches q t ∧ ∃ field ∈ catalog.plainFields t,
      field.name = none ∨ ∃ fault, catalog.describe field.type = .error fault := by
  have hcompound : (catalog.compound? q).isSome := by rw [hq]; rfl
  by_cases hfault : ∃ t, catalog.Reaches q t ∧ ∃ field ∈ catalog.plainFields t,
      field.name = none ∨ ∃ fault, catalog.describe field.type = .error fault
  · exact Or.inr hfault
  · left
    have hnamed : ∀ field ∈ (catalog.walk q).fields, field.name ≠ none := by
      intro field hfield hnone
      obtain ⟨t, ht, declared, hdeclared, hname⟩ :=
        (exists_met_iff hcompound none).mp ⟨field, hfield, hnone⟩
      exact hfault ⟨t, ht, declared, hdeclared, Or.inl hname⟩
    obtain ⟨schema, after, hmerge, hmerges⟩ := merge_eq_ok hcompound notes hnamed
    have hdescribed : ∀ field ∈ schema.fields,
        ∃ descriptor, catalog.describe field.type = .ok descriptor := by
      intro field hfield
      obtain ⟨t, ht, declared, hdeclared, -, htype⟩ := hmerges.exists_declared hfield
      cases hdescribe : catalog.describe field.type with
      | ok descriptor => exact ⟨descriptor, rfl⟩
      | error fault =>
          rw [← htype] at hdescribe
          exact absurd ⟨t, ht, declared, hdeclared, Or.inr ⟨fault, hdescribe⟩⟩ hfault
    have hstyle : schema.style = .safeUnion := by
      have hstyle := hmerges.style
      rw [hq] at hstyle
      exact Option.some.inj hstyle
    obtain ⟨blocks, hblocks, hfunction⟩ :=
      converterFunction_of_safeUnion target converted registry hstyle hdescribed
    have hmerged : ∀ field ∈ schema.fields, field.name ≠ none :=
      fun field hfield => hnamed field (hmerges.mem_walk hfield)
    exact ⟨schema, after, _, hmerge, hfunction, hmerges.dispatches target hmerged hblocks⟩

/-- Two versions of a safe union: 1.1 embeds 1.0 and adds a tag. -/
def embeddedUnion : Catalog :=
  ⟨[release 0 [("x", .scalar .int32)],
    release 1 [("v1_0", .named (.declared (name 0))), ("a", .scalar .int32)]]⟩
where
  name (minor : Nat) : QualifiedName := ⟨"p", ⟨1, minor⟩, some "U", []⟩
  release (minor : Nat) (fields : List (String × Ty)) : Decl :=
    { name := name minor, comment := none, scopes := [], subTypes := []
      body := .compound .safeUnion (fields.map fun (field, type) =>
        { name := some field, type, owner := name minor, origin := ⟨1, minor⟩
          access := some field, comment := none }) }

theorem dispatches_embeddedUnion :
    embeddedUnion.compound? (embeddedUnion.name 1) =
        some (.safeUnion, embeddedUnion.fieldsOf (embeddedUnion.name 1)) ∧
      ∃ schema after function,
        embeddedUnion.merge (embeddedUnion.name 1) {} = .ok (schema, after) ∧
        embeddedUnion.converterFunction .ndk (fun _ => true) .default schema = .ok function ∧
        embeddedUnion.Dispatches .ndk (embeddedUnion.name 1) schema function := by
  have hq : embeddedUnion.compound? (embeddedUnion.name 1) =
      some (.safeUnion, embeddedUnion.fieldsOf (embeddedUnion.name 1)) := rfl
  refine ⟨hq, ?_⟩
  rcases dispatches_safeUnion embeddedUnion (embeddedUnion.name 1) _ hq {} .ndk (fun _ => true)
    .default with hok | ⟨t, hreach, field, hfield, hfault⟩
  · exact hok
  · have hsound : ∀ t ∈ (embeddedUnion.walk (embeddedUnion.name 1)).entered,
        ∀ field ∈ embeddedUnion.plainFields t,
          field.name ≠ none ∧ (embeddedUnion.describe field.type).isOk := by
      decide +kernel
    obtain ⟨hname, hdescribe⟩ :=
      hsound t ((mem_entered_walk_iff (by rw [hq]; rfl) t).mpr hreach) field hfield
    rcases hfault with hnone | ⟨fault, hfault⟩
    · exact absurd hnone hname
    · rw [hfault] at hdescribe
      cases hdescribe

/-- The field that holds the older version has no case, and the tag of the older version has one
although the newer one does not declare it. -/
theorem not_coversDiscriminator_embeddedUnion :
    ((embeddedUnion.fieldsOf (embeddedUnion.name 1)).map Field.name).Nodup ∧
      ∃ schema after function,
        embeddedUnion.merge (embeddedUnion.name 1) {} = .ok (schema, after) ∧
        embeddedUnion.converterFunction .ndk (fun _ => true) .default schema = .ok function ∧
        function.tags = ["x", "a"] ∧
        ¬embeddedUnion.CoversDiscriminator (embeddedUnion.name 1) function := by
  have hdeclared : (embeddedUnion.fieldsOf (embeddedUnion.name 1)).map Field.name =
      [some "v1_0", some "a"] := rfl
  have htags :
      (match embeddedUnion.merge (embeddedUnion.name 1) {} with
        | .ok (schema, _) =>
            (embeddedUnion.converterFunction .ndk (fun _ => true) .default schema).toOption.map
              ConverterFunction.tags
        | .error _ => none) = some ["x", "a"] := by
    decide +kernel
  refine ⟨by rw [hdeclared]; decide, ?_⟩
  cases hmerge : embeddedUnion.merge (embeddedUnion.name 1) {} with
  | error fault =>
      rw [hmerge] at htags
      cases htags
  | ok merged =>
      obtain ⟨schema, after⟩ := merged
      simp only [hmerge] at htags
      cases hfunction :
          embeddedUnion.converterFunction .ndk (fun _ => true) .default schema with
      | error fault =>
          rw [hfunction] at htags
          cases htags
      | ok function =>
          rw [hfunction] at htags
          have htags : function.tags = ["x", "a"] := Option.some.inj htags
          refine ⟨schema, after, function, rfl, hfunction, htags, ?_⟩
          intro hcovers
          have hperm := hcovers.tags
          rw [htags, hdeclared] at hperm
          exact absurd hperm (by decide)

end Catalog

end HalBridge
