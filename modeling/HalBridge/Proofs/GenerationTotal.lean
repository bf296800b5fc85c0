import HalBridge.Conversion.Run
import HalBridge.Proofs.MergeNewest
import HalBridge.Proofs.Outcomes
import HalBridge.Proofs.ShapeTotal

/-!
# Generating never fails

Once the types of a run are resolved, everything that is generated from them exists: compounds
merge if their fields have names, and definitions and converter functions need no more than the
shapes of types and the merged schemas.
-/

namespace HalBridge

/-- Whatever notes there are, the action gives a result with this property. -/
def Yields {α : Type} (action : Noting α) (P : α → Prop) : Prop :=
  ∀ notes, ∃ result after, action notes = .ok result after ∧ P result

section Yields

variable {α β : Type} {P : α → Prop} {Q : β → Prop}

theorem yields_pure {a : α} (h : P a) : Yields (pure a) P :=
  fun notes => ⟨a, notes, rfl, h⟩

theorem yields_modify (change : Notes → Notes) : Yields (modify change) fun _ => True :=
  fun notes => ⟨⟨⟩, change notes, rfl, trivial⟩

theorem Yields.bind {action : Noting α} {next : α → Noting β} (h : Yields action P)
    (hnext : ∀ a, P a → Yields (next a) Q) : Yields (action >>= next) Q := by
  intro notes
  obtain ⟨a, middle, ha, hP⟩ := h notes
  obtain ⟨b, after, hb, hQ⟩ := hnext a hP middle
  exact ⟨b, after, Outcome.bind_ok_iff.mpr ⟨a, middle, ha, hb⟩, hQ⟩

end Yields

namespace Catalog

/-- What generating needs of a catalogue. -/
structure Generable (catalog : Catalog) : Prop extends catalog.Unfoldable where
  named : ∀ q, ∀ field ∈ catalog.fieldsOf q, field.name ≠ none

variable {catalog : Catalog} {q : QualifiedName} {registry : Registry}

/-! ### Merging and collecting -/

theorem Generable.merge (h : catalog.Generable) (hq : (catalog.compound? q).isSome)
    (notes : Notes) : ∃ schema after, catalog.merge q notes = .ok (schema, after) := by
  have hnamed : ∀ field ∈ (catalog.walk q).fields, field.name ≠ none := by
    intro field hfield hnone
    obtain ⟨t, -, plain, hplain, hname⟩ :=
      (exists_met_iff hq none).mp ⟨field, hfield, hnone⟩
    exact h.named t plain (List.mem_of_mem_filter hplain) hname
  obtain ⟨schema, after, hmerge, -⟩ := merge_eq_ok hq notes hnamed
  exact ⟨schema, after, hmerge⟩

theorem Generable.nestedTypes (h : catalog.Generable) (q : QualifiedName) :
    ∃ nested, catalog.nestedTypes q = .ok nested := by
  unfold Catalog.nestedTypes
  cases hcompound : catalog.compound? q with
  | none => exact ⟨_, rfl⟩
  | some compound =>
      obtain ⟨schema, after, hmerge⟩ := h.merge (by rw [hcompound]; rfl) {}
      simp only [hmerge]
      exact ⟨_, rfl⟩

theorem Generable.collectAt (h : catalog.Generable) (depth : Nat) (q : QualifiedName)
    (collection : Collection) : ∃ after, catalog.collectAt depth q collection = .ok after := by
  induction depth generalizing q collection with
  | zero => exact ⟨collection, rfl⟩
  | succ depth ih =>
      unfold Catalog.collectAt
      split
      · exact ⟨collection, rfl⟩
      · obtain ⟨nested, hnested⟩ := h.nestedTypes q
        rw [hnested]
        exact Outcome.foldlM_ok fun collection q => ih q collection

theorem Generable.collectFrom (h : catalog.Generable) (roots : List QualifiedName)
    (collection : Collection) : ∃ after, catalog.collectFrom roots collection = .ok after :=
  Outcome.foldlM_ok fun collection q => h.collectAt catalog.decls.length q collection

theorem Generable.mergeNoting (h : catalog.Generable) (hq : (catalog.compound? q).isSome) :
    Yields (catalog.mergeNoting q) fun _ => True := by
  intro notes
  obtain ⟨schema, after, hmerge⟩ := h.merge hq notes
  refine ⟨schema, after, ?_, trivial⟩
  unfold Catalog.mergeNoting
  rw [Outcome.get_bind, hmerge]
  rfl

theorem Generable.mergeAll (h : catalog.Generable) (types : List QualifiedName) :
    Yields (catalog.mergeAll types) fun schemas =>
      ∀ q ∈ types, (catalog.compound? q).isSome → (schemas.lookup q).isSome := by
  induction types with
  | nil => exact yields_pure fun _ hq => absurd hq List.not_mem_nil
  | cons first rest ih =>
      unfold Catalog.mergeAll
      split
      · rename_i hfirst
        refine (h.mergeNoting hfirst).bind fun schema _ => ih.bind fun others hothers => ?_
        refine yields_pure ?_
        intro q hq hcompound
        rw [List.lookup_cons]
        split
        · rfl
        · rename_i hother
          rcases List.mem_cons.mp hq with rfl | hq
          · simp at hother
          · exact hothers q hq hcompound
      · rename_i hfirst
        refine fun notes => ?_
        obtain ⟨schemas, after, hrest, hall⟩ := ih notes
        refine ⟨schemas, after, hrest, ?_⟩
        intro q hq hcompound
        rcases List.mem_cons.mp hq with rfl | hq
        · exact absurd hcompound hfirst
        · exact hall q hq hcompound

/-! ### Definitions -/

theorem Generable.members (h : catalog.Generable) (owner : QualifiedName) (fields : List Field) :
    Yields (Aidl.members catalog registry owner fields) fun _ => True := by
  induction fields with
  | nil => exact yields_pure trivial
  | cons field rest ih =>
      unfold Aidl.members
      obtain ⟨shape, hshape⟩ := h.shape field.type
      rw [hshape]
      refine (yields_modify _).bind fun _ _ => ih.bind fun _ _ => ?_
      exact yields_pure trivial

theorem Generable.compoundDefinition (h : catalog.Generable) (ref : Ref) (schema : MergedSchema)
    (outline : Aidl.Definition) :
    Yields (Aidl.compoundDefinition catalog registry ref schema outline) fun _ => True := by
  unfold Aidl.compoundDefinition
  cases schema.style with
  | union => exact (yields_modify _).bind fun _ _ => yields_pure trivial
  | struct => exact (h.members _ _).bind fun _ _ => yields_pure trivial
  | safeUnion => exact (h.members _ _).bind fun _ _ => yields_pure trivial

/-- A definition fails neither for its scalar nor, if a compound has its schema, for that. -/
theorem Generable.definition (h : catalog.Generable) {schema : Option MergedSchema}
    (hschema : (catalog.compound? q).isSome → schema.isSome) :
    Yields (Aidl.definition catalog registry (.declared q) schema) fun _ => True := by
  unfold Aidl.definition
  have hfind : catalog.decl? (.declared q) = catalog.find? q := rfl
  simp only [hfind]
  cases hbody : (catalog.find? q).map Decl.body with
  | none => exact (yields_modify _).bind fun _ _ => yields_pure trivial
  | some body =>
      cases body with
      | interface => exact (yields_modify _).bind fun _ _ => yields_pure trivial
      | typedef aliased => exact (yields_modify _).bind fun _ _ => yields_pure trivial
      | enum storage values =>
          have hstorage : catalog.storage? q = some storage := by rw [storage?, hbody]
          obtain ⟨scalar, hscalar⟩ := ((h.chains q).enum storage hstorage).enumScalar hstorage
          simp only [Ref.name, hscalar]
          exact yields_pure trivial
      | compound style fields =>
          have hcompound : catalog.compound? q = some (style, fields) := by rw [compound?, hbody]
          obtain ⟨merged, rfl⟩ :=
            Option.isSome_iff_exists.mp (hschema (by rw [hcompound]; rfl))
          exact h.compoundDefinition _ merged _

theorem Generable.aidlFiles (h : catalog.Generable)
    {schemas : List (QualifiedName × MergedSchema)} {types : List QualifiedName}
    (hschemas : ∀ q ∈ types, (catalog.compound? q).isSome → (schemas.lookup q).isSome) :
    Yields (catalog.aidlFiles registry schemas types) fun _ => True := by
  induction types with
  | nil => exact yields_pure trivial
  | cons first rest ih =>
      unfold Catalog.aidlFiles
      refine (h.definition (hschemas first List.mem_cons_self)).bind fun _ _ => ?_
      refine (ih fun q hq => hschemas q (List.mem_cons_of_mem _ hq)).bind fun _ _ => ?_
      exact yields_pure trivial

/-! ### Converter functions -/

theorem Generable.converterFunction (h : catalog.Generable) (target : Target)
    (converted : QualifiedName → Bool) (schema : MergedSchema) :
    ∃ function, catalog.converterFunction target converted registry schema = .ok function := by
  have hblocks : ∃ blocks,
      schema.fields.mapM (catalog.fieldBlock converted registry) = .ok blocks := by
    refine Outcome.mapM_ok fun field _ => ?_
    obtain ⟨descriptor, hdescriptor⟩ := h.describe field.type
    rw [fieldBlock, hdescriptor]
    exact ⟨_, rfl⟩
  obtain ⟨blocks, hblocks⟩ := hblocks
  unfold Catalog.converterFunction
  cases schema.style with
  | union => exact ⟨_, rfl⟩
  | struct =>
      simp only [hblocks]
      exact ⟨_, rfl⟩
  | safeUnion =>
      simp only [hblocks]
      exact ⟨_, rfl⟩

theorem Generable.emitFunctions (h : catalog.Generable) (target : Target)
    (converted : QualifiedName → Bool) (schemas : List (QualifiedName × MergedSchema))
    (types : List Ref) :
    Yields (catalog.emitFunctions target converted schemas registry types) fun _ => True := by
  induction types with
  | nil => exact yields_pure trivial
  | cons ref rest ih =>
      unfold Catalog.emitFunctions
      cases schemas.lookup ref.name with
      | none => exact ih
      | some schema =>
          have hemit : Yields (catalog.emitFunction target converted registry schema)
              fun _ => True := by
            obtain ⟨function, hfunction⟩ := h.converterFunction target converted schema
            unfold Catalog.emitFunction
            rw [hfunction]
            exact (yields_modify _).bind fun _ _ => yields_pure trivial
          exact hemit.bind fun _ _ => ih.bind fun _ _ => yields_pure trivial

theorem Generable.converterFiles (h : catalog.Generable) (target : Target) (types : List Ref)
    (schemas : List (QualifiedName × MergedSchema)) :
    Yields (catalog.converterFiles target q types schemas registry) fun _ => True := by
  unfold Catalog.converterFiles
  refine (h.emitFunctions target _ schemas _).bind fun functions _ => ?_
  cases target.headerFile? q with
  | none => exact yields_pure trivial
  | some header => exact yields_pure trivial

theorem Generable.targetFiles (h : catalog.Generable) (types : List Ref)
    (schemas : List (QualifiedName × MergedSchema)) (targets : List Target) :
    Yields (catalog.targetFiles q types schemas registry targets) fun _ => True := by
  induction targets with
  | nil => exact yields_pure trivial
  | cons target rest ih =>
      unfold Catalog.targetFiles
      exact (h.converterFiles target types schemas).bind fun _ _ =>
        ih.bind fun _ _ => yields_pure trivial

theorem Generable.generate (h : catalog.Generable) (registry : Registry) (q : QualifiedName)
    (types : List QualifiedName) :
    Yields (catalog.generate registry q types) fun _ => True := by
  unfold Catalog.generate
  refine (h.mergeAll types).bind fun schemas hschemas => ?_
  refine (h.aidlFiles hschemas).bind fun _ _ => ?_
  refine (h.targetFiles _ schemas Target.all).bind fun _ _ => ?_
  exact yields_pure trivial

end Catalog

end HalBridge
