import HalBridge.Proofs.MemberImports
import HalBridge.Proofs.RegistryHistory
import HalBridge.Proofs.SampleDocuments
import HalBridge.Proofs.UnrelatedDocuments

/-!
# Replacements that nothing refers to

A run asks its registry about the named types at the bases of merged fields only: by name for
imports and for converter functions, by text for the spelling of members. So two registries that say
the same about these types give the same run. Whether a run fails does not depend on the registry at
all, so runs that fail do so with the same fault.
-/

namespace HalBridge

/-! ### Actions that fail alike -/

/-- Two actions fail for the same states, with the same fault, whatever notes there are. -/
def FailAlike {α β : Type} (x : Noting α) (y : Noting β) : Prop :=
  ∀ s t fault, (∃ u, x s = .error fault u) ↔ ∃ u, y t = .error fault u

/-- Two actions that are the same if `P` holds, and fail alike anyway. -/
structure Tied {α : Type} (P : Prop) (x y : Noting α) : Prop where
  same : P → x = y
  alike : FailAlike x y

section Ties

variable {α β γ δ : Type} {P Q : Prop} {x : Noting α} {y : Noting β}

theorem failAlike_pure (a : α) (b : β) : FailAlike (pure a) (pure b) := by
  intro s t fault
  constructor
  · rintro ⟨u, h⟩
    exact absurd h Outcome.pure_ne_error
  · rintro ⟨u, h⟩
    exact absurd h Outcome.pure_ne_error

theorem FailAlike.symm (h : FailAlike x y) : FailAlike y x :=
  fun s t fault => (h t s fault).symm

theorem FailAlike.bind_imp {f : α → Noting γ} {g : β → Noting δ} (h : FailAlike x y)
    (hnext : ∀ a b, FailAlike (f a) (g b)) {s t : Notes} {fault : Fault}
    (hfail : ∃ u, (x >>= f) s = .error fault u) : ∃ u, (y >>= g) t = .error fault u := by
  obtain ⟨u, hfail⟩ := hfail
  rcases Outcome.bind_error_iff.mp hfail with hx | ⟨a, v, hx, hf⟩
  · obtain ⟨w, hy⟩ := (h s t fault).mp ⟨u, hx⟩
    exact ⟨w, Outcome.bind_of_error hy⟩
  · cases hy : y t with
    | error other w =>
        obtain ⟨v', hx'⟩ := (h s t other).mpr ⟨w, hy⟩
        rw [hx] at hx'
        cases hx'
    | ok b w =>
        rw [Outcome.bind_of_ok hy]
        exact (hnext a b v w fault).mp ⟨u, hf⟩

theorem FailAlike.bind {f : α → Noting γ} {g : β → Noting δ} (h : FailAlike x y)
    (hnext : ∀ a b, FailAlike (f a) (g b)) : FailAlike (x >>= f) (y >>= g) :=
  fun _ _ _ => ⟨h.bind_imp hnext, h.symm.bind_imp fun b a => (hnext a b).symm⟩

theorem tied_pure {a b : α} (h : P → a = b) : Tied P (pure a : Noting α) (pure b) :=
  ⟨fun hP => by rw [h hP], failAlike_pure a b⟩

theorem tied_throw (fault : Fault) : Tied P (throw fault : Noting α) (throw fault) := by
  refine ⟨fun _ => rfl, fun s t other => ⟨?_, ?_⟩⟩
  · rintro ⟨u, h⟩
    exact ⟨t, Outcome.throw_error_iff.mpr ⟨(Outcome.throw_error_iff.mp h).1, rfl⟩⟩
  · rintro ⟨u, h⟩
    exact ⟨s, Outcome.throw_error_iff.mpr ⟨(Outcome.throw_error_iff.mp h).1, rfl⟩⟩

theorem tied_modify {change change' : Notes → Notes} (h : P → change = change') :
    Tied P (modify change : Noting PUnit) (modify change') := by
  refine ⟨fun hP => by rw [h hP], fun s t other => ⟨?_, ?_⟩⟩
  · rintro ⟨u, h⟩
    cases h
  · rintro ⟨u, h⟩
    cases h

/-- What follows may use that both actions gave the same, where they are the same. -/
theorem Tied.bind {x y : Noting α} {f g : α → Noting γ} (h : Tied P x y)
    (hnext : ∀ a b, Tied (P ∧ a = b ∧ ∃ s u, x s = .ok a u) (f a) (g b)) :
    Tied P (x >>= f) (y >>= g) := by
  refine ⟨fun hP => ?_, h.alike.bind fun a b => (hnext a b).alike⟩
  rw [← h.same hP]
  funext s
  cases hx : x s with
  | error fault u => rw [Outcome.bind_of_error hx, Outcome.bind_of_error hx]
  | ok a u =>
      rw [Outcome.bind_of_ok hx, Outcome.bind_of_ok hx]
      exact congrFun ((hnext a a).same ⟨hP, rfl, s, u, hx⟩) u

theorem Tied.imp {x y : Noting α} (h : Tied P x y) (hQ : Q → P) : Tied Q x y :=
  ⟨fun hq => h.same (hQ hq), h.alike⟩

end Ties

/-! ### One field -/

theorem Ty.base_eq_named_iff {type : Ty} {ref : Ref} :
    type.base = .named ref ↔ type.ref? = some ref := by
  induction type with
  | vec element ih => exact ih
  | array element size ih => exact ih
  | named r => simp [Ty.base, Ty.ref?]
  | scalar | string | special => simp [Ty.base, Ty.ref?]

theorem Shape.type_base {shape : Shape} {ref : Ref} (h : shape.base = .named ref) :
    shape.type.base = .named ref := by
  induction shape with
  | vec element label ih => exact ih h
  | array element size label ih => exact ih h
  | named r =>
      obtain rfl := Shape.named.inj h
      rfl
  | scalar | string | special => cases h

namespace Registry

variable {first second : Registry} {owner : QualifiedName} {shape : Shape}

/-- Two registries have the same about the type at the base of a shape, by its name and by its
text. -/
def AgreesOn (first second : Registry) (shape : Shape) : Prop :=
  ∀ ref, shape.base = .named ref → first.lookup ref.name = second.lookup ref.name ∧
    first.aidlNames.lookup ref.name.toText = second.aidlNames.lookup ref.name.toText

theorem AgreesOn.aidlText_eq (h : first.AgreesOn second shape) :
    shape.aidlText owner first.aidlNames = shape.aidlText owner second.aidlNames := by
  induction shape with
  | scalar | string => rfl
  | special special => cases special <;> rfl
  | vec element label ih | array element size label ih =>
      rw [Shape.aidlText, Shape.aidlText, ih h]
  | named ref =>
      rw [Shape.aidlText, Shape.aidlText, QualifiedName.aidlText, QualifiedName.aidlText,
        (h ref rfl).2]

theorem AgreesOn.import_eq (h : first.AgreesOn second shape) :
    shape.import? owner first = shape.import? owner second := by
  unfold Shape.import?
  cases hbase : shape.base with
  | named ref => simp only [(h ref hbase).1]
  | special special => cases special <;> rfl
  | scalar | string | vec | array => rfl

theorem AgreesOn.member_eq (h : first.AgreesOn second shape) (field : Field) :
    Aidl.member first owner field shape = Aidl.member second owner field shape := by
  rw [Aidl.member, Aidl.member, h.aidlText_eq]

/-- Only a type that a converter function may be called for is looked up for a plan. -/
theorem plan_eq {descriptor : Descriptor} {converted : QualifiedName → Bool}
    (h : ∀ q, descriptor.callee? = some q → first.lookup q = second.lookup q) :
    FieldPlan.of converted first descriptor = FieldPlan.of converted second descriptor := by
  cases descriptor with
  | record q label => simp only [FieldPlan.of, FieldPlan.ofNamed, h q rfl]
  | union q safe label =>
      cases safe with
      | false => rfl
      | true => simp only [FieldPlan.of, FieldPlan.ofNamed, h q rfl]
  | scalar | enum | string | sequence | fixedArray | unsupported => rfl

end Registry

namespace Catalog

variable {catalog : Catalog} {first second : Registry} {fields : List Field}

/-- Two registries agree on the bases of all these fields, with typedefs unfolded. -/
def Agreeing (catalog : Catalog) (first second : Registry) (fields : List Field) : Prop :=
  ∀ field ∈ fields, ∀ shape, catalog.shape field.type = .ok shape → first.AgreesOn second shape

/-! ### Definitions -/

theorem members_tied (owner : QualifiedName) (fields : List Field) :
    Tied (catalog.Agreeing first second fields) (Aidl.members catalog first owner fields)
      (Aidl.members catalog second owner fields) := by
  induction fields with
  | nil => exact tied_pure fun _ => rfl
  | cons field rest ih =>
      unfold Aidl.members
      cases hshape : catalog.shape field.type with
      | error fault => exact tied_throw fault
      | ok shape =>
          refine (tied_modify fun _ => rfl).bind fun _ _ => ?_
          refine (ih.imp fun h => (List.forall_mem_cons.mp h.1).2).bind ?_
          rintro ⟨members, shapes⟩ ⟨members', shapes'⟩
          refine tied_pure ?_
          rintro ⟨⟨hagree, -⟩, hsame, -⟩
          obtain ⟨rfl, rfl⟩ := Prod.mk.inj hsame
          rw [(hagree field List.mem_cons_self shape hshape).member_eq]

/-- The shapes that come with the members are those of the fields. -/
theorem mem_shapes_of_members {registry : Registry} {owner : QualifiedName} {notes after : Notes}
    {members : List Aidl.Member} {shapes : List Shape}
    (h : Aidl.members catalog registry owner fields notes = .ok (members, shapes) after) :
    ∀ shape ∈ shapes, ∃ field ∈ fields, catalog.shape field.type = .ok shape := by
  -- Shapes of the fields give members together with these shapes, and members are made only once.
  have hshapes : ∀ field ∈ fields, ∃ shape, catalog.shape field.type = .ok shape := by
    intro field hfield
    obtain ⟨-, -, shape, hshape, -⟩ := Outcome.exists_of_forall₂ (Aidl.members_ok h) hfield
    exact ⟨shape, hshape⟩
  obtain ⟨found, hfound⟩ := Outcome.mapM_ok hshapes
  have hpairs := Outcome.forall₂_of_mapM hfound
  obtain ⟨hsame, -⟩ := EStateM.Result.ok.inj (h.symm.trans (Aidl.members_of_shapes hpairs notes))
  obtain ⟨-, rfl⟩ := Prod.mk.inj hsame
  exact fun shape hshape => Outcome.mem_of_mapM hfound hshape

theorem Agreeing.imports_eq (h : catalog.Agreeing first second fields) {owner : QualifiedName}
    {notes after : Notes} {members : List Aidl.Member} {shapes : List Shape}
    (hmembers : Aidl.members catalog first owner fields notes = .ok (members, shapes) after) :
    imports owner first shapes = imports owner second shapes := by
  have hneeds : ∀ shape ∈ shapes, shape.import? owner first = shape.import? owner second := by
    intro shape hshape
    obtain ⟨field, hfield, hmade⟩ := mem_shapes_of_members hmembers shape hshape
    exact (h field hfield shape hmade).import_eq
  rw [imports, imports, List.filterMap_congr hneeds]

theorem compoundDefinition_tied (ref : Ref) (schema : MergedSchema) (outline : Aidl.Definition) :
    Tied (catalog.Agreeing first second schema.fields)
      (Aidl.compoundDefinition catalog first ref schema outline)
      (Aidl.compoundDefinition catalog second ref schema outline) := by
  unfold Aidl.compoundDefinition
  cases schema.style with
  | union => exact (tied_modify fun _ => rfl).bind fun _ _ => tied_pure fun _ => rfl
  | struct | safeUnion =>
      dsimp only
      refine (members_tied ref.name schema.fields).bind ?_
      rintro ⟨members, shapes⟩ ⟨members', shapes'⟩
      refine tied_pure ?_
      rintro ⟨hagree, hsame, notes, after, hmembers⟩
      obtain ⟨rfl, rfl⟩ := Prod.mk.inj hsame
      rw [hagree.imports_eq hmembers]

theorem definition_tied (ref : Ref) (schema : Option MergedSchema) :
    Tied (∀ merged, schema = some merged → catalog.Agreeing first second merged.fields)
      (Aidl.definition catalog first ref schema) (Aidl.definition catalog second ref schema) := by
  unfold Aidl.definition
  dsimp only
  split
  · split
    · exact tied_throw _
    · exact tied_pure fun _ => rfl
  · cases schema with
    | none => exact tied_throw _
    | some schema => exact (compoundDefinition_tied ref schema _).imp fun h => h schema rfl
  · exact (tied_modify fun _ => rfl).bind fun _ _ => tied_pure fun _ => rfl
  · exact (tied_modify fun _ => rfl).bind fun _ _ => tied_pure fun _ => rfl

theorem aidlFiles_tied (schemas : List (QualifiedName × MergedSchema))
    (types : List QualifiedName) :
    Tied (∀ entry ∈ schemas, catalog.Agreeing first second entry.2.fields)
      (catalog.aidlFiles first schemas types) (catalog.aidlFiles second schemas types) := by
  induction types with
  | nil => exact tied_pure fun _ => rfl
  | cons q rest ih =>
      unfold aidlFiles
      refine ((definition_tied (.declared q) (schemas.lookup q)).imp ?_).bind fun made made' => ?_
      · exact fun h schema hschema => h (q, schema) (Conversion.mem_schemas_of_lookup hschema)
      refine (ih.imp And.left).bind fun others others' => tied_pure ?_
      rintro ⟨⟨-, rfl, -⟩, rfl, -⟩
      rfl

/-! ### Converter functions -/

variable {target : Target} {converted : QualifiedName → Bool}

/-- The blocks of fields are made from the descriptors, which do not depend on a registry. -/
theorem mapM_fieldBlock (registry : Registry) (fields : List Field) :
    fields.mapM (catalog.fieldBlock converted registry) =
      (fields.mapM fun field => catalog.describe field.type).map
        (List.zipWith (fun field descriptor =>
          { field, plan := FieldPlan.of converted registry descriptor }) fields) := by
  induction fields with
  | nil => rfl
  | cons field rest ih =>
      rw [List.mapM_cons, List.mapM_cons, ih, fieldBlock]
      cases catalog.describe field.type with
      | error fault => rfl
      | ok descriptor =>
          cases rest.mapM fun field => catalog.describe field.type with
          | error fault => rfl
          | ok descriptors => rfl

theorem Agreeing.plan_eq (h : catalog.Agreeing first second fields) {field : Field}
    (hfield : field ∈ fields) {descriptor : Descriptor}
    (hdescribe : catalog.describe field.type = .ok descriptor) :
    FieldPlan.of converted first descriptor = FieldPlan.of converted second descriptor := by
  apply Registry.plan_eq
  intro q hcallee
  obtain ⟨shape, hshape, hdescribe⟩ := Outcome.except_bind_ok_iff.mp hdescribe
  cases hmade : catalog.describeShape shape with
  | error chain =>
      rw [hmade] at hdescribe
      cases hdescribe
  | ok made =>
      rw [hmade] at hdescribe
      obtain rfl := Except.ok.inj hdescribe
      obtain ⟨ref, rfl, rfl, -⟩ := describeShape_callable hmade hcallee
      exact (h field hfield _ hshape ref rfl).1

theorem Agreeing.blocks_eq (h : catalog.Agreeing first second fields)
    {descriptors : List Descriptor}
    (hdescribe : (fields.mapM fun field => catalog.describe field.type) = .ok descriptors) :
    List.zipWith (fun field descriptor =>
        ({ field, plan := FieldPlan.of converted first descriptor } : FieldBlock)) fields
        descriptors =
      List.zipWith (fun field descriptor =>
        { field, plan := FieldPlan.of converted second descriptor }) fields descriptors := by
  have hpairs := Outcome.forall₂_of_mapM hdescribe
  clear hdescribe
  induction hpairs with
  | nil => rfl
  | cons hfield _ ih =>
      rw [List.zipWith_cons_cons, List.zipWith_cons_cons, h.plan_eq List.mem_cons_self hfield,
        ih (List.forall_mem_cons.mp h).2]

theorem emitFunction_tied (schema : MergedSchema) :
    Tied (catalog.Agreeing first second schema.fields)
      (catalog.emitFunction target converted first schema)
      (catalog.emitFunction target converted second schema) := by
  unfold emitFunction converterFunction
  cases schema.style with
  | union => exact (tied_modify fun _ => rfl).bind fun _ _ => tied_pure fun _ => rfl
  | struct | safeUnion =>
      dsimp only
      rw [mapM_fieldBlock, mapM_fieldBlock]
      cases hdescribe : schema.fields.mapM fun field => catalog.describe field.type with
      | error fault => exact tied_throw fault
      | ok descriptors =>
          refine (tied_modify fun h => ?_).bind fun _ _ => tied_pure fun h => ?_
          · rw [h.blocks_eq hdescribe]
          · rw [h.1.blocks_eq hdescribe]

theorem emitFunctions_tied (schemas : List (QualifiedName × MergedSchema)) (types : List Ref) :
    Tied (∀ entry ∈ schemas, catalog.Agreeing first second entry.2.fields)
      (catalog.emitFunctions target converted schemas first types)
      (catalog.emitFunctions target converted schemas second types) := by
  induction types with
  | nil => exact tied_pure fun _ => rfl
  | cons ref rest ih =>
      unfold emitFunctions
      cases hschema : schemas.lookup ref.name with
      | none => exact ih
      | some schema =>
          have hmem := Conversion.mem_schemas_of_lookup hschema
          refine ((emitFunction_tied schema).imp fun h => h _ hmem).bind fun made made' => ?_
          refine (ih.imp And.left).bind fun others others' => tied_pure ?_
          rintro ⟨⟨-, rfl, -⟩, rfl, -⟩
          rfl

theorem converterFiles_tied (q : QualifiedName) (types : List Ref)
    (schemas : List (QualifiedName × MergedSchema)) :
    Tied (∀ entry ∈ schemas, catalog.Agreeing first second entry.2.fields)
      (catalog.converterFiles target q types schemas first)
      (catalog.converterFiles target q types schemas second) := by
  unfold converterFiles
  refine (emitFunctions_tied schemas (byPackage types)).bind fun functions functions' => ?_
  cases target.headerFile? q with
  | none => exact tied_pure fun h => by rw [h.2.1]
  | some header => exact tied_pure fun h => by rw [h.2.1]

theorem targetFiles_tied (q : QualifiedName) (types : List Ref)
    (schemas : List (QualifiedName × MergedSchema)) (targets : List Target) :
    Tied (∀ entry ∈ schemas, catalog.Agreeing first second entry.2.fields)
      (catalog.targetFiles q types schemas first targets)
      (catalog.targetFiles q types schemas second targets) := by
  induction targets with
  | nil => exact tied_pure fun _ => rfl
  | cons target rest ih =>
      unfold targetFiles
      refine (converterFiles_tied q types schemas).bind fun files files' => ?_
      refine (ih.imp And.left).bind fun others others' => tied_pure ?_
      rintro ⟨⟨-, rfl, -⟩, rfl, -⟩
      rfl

/-! ### All files -/

variable {q : QualifiedName} {types : List QualifiedName} {notes after : Notes}
  {schemas : List (QualifiedName × MergedSchema)}

/-- Merging does not depend on a registry, and what follows it is tied. -/
theorem generate_after_merge (first second : Registry) (q : QualifiedName)
    (hmerge : catalog.mergeAll types notes = .ok schemas after) :
    ∃ x y : Noting (List (QualifiedName × MergedSchema) × List (String × String)),
      Tied (∀ entry ∈ schemas, catalog.Agreeing first second entry.2.fields) x y ∧
      catalog.generate first q types notes = x after ∧
      catalog.generate second q types notes = y after := by
  refine ⟨_, _, ?_, Outcome.bind_of_ok hmerge, Outcome.bind_of_ok hmerge⟩
  refine (aidlFiles_tied schemas types).bind fun made made' => ?_
  refine ((targetFiles_tied q _ schemas Target.all).imp And.left).bind fun sources sources' => ?_
  refine tied_pure ?_
  rintro ⟨⟨-, rfl, -⟩, rfl, -⟩
  rfl

/-- Registries that agree on the merged fields of what the first one generates give the same, and
nothing is asked of registries with which nothing is generated. -/
theorem generate_eq_or_fails
    (hagree : ∀ schemas made after,
      catalog.generate first q types notes = .ok (schemas, made) after →
        ∀ entry ∈ schemas, catalog.Agreeing first second entry.2.fields) :
    catalog.generate second q types notes = catalog.generate first q types notes ∨
      ∃ fault s t, catalog.generate first q types notes = .error fault s ∧
        catalog.generate second q types notes = .error fault t := by
  cases hmerge : catalog.mergeAll types notes with
  | error fault failed =>
      left
      exact (Outcome.bind_of_error hmerge).trans (Outcome.bind_of_error hmerge).symm
  | ok schemas merged =>
      obtain ⟨x, y, htied, hx, hy⟩ := generate_after_merge first second q hmerge
      cases hmade : catalog.generate first q types notes with
      | error fault failed =>
          obtain ⟨left, hleft⟩ := (htied.alike merged merged fault).mp ⟨failed, hx.symm.trans hmade⟩
          exact Or.inr ⟨fault, failed, left, rfl, hy.trans hleft⟩
      | ok result last =>
          -- What was merged is part of the result, so the registries agree on it.
          obtain ⟨found, made⟩ := result
          obtain ⟨-, -, again, -, hagain, -⟩ := generate_ok hmade
          obtain ⟨rfl, -⟩ := EStateM.Result.ok.inj (hmerge.symm.trans hagain)
          rw [hy, ← htied.same (hagree _ _ _ hmade), ← hx]
          exact Or.inl hmade

end Catalog

namespace Conversion

open QualifiedName.Token

variable {first second : Registry}

theorem convert_eq {q : QualifiedName} {releases : List QualifiedName} {s : Resolver}
    (hagree : ∀ conversion t, convert q releases first s = .ok conversion t →
      ∀ entry ∈ conversion.schemas, conversion.catalog.Agreeing first second entry.2.fields) :
    convert q releases second s = convert q releases first s := by
  unfold convert at hagree ⊢
  cases hnotes : commentNotes releases {} s with
  | error fault failed => rw [Outcome.bind_of_error hnotes, Outcome.bind_of_error hnotes]
  | ok notes read =>
      simp only [Outcome.bind_of_ok hnotes] at hagree ⊢
      cases htypes : Resolver.collectTypes releases read with
      | error fault failed => rw [Outcome.bind_of_error htypes, Outcome.bind_of_error htypes]
      | ok types t =>
          simp only [Outcome.bind_of_ok htypes, Outcome.get_bind, EStateM.run] at hagree ⊢
          have hgenerate := Catalog.generate_eq_or_fails (fun schemas made after hmade => by
            rw [hmade] at hagree
            exact hagree _ _ rfl)
          rcases hgenerate with hsame | ⟨fault, left, right, hfirst, hsecond⟩
          · rw [hsame]
          · rw [hfirst, hsecond]

/-- A type is at the base of a merged field, without typedefs, vectors and arrays. -/
def Refers (conversion : Conversion) (q : QualifiedName) : Prop :=
  ∃ entry ∈ conversion.schemas, ∃ field ∈ entry.2.fields, ∃ plain ref,
    conversion.catalog.UnfoldsTo field.type plain ∧ plain.base = .named ref ∧ ref.name = q

/-- The types at the bases of merged fields. -/
def referred (conversion : Conversion) : List QualifiedName :=
  conversion.schemas.flatMap fun entry => entry.2.fields.filterMap fun field =>
    ((conversion.catalog.shape field.type).toOption.bind (·.type.ref?)).map Ref.name

theorem mem_referred_iff {conversion : Conversion} {q : QualifiedName} :
    q ∈ conversion.referred ↔ conversion.Refers q := by
  simp only [referred, Refers, List.mem_flatMap, List.mem_filterMap, Option.map_eq_some_iff,
    Option.bind_eq_some_iff]
  constructor
  · rintro ⟨entry, hentry, field, hfield, ref, ⟨shape, hshape, href⟩, rfl⟩
    have hplain := Catalog.unfoldsTo_of_shape (Resolver.ok_of_toOption hshape)
    have hbase := Ty.base_eq_named_iff.mpr href
    exact ⟨entry, hentry, field, hfield, shape.type, ref, hplain, hbase, rfl⟩
  · rintro ⟨entry, hentry, field, hfield, plain, ref, hplain, hbase, rfl⟩
    obtain ⟨shape, hshape, rfl⟩ := hplain.exists_shape
    exact ⟨entry, hentry, field, hfield, ref,
      ⟨shape, by rw [hshape]; rfl, Ty.base_eq_named_iff.mp hbase⟩, rfl⟩

/-- In a run on identifiers, registries that have the same by name for the types at the bases of
merged fields have the same by text. -/
theorem Completed.agreeing {conversion : Conversion} {t : Resolver}
    (h : Completed first conversion t) (hfirst : first.Made) (hsecond : second.Made)
    (hnames : ∀ q ∈ conversion.catalog.names, ∀ segment ∈ q.names, isName segment)
    (hlookup : ∀ q, conversion.Refers q → first.lookup q = second.lookup q) :
    ∀ entry ∈ conversion.schemas, conversion.catalog.Agreeing first second entry.2.fields := by
  intro entry hentry field hfield shape hshape ref hbase
  have hplain := Catalog.unfoldsTo_of_shape hshape
  have hbase := Shape.type_base hbase
  have hsame := hlookup ref.name ⟨entry, hentry, field, hfield, shape.type, ref, hplain, hbase, rfl⟩
  -- Only for undivided names is the text of a type its own.
  have hundivided : ref.name.Undivided := by
    rw [h.catalog] at hnames hplain
    have hmerges := h.schemas_merge.2 entry hentry
    rw [h.catalog] at hmerges
    refine hplain.base_ref (P := fun ref => ref.name.Undivided) ?_ ?_ ref hbase
    · intro named hnamed
      obtain ⟨decl, hdecl, htype⟩ := hmerges.mem_types hfield
      exact h.idle.undivided hnames hdecl htype hnamed
    · intro r aliased named haliased hnamed
      obtain ⟨decl, hdecl, htype⟩ := Catalog.mem_types_of_aliased haliased
      exact h.idle.undivided hnames hdecl htype hnamed
  refine ⟨hsame, ?_⟩
  rw [hfirst.wellKeyed.lookup_aidlNames hundivided, hsame,
    hsecond.wellKeyed.lookup_aidlNames hundivided]

/-- **Unreferenced replacements.** Let two registries be made by any calls, in any order. If they
have the same entry, or none, for each type at the base of a merged field of the run with the first
one, where types have identifiers for names, then the run with the second one ends with the same
result: types, schemas, notes and files. If one of the runs fails then so does the other, with the
same fault. -/
theorem run_eq_of_lookup_eq (repository : Repository) (hread : repository.Faithful)
    (request : String) (force : Bool) (first second : Registry) (hfirst : first.Made)
    (hsecond : second.Made)
    (hnames : ∀ conversion t, run request force first { repository } = .ok conversion t →
      ∀ q ∈ conversion.catalog.names, ∀ segment ∈ q.names, isName segment)
    (hlookup : ∀ conversion t, run request force first { repository } = .ok conversion t →
      ∀ q, conversion.Refers q → first.lookup q = second.lookup q) :
    run request force second { repository } = run request force first { repository } := by
  have hagree : ∀ conversion t, run request force first { repository } = .ok conversion t →
      ∀ entry ∈ conversion.schemas, conversion.catalog.Agreeing first second entry.2.fields := by
    intro conversion t hrun
    obtain ⟨hcompleted, -⟩ := run_completed hread hrun
    exact hcompleted.agreeing hfirst hsecond (hnames conversion t hrun) (hlookup conversion t hrun)
  cases hcheck : repository.checkRequest request force with
  | error fault => rw [run_of_refused hcheck, run_of_refused hcheck]
  | ok q =>
      rw [run_of_accepted hcheck] at hagree ⊢
      rw [run_of_accepted hcheck]
      exact convert_eq hagree

/-- A field whose type is a typedef of the type that is known from the start. -/
def aliasedMonostate : Repository :=
  Sample.repository [Sample.release "p" "1.0" [
    Sample.typeAlias "T" (Sample.named "android.hidl.safe_union@1.0::Monostate"),
    Sample.struct "S" [("a", Sample.named "T")]]]

namespace aliasedMonostate

def standIn : QualifiedName :=
  ⟨"p", ⟨1, 0⟩, some "T", []⟩

def standInEntry : Replacement :=
  { legacy := some " p@1.0::T", canonical := some "long" }

/-- The typedef is replaced too, with its entry in front. -/
def registry : Registry :=
  ((⟨[]⟩ : Registry).insert standIn standInEntry).insert Replacement.monostate .monostateEntry

theorem made_registry : registry.Made := by
  have hstandIn : standInEntry.legacyName? = some standIn ∧ standInEntry.namesType := by
    decide +kernel
  obtain ⟨q, hq, htarget⟩ := Registry.target_of_namesType hstandIn.2
  obtain rfl := Option.some.inj (hstandIn.1.symm.trans hq)
  exact .register (.register .empty (Outcome.except_map_ok_iff.mpr ⟨_, htarget, rfl⟩))
    (Outcome.except_map_ok_iff.mpr ⟨_, Registry.target_monostateEntry, rfl⟩)

theorem lookup_registry {q : QualifiedName} (hq : q ≠ standIn) :
    Registry.default.lookup q = registry.lookup q := by
  have hdefault : Registry.default =
      (⟨[]⟩ : Registry).insert Replacement.monostate .monostateEntry := rfl
  rw [hdefault, registry, Registry.lookup_insert, Registry.lookup_insert,
    Registry.lookup_insert, if_neg hq]

end aliasedMonostate

theorem run_eq_of_lookup_eq_aliasedMonostate :
    ∃ conversion t,
      run "p@1.0" false .default { repository := aliasedMonostate } = .ok conversion t ∧
      conversion.Refers Replacement.monostate ∧ ¬conversion.Refers aliasedMonostate.standIn ∧
      run "p@1.0" false aliasedMonostate.registry { repository := aliasedMonostate } =
        .ok conversion t := by
  have hview : Outcome.view (fun conversion _ =>
        (conversion.catalog.names.all fun q => q.names.all isName, conversion.referred))
      (run "p@1.0" false .default { repository := aliasedMonostate }) =
      some (true, [Replacement.monostate]) := by
    decide +kernel
  obtain ⟨conversion, t, hrun, hseen⟩ := Outcome.of_view hview
  obtain ⟨hnamed, hreferred⟩ := Prod.mk.inj hseen
  have hunique : ∀ found u,
      run "p@1.0" false .default { repository := aliasedMonostate } = .ok found u →
        found = conversion := by
    intro found u hfound
    exact (EStateM.Result.ok.inj (hfound.symm.trans hrun)).1
  have hstandIn : ¬conversion.Refers aliasedMonostate.standIn := by
    rw [← mem_referred_iff, hreferred]
    decide
  have hmonostate : conversion.Refers Replacement.monostate := by
    rw [← mem_referred_iff, hreferred]
    exact List.mem_singleton_self _
  refine ⟨conversion, t, hrun, hmonostate, hstandIn, ?_⟩
  rw [← hrun]
  apply run_eq_of_lookup_eq aliasedMonostate (Repository.faithful_of_read_eq_nil rfl) "p@1.0" false
    .default aliasedMonostate.registry Registry.made_default aliasedMonostate.made_registry
  · intro found u hfound q hq
    rw [hunique found u hfound] at hq
    exact List.all_eq_true.mp (List.all_eq_true.mp hnamed q hq)
  · intro found u hfound q hq
    rw [hunique found u hfound] at hq
    apply aliasedMonostate.lookup_registry
    rintro rfl
    exact hstandIn hq

end Conversion

end HalBridge
