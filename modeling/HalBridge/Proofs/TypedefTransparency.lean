import HalBridge.Proofs.MemberImports
import HalBridge.Proofs.SampleDocuments

/-!
# Typedefs leave no trace

The label of a container is the text that it was written with, and a typedef shows there. Nothing
that is generated from a field reads the label of a container: the member, the imports and the plan
of a field are those of its shape without labels. So a field is emitted as if its type had been
written without typedefs.
-/

namespace HalBridge

/-- A type without typedefs as a shape, with nothing in its labels. -/
def Ty.bareShape : Ty → Shape
  | .scalar value => .scalar value
  | .string => .string
  | .vec element => .vec element.bareShape ""
  | .array element size => .array element.bareShape size ""
  | .special value => .special value
  | .named ref => .named ref

/-- A descriptor with nothing in the labels of its containers. -/
def Descriptor.bare : Descriptor → Descriptor
  | .sequence element _ => .sequence element.bare ""
  | .fixedArray element size _ => .fixedArray element.bare size ""
  | descriptor => descriptor

namespace Shape

variable {owner : QualifiedName} {registry : Registry} {shape twin : Shape}

theorem base_bareShape (shape : Shape) : shape.type.bareShape.base = shape.base := by
  induction shape with
  | scalar | string | special | named => rfl
  | vec _ _ ih => exact ih
  | array _ _ _ ih => exact ih

theorem aidlText_bareShape (replaced : List (String × Option String)) (shape : Shape) :
    shape.type.bareShape.aidlText owner replaced = shape.aidlText owner replaced := by
  induction shape with
  | scalar | string | special | named => rfl
  | vec _ _ ih | array _ _ _ ih => simp only [type, Ty.bareShape, aidlText, ih]

theorem base_eq_of_type_eq (h : shape.type = twin.type) : shape.base = twin.base := by
  rw [← base_bareShape shape, h, base_bareShape]

/-- The labels of a shape are neither in the member nor in its note nor in its import. -/
theorem member_eq_of_type_eq (h : shape.type = twin.type) (registry : Registry)
    (owner : QualifiedName) (field : Field) (type plain : Ty) :
    Aidl.member registry owner { field with type } shape =
        Aidl.member registry owner { field with type := plain } twin ∧
      Aidl.shapeNote? owner { field with type } shape =
        Aidl.shapeNote? owner { field with type := plain } twin ∧
      shape.import? owner registry = twin.import? owner registry := by
  have hbase := base_eq_of_type_eq h
  refine ⟨?_, ?_, ?_⟩
  · rw [Aidl.member, Aidl.member, ← aidlText_bareShape _ shape, h, aidlText_bareShape]
  · rw [Aidl.shapeNote?, Aidl.shapeNote?, hbase]
  · rw [import?, import?, hbase]

end Shape

namespace FieldPlan

theorem ofElement_bare (fixed : Bool) (element : Descriptor) :
    ofElement fixed element.bare = ofElement fixed element := by
  cases element with
  | sequence | fixedArray => rfl
  | scalar | enum | string | record | union | unsupported => rfl

/-- The labels of containers are not in the plan. -/
theorem of_bare (converted : QualifiedName → Bool) (registry : Registry)
    (descriptor : Descriptor) :
    of converted registry descriptor.bare = of converted registry descriptor := by
  cases descriptor with
  | sequence element => exact ofElement_bare false element
  | fixedArray element => exact ofElement_bare true element
  | scalar | enum | string | record | union | unsupported => rfl

end FieldPlan

namespace Catalog

variable {catalog : Catalog} {type plain : Ty} {descriptor : Descriptor}

theorem bare_of_describeRef {ref : Ref} (h : catalog.describeRef ref = .ok descriptor) :
    descriptor.bare = descriptor := by
  unfold describeRef at h
  split at h
  · obtain ⟨backing, -, rfl⟩ := Outcome.except_map_ok_iff.mp h
    rfl
  all_goals
    obtain rfl := Except.ok.inj h
    rfl

/-- What a shape is described as, without its labels, is read off the shape without its labels. -/
theorem describeShape_bareShape {shape : Shape} (h : catalog.describeShape shape = .ok descriptor) :
    catalog.describeShape shape.type.bareShape = .ok descriptor.bare := by
  induction shape generalizing descriptor with
  | scalar | string | special =>
      obtain rfl := Except.ok.inj h
      rfl
  | named ref =>
      rw [bare_of_describeRef h]
      exact h
  | vec element label ih | array element size label ih =>
      obtain ⟨inner, hinner, rfl⟩ := Outcome.except_map_ok_iff.mp h
      exact Outcome.except_map_ok_iff.mpr ⟨_, ih hinner, rfl⟩

theorem bare_of_describe (hplain : catalog.UnfoldsTo type plain)
    (h : catalog.describe type = .ok descriptor) :
    catalog.describeShape plain.bareShape = .ok descriptor.bare := by
  obtain ⟨shape, hshape, h⟩ := Outcome.except_bind_ok_iff.mp h
  cases hdescribe : catalog.describeShape shape with
  | error chain =>
      rw [hdescribe] at h
      cases h
  | ok found =>
      rw [hdescribe] at h
      obtain rfl := Except.ok.inj h
      rw [← hplain.unique (unfoldsTo_of_shape hshape)]
      exact describeShape_bareShape hdescribe

/-- A field of the type without typedefs has the same plan. -/
theorem UnfoldsTo.fieldBlock (hplain : catalog.UnfoldsTo type plain) (h : catalog.Unfoldable)
    (field : Field) (converted : QualifiedName → Bool) (registry : Registry) :
    ∃ plan,
      catalog.fieldBlock converted registry { field with type } =
        .ok { field := { field with type }, plan } ∧
      catalog.fieldBlock converted registry { field with type := plain } =
        .ok { field := { field with type := plain }, plan } := by
  obtain ⟨descriptor, hdescriptor⟩ := h.describe type
  obtain ⟨twin, htwin⟩ := h.describe plain
  have hbare : descriptor.bare = twin.bare := by
    have hdescribe := bare_of_describe hplain hdescriptor
    rw [bare_of_describe hplain.plain_unfoldsTo htwin] at hdescribe
    exact (Except.ok.inj hdescribe).symm
  refine ⟨FieldPlan.of converted registry descriptor, ?_, ?_⟩
  · rw [Catalog.fieldBlock, hdescriptor]
    rfl
  · rw [Catalog.fieldBlock, htwin, ← FieldPlan.of_bare _ _ descriptor, hbare, FieldPlan.of_bare]
    rfl

end Catalog

/-! ### Whole types -/

/-- The type with these fields before and after one field. -/
def MergedSchema.around (schema : MergedSchema) (front : List Field) (field : Field)
    (back : List Field) : MergedSchema :=
  { schema with fields := front ++ field :: back }

namespace Catalog

variable {catalog : Catalog} {registry : Registry} {converted : QualifiedName → Bool}

/-- Everything that is generated from the two fields is the same, and so is everything that is
generated from two types which differ in these fields only. -/
structure EmittedAlike (catalog : Catalog) (field other : Field) : Prop where
  block : ∀ (converted : QualifiedName → Bool) (registry : Registry), ∃ block twin,
    catalog.fieldBlock converted registry field = .ok block ∧
    catalog.fieldBlock converted registry other = .ok twin ∧
    ∀ target access owner,
      block.lines target access owner = twin.lines target access owner ∧
      block.note? owner = twin.note? owner
  member : ∃ shape twin,
    catalog.shape field.type = .ok shape ∧ catalog.shape other.type = .ok twin ∧
    ∀ registry owner,
      Aidl.member registry owner field shape = Aidl.member registry owner other twin ∧
      Aidl.shapeNote? owner field shape = Aidl.shapeNote? owner other twin ∧
      shape.import? owner registry = twin.import? owner registry
  function : ∀ (target : Target) (converted : QualifiedName → Bool) (registry : Registry)
      (schema : MergedSchema) (front back : List Field) (notes : Notes),
    ∃ function twin after,
      catalog.emitFunction target converted registry (schema.around front field back) notes =
        .ok function after ∧
      catalog.emitFunction target converted registry (schema.around front other back) notes =
        .ok twin after ∧
      function.signature = twin.signature ∧ function.body? = twin.body? ∧
      function.notes = twin.notes
  definition : ∀ (registry : Registry) (ref : Ref) (schema : MergedSchema)
      (front back : List Field),
    Aidl.definition catalog registry ref (some (schema.around front field back)) =
      Aidl.definition catalog registry ref (some (schema.around front other back))

theorem UnfoldsTo.shapes {type plain : Ty} (hplain : catalog.UnfoldsTo type plain) :
    ∃ shape twin, catalog.shape type = .ok shape ∧ catalog.shape plain = .ok twin ∧
      shape.type = twin.type := by
  obtain ⟨shape, hshape, htype⟩ := hplain.exists_shape
  obtain ⟨twin, htwin, htwinType⟩ := hplain.plain_unfoldsTo.exists_shape
  exact ⟨shape, twin, hshape, htwin, htype.trans htwinType.symm⟩

theorem mapM_around {α β : Type} {g : α → Except Fault β} {front back : List α}
    {before after : List β} {a : α} {b : β} (hfront : front.mapM g = .ok before)
    (ha : g a = .ok b) (hback : back.mapM g = .ok after) :
    (front ++ a :: back).mapM g = .ok (before ++ b :: after) := by
  rw [List.mapM_append, List.mapM_cons, hfront, ha, hback]
  rfl

/-- A body and its notes are put together from the plans, names and accesses of the blocks. -/
theorem body_around (front back : List FieldBlock) (field : Field) (type plain : Ty)
    (plan : FieldPlan) (target : Target) (q : QualifiedName) (access : Access) :
    ConverterFunction.bodyLines target q access
        (front ++ { field := { field with type }, plan } :: back) =
      ConverterFunction.bodyLines target q access
        (front ++ { field := { field with type := plain }, plan } :: back) ∧
    (front ++ { field := { field with type }, plan } :: back).filterMap (·.note? q) =
      (front ++ { field := { field with type := plain }, plan } :: back).filterMap (·.note? q) := by
  constructor
  · rw [ConverterFunction.bodyLines_eq, ConverterFunction.bodyLines_eq]
    simp only [List.flatMap_append, List.flatMap_cons]
    rfl
  · simp only [List.filterMap_append, List.filterMap_cons]
    rfl

theorem emitFunction_of_ok {target : Target} {schema : MergedSchema}
    {function : ConverterFunction}
    (h : catalog.converterFunction target converted registry schema = .ok function)
    (notes : Notes) :
    catalog.emitFunction target converted registry schema notes =
      .ok function (notes.extend function.notes) := by
  unfold emitFunction
  rw [h]
  rfl

/-- A type with the one field has the function of the type with the other. -/
theorem UnfoldsTo.converterFunction {type plain : Ty} (hplain : catalog.UnfoldsTo type plain)
    (h : catalog.Unfoldable) (field : Field) (target : Target)
    (converted : QualifiedName → Bool) (registry : Registry) (schema : MergedSchema)
    (front back : List Field) :
    ∃ function twin,
      catalog.converterFunction target converted registry
        (schema.around front { field with type } back) = .ok function ∧
      catalog.converterFunction target converted registry
        (schema.around front { field with type := plain } back) = .ok twin ∧
      function.signature = twin.signature ∧ function.body? = twin.body? ∧
      function.notes = twin.notes := by
  by_cases hstyle : schema.style = .union
  · have hstub : ∀ fields, catalog.converterFunction target converted registry
        { schema with fields } =
          .ok { target, type := schema.name, access := .member, blocks := none } := by
      intro fields
      rw [Catalog.converterFunction, hstyle]
    exact ⟨_, _, hstub _, hstub _, rfl, rfl, rfl⟩
  · have hblocks : ∀ fields : List Field,
        ∃ blocks, fields.mapM (catalog.fieldBlock converted registry) = .ok blocks := by
      intro fields
      refine Outcome.mapM_ok fun other _ => ?_
      obtain ⟨descriptor, hdescriptor⟩ := h.describe other.type
      exact ⟨_, Outcome.except_map_ok_iff.mpr ⟨descriptor, hdescriptor, rfl⟩⟩
    obtain ⟨before, hbefore⟩ := hblocks front
    obtain ⟨behind, hbehind⟩ := hblocks back
    obtain ⟨plan, hblock, htwin⟩ := hplain.fieldBlock h field converted registry
    obtain ⟨hbody, hnotes⟩ := body_around before behind field type plain plan target schema.name
      (accessOf schema.style)
    refine ⟨_, _, converterFunction_of_blocks target hstyle (mapM_around hbefore hblock hbehind),
      converterFunction_of_blocks target hstyle (mapM_around hbefore htwin hbehind), rfl, ?_, ?_⟩
    · exact congrArg some hbody
    · exact congrArg (fun notes => (({} : Notes).extend notes).entries) hnotes

/-! ### Definitions -/

theorem UnfoldsTo.members {type plain : Ty} (hplain : catalog.UnfoldsTo type plain)
    (h : catalog.Unfoldable) (field : Field) (registry : Registry) (owner : QualifiedName)
    (front back : List Field) (notes : Notes) :
    ∃ made shapes twins after,
      Aidl.members catalog registry owner (front ++ { field with type } :: back) notes =
        .ok (made, shapes) after ∧
      Aidl.members catalog registry owner (front ++ { field with type := plain } :: back) notes =
        .ok (made, twins) after ∧
      imports owner registry shapes = imports owner registry twins := by
  have hshapes : ∀ fields : List Field,
      ∃ shapes, fields.mapM (fun field => catalog.shape field.type) = .ok shapes :=
    fun fields => Outcome.mapM_ok fun other _ => h.shape other.type
  obtain ⟨before, hbefore⟩ := hshapes front
  obtain ⟨behind, hbehind⟩ := hshapes back
  obtain ⟨shape, twin, hshape, htwin, htype⟩ := hplain.shapes
  obtain ⟨hmember, hnote, himport⟩ :=
    Shape.member_eq_of_type_eq htype registry owner field type plain
  have hlength := (Outcome.forall₂_of_mapM hbefore).length_eq
  have hmembers : ∀ (type : Ty) (shape : Shape), catalog.shape type = .ok shape →
      Aidl.members catalog registry owner (front ++ { field with type } :: back) notes =
        .ok (List.zipWith (Aidl.member registry owner) front before ++
            Aidl.member registry owner { field with type } shape ::
              List.zipWith (Aidl.member registry owner) back behind, before ++ shape :: behind)
          (notes.extend ((List.zipWith (Aidl.shapeNote? owner) front before ++
            Aidl.shapeNote? owner { field with type } shape ::
              List.zipWith (Aidl.shapeNote? owner) back behind).flatMap Option.toList)) := by
    intro type shape hshape
    have hfield : catalog.shape { field with type }.type = .ok shape := hshape
    have hpairs := Outcome.forall₂_of_mapM
      (g := fun field : Field => catalog.shape field.type) (mapM_around hbefore hfield hbehind)
    rw [Aidl.members_of_shapes hpairs, List.zipWith_append hlength, List.zipWith_cons_cons,
      List.zipWith_append hlength, List.zipWith_cons_cons]
  refine ⟨_, _, before ++ twin :: behind, _, hmembers type shape hshape, ?_, ?_⟩
  · rw [hmembers plain twin htwin, hmember, hnote]
  · simp only [imports, List.filterMap_append, List.filterMap_cons, himport]

theorem UnfoldsTo.definition {type plain : Ty} (hplain : catalog.UnfoldsTo type plain)
    (h : catalog.Unfoldable) (field : Field) (registry : Registry) (ref : Ref)
    (schema : MergedSchema) (front back : List Field) :
    Aidl.definition catalog registry ref
        (some (schema.around front { field with type } back)) =
      Aidl.definition catalog registry ref
        (some (schema.around front { field with type := plain } back)) := by
  have hcompound : ∀ outline,
      Aidl.compoundDefinition catalog registry ref
          (schema.around front { field with type } back) outline =
        Aidl.compoundDefinition catalog registry ref
          (schema.around front { field with type := plain } back) outline := by
    intro outline
    funext notes
    obtain ⟨made, shapes, twins, after, hmade, htwin, himports⟩ :=
      hplain.members h field registry ref.name front back notes
    unfold Aidl.compoundDefinition MergedSchema.around
    cases schema.style with
    | union => rfl
    | struct | safeUnion =>
        dsimp only
        rw [Outcome.bind_of_ok hmade, Outcome.bind_of_ok htwin]
        dsimp only
        rw [himports]
  unfold Aidl.definition
  dsimp only
  simp only [hcompound]

/-- A field is emitted as if its type had been written without typedefs. -/
theorem UnfoldsTo.emittedAlike {type plain : Ty} (hplain : catalog.UnfoldsTo type plain)
    (h : catalog.Unfoldable) (field : Field) :
    catalog.EmittedAlike { field with type } { field with type := plain } where
  block := by
    intro converted registry
    obtain ⟨plan, hblock, htwin⟩ := hplain.fieldBlock h field converted registry
    exact ⟨_, _, hblock, htwin, fun _ _ _ => ⟨rfl, rfl⟩⟩
  member := by
    obtain ⟨shape, twin, hshape, htwin, htype⟩ := hplain.shapes
    refine ⟨shape, twin, hshape, htwin, fun registry owner => ?_⟩
    exact Shape.member_eq_of_type_eq htype registry owner field type plain
  function := by
    intro target converted registry schema front back notes
    obtain ⟨function, twin, hfunction, htwin, hsignature, hbody, hnotes⟩ :=
      hplain.converterFunction h field target converted registry schema front back
    refine ⟨function, twin, _, emitFunction_of_ok hfunction notes, ?_, hsignature, hbody, hnotes⟩
    rw [hnotes]
    exact emitFunction_of_ok htwin notes
  definition := fun registry ref schema front back =>
    hplain.definition h field registry ref schema front back

theorem Unfoldable.exists_unfoldsTo (h : catalog.Unfoldable) (type : Ty) :
    ∃ plain, catalog.UnfoldsTo type plain := by
  obtain ⟨shape, hshape⟩ := h.shape type
  exact ⟨shape.type, unfoldsTo_of_shape hshape⟩

theorem UnfoldsTo.typedefIn_plain {type plain : Ty} (h : catalog.UnfoldsTo type plain) :
    catalog.typedefIn? plain = none := by
  induction h with
  | scalar | string | special => rfl
  | vec _ ih => exact ih
  | array _ ih => exact ih
  | named hnone => exact hnone
  | typedef _ _ ih => exact ih

end Catalog

namespace Resolver

/-- **Typedefs are transparent.** In a resolved model in which no typedef reaches itself through
containers, each type has one type that is left when every typedef in it, at any depth, is replaced
by what it stands for. A field with the one type is emitted like the same field with the other:
lines, notes, member type and imports are the same. -/
theorem typedefs_transparent (repository : Repository) (hread : repository.Faithful)
    (calls : List Call) (s : Resolver) (h : performAll calls { repository } = .ok () s)
    (hcontainers : ∀ q r, s.catalog.Contains q r →
      ¬Relation.ReflTransGen s.catalog.Unfolds r q) (type : Ty) :
    ∃ plain, s.catalog.UnfoldsTo type plain ∧
      (∀ other, s.catalog.UnfoldsTo type other → other = plain) ∧
      s.catalog.typedefIn? plain = none ∧
      ∀ field : Field, s.catalog.EmittedAlike { field with type } { field with type := plain } := by
  obtain ⟨hidle, -⟩ := performAll_ok (idle_fresh hread) h
  have hunfoldable := Catalog.unfoldable_of_containers hidle.chainEnds hcontainers
  obtain ⟨plain, hplain⟩ := hunfoldable.exists_unfoldsTo type
  exact ⟨plain, hplain, fun other hother => hplain.unique hother, hplain.typedefIn_plain,
    fun field => hplain.emittedAlike hunfoldable field⟩

/-- A typedef of a vector whose elements are written with another typedef. -/
def countedList : Repository :=
  Sample.repository [Sample.release "p" "1.0"
    [Sample.typeAlias "Count" (Sample.scalar "uint32"),
      Sample.typeAlias "Counts" (Sample.vec (Sample.named "Count"))]]

namespace countedList

def count : QualifiedName :=
  ⟨"p", ⟨1, 0⟩, some "Count", []⟩

def counts : QualifiedName :=
  ⟨"p", ⟨1, 0⟩, some "Counts", []⟩

def typedefs (s : Resolver) : List (QualifiedName × Ty) :=
  s.catalog.names.filterMap fun q => (s.catalog.aliased? q).map (q, ·)

theorem mem_typedefs_iff {s : Resolver} {q : QualifiedName} {aliased : Ty} :
    (q, aliased) ∈ typedefs s ↔ s.catalog.aliased? q = some aliased := by
  simp only [typedefs, List.mem_filterMap, Option.map_eq_some_iff, Prod.mk.injEq]
  constructor
  · rintro ⟨r, -, found, hfound, rfl, rfl⟩
    exact hfound
  · intro h
    exact ⟨q, Catalog.mem_names_of_aliased h, aliased, h, rfl, rfl⟩

theorem view_loaded :
    Outcome.view (fun _ s => typedefs s)
      (performAll [.release ⟨"p", ⟨1, 0⟩, some "", []⟩] { repository := countedList }) =
    some [(count, .scalar .uint32), (counts, .vec (.named (.declared count)))] := by
  decide +kernel

theorem loaded :
    ∃ s, performAll [.release ⟨"p", ⟨1, 0⟩, some "", []⟩] { repository := countedList } = .ok () s ∧
      ∀ q aliased, s.catalog.aliased? q = some aliased ↔
        (q = count ∧ aliased = .scalar .uint32) ∨
        (q = counts ∧ aliased = .vec (.named (.declared count))) := by
  obtain ⟨_, s, hrun, hseen⟩ := Outcome.of_view view_loaded
  refine ⟨s, hrun, fun q aliased => ?_⟩
  rw [← mem_typedefs_iff, hseen]
  simp only [List.mem_cons, Prod.mk.injEq, List.not_mem_nil, or_false]

end countedList

theorem typedefs_transparent_countedList :
    ∃ s, performAll [.release ⟨"p", ⟨1, 0⟩, some "", []⟩] { repository := countedList } = .ok () s ∧
      (∀ q r, s.catalog.Contains q r → ¬Relation.ReflTransGen s.catalog.Unfolds r q) ∧
      s.catalog.UnfoldsTo (.named (.declared countedList.counts)) (.vec (.scalar .uint32)) ∧
      ∀ field : Field, s.catalog.EmittedAlike
        { field with type := .named (.declared countedList.counts) }
        { field with type := .vec (.scalar .uint32) } := by
  obtain ⟨s, hrun, haliased⟩ := countedList.loaded
  have hcount := (haliased _ _).mpr (Or.inl ⟨rfl, rfl⟩)
  have hcounts := (haliased _ _).mpr (Or.inr ⟨rfl, rfl⟩)
  have hcontainers : ∀ q r, s.catalog.Contains q r →
      ¬Relation.ReflTransGen s.catalog.Unfolds r q := by
    rintro q r ⟨type, htype, href, -⟩ hback
    rcases (haliased q type).mp htype with ⟨-, rfl⟩ | ⟨rfl, rfl⟩
    · cases href
    · obtain rfl := Ref.declared.inj (Option.some.inj href)
      -- the element is a typedef of a scalar, so nothing is reached from it
      rcases Relation.ReflTransGen.cases_head hback with hsame | ⟨next, ⟨other, hother, hnext⟩, -⟩
      · revert hsame
        decide
      · rw [hcount] at hother
        obtain rfl := Option.some.inj hother
        cases hnext
  have hunfolds : s.catalog.UnfoldsTo (.named (.declared countedList.counts))
      (.vec (.scalar .uint32)) :=
    .typedef hcounts (.vec (.typedef hcount (.scalar .uint32)))
  obtain ⟨plain, -, hunique, -, halike⟩ :=
    typedefs_transparent countedList (Repository.faithful_of_read_eq_nil rfl) _ s hrun hcontainers
      (.named (.declared countedList.counts))
  obtain rfl := hunique _ hunfolds
  exact ⟨s, hrun, hcontainers, hunfolds, halike⟩

end Resolver

end HalBridge
