import HalBridge.Proofs.NarrowingGuards

/-!
# Characters from the elements of vectors

In Java the elements of a vector are objects, and an object around a short has to be opened before
it can be cast to a character. What is cast to a character is every element with `int16` behind it,
be it a number or an enum. What is opened is the number only, since how an element is read does not
depend on the scalar behind an enum. So for a vector of enums over `int16` the object itself is
cast, which gives no character.
-/

namespace HalBridge

namespace Catalog

/-- A type is this scalar, or an enum with this scalar at the end of its chain of parents. -/
inductive BackedBy (catalog : Catalog) : Ty → Scalar → Prop
  | scalar (scalar : Scalar) : BackedBy catalog (.scalar scalar) scalar
  | parent {q : QualifiedName} {storage : Ty} {scalar : Scalar}
      (h : catalog.storage? q = some storage) (rest : BackedBy catalog storage scalar) :
      BackedBy catalog (.named (.declared q)) scalar

variable {catalog : Catalog} {q : QualifiedName} {type plain element : Ty} {scalar other : Scalar}
  {descriptor : Descriptor}

theorem BackedBy.unique (h : catalog.BackedBy type scalar) (hother : catalog.BackedBy type other) :
    other = scalar := by
  induction h with
  | scalar =>
      cases hother
      rfl
  | parent hstorage _ ih =>
      cases hother with
      | parent hagain hrest =>
          obtain rfl := Option.some.inj (hstorage.symm.trans hagain)
          exact ih hrest

theorem backedBy_of_passes {passed : List QualifiedName}
    (h : Chain.Passes catalog.parentEnum? q passed)
    (hlast : passed.getLast?.bind catalog.storage? = some (.scalar scalar)) :
    catalog.BackedBy (.named (.declared q)) scalar := by
  induction h with
  | last => exact .parent hlast (.scalar scalar)
  | @step q following path hnext rest ih =>
      obtain ⟨storage, hstorage, henum⟩ := Option.bind_eq_some_iff.mp hnext
      obtain ⟨rfl, -⟩ := enumOf_eq_some_iff.mp henum
      rw [List.getLast?_cons_of_ne_nil rest.ne_nil] at hlast
      exact .parent hstorage (ih hlast)

theorem backedBy_of_enumScalar (h : catalog.enumScalar q = .ok scalar) :
    catalog.BackedBy (.named (.declared q)) scalar := by
  simp only [enumScalar] at h
  cases hrepeated : (catalog.enumChain q).repeated with
  | some again =>
      rw [hrepeated] at h
      cases h
  | none =>
      rw [hrepeated] at h
      dsimp only at h
      split at h
      · rename_i found hlast
        obtain rfl := Except.ok.inj h
        exact backedBy_of_passes (Chain.passes_of_follow hrepeated) hlast
      · cases h

theorem namesEnum_of_storage {storage : Ty} (h : catalog.storage? q = some storage) :
    catalog.NamesEnum (.declared q) := by
  unfold storage? at h
  split at h
  · rename_i found values hbody
    exact ⟨found, values, hbody⟩
  · cases h

/-! ### The scalars of descriptors -/

/-- Every enum in a descriptor has the scalar of the enum that it names. -/
def KnowsEnums (catalog : Catalog) : Descriptor → Prop
  | .enum q backing _ => catalog.enumScalar q = .ok backing
  | .sequence element _ | .fixedArray element _ _ => catalog.KnowsEnums element
  | .scalar _ | .string | .record _ _ | .union _ _ _ | .unsupported _ => True

theorem knowsEnums_of_describeRef {ref : Ref} (h : catalog.describeRef ref = .ok descriptor) :
    catalog.KnowsEnums descriptor := by
  unfold describeRef at h
  split at h
  · obtain ⟨backing, hbacking, rfl⟩ := Outcome.except_map_ok_iff.mp h
    exact hbacking
  all_goals
    obtain rfl := Except.ok.inj h
    trivial

theorem knowsEnums_of_describeShape {shape : Shape}
    (h : catalog.describeShape shape = .ok descriptor) : catalog.KnowsEnums descriptor := by
  induction shape generalizing descriptor with
  | scalar | string | special =>
      obtain rfl := Except.ok.inj h
      trivial
  | vec element label ih | array element size label ih =>
      obtain ⟨found, hfound, rfl⟩ := Outcome.except_map_ok_iff.mp h
      have hknows := ih hfound
      exact hknows
  | named ref => exact knowsEnums_of_describeRef h

theorem knowsEnums_of_describe (h : catalog.describe type = .ok descriptor) :
    catalog.KnowsEnums descriptor := by
  obtain ⟨shape, -, hdescribe⟩ := Outcome.except_bind_ok_iff.mp h
  cases hfound : catalog.describeShape shape with
  | error chain =>
      simp only [hfound] at hdescribe
      cases hdescribe
  | ok found =>
      simp only [hfound] at hdescribe
      obtain rfl := Except.ok.inj hdescribe
      exact knowsEnums_of_describeShape hfound

/-- What is described for a type with a scalar behind it is the scalar, or the enum with it. -/
theorem BackedBy.atom (h : catalog.BackedBy plain scalar)
    (hdescribed : catalog.DescribedAs plain descriptor) (hknows : catalog.KnowsEnums descriptor) :
    (plain = .scalar scalar ∧ descriptor.atom? = some (.scalar scalar)) ∨
      ∃ q, plain = .named (.declared q) ∧ catalog.isEnum q ∧
        descriptor.atom? = some (.enum q scalar) := by
  cases h with
  | scalar =>
      cases hdescribed
      exact Or.inl ⟨rfl, rfl⟩
  | @parent q storage _ hstorage hrest =>
      obtain ⟨found, values, hbody⟩ := namesEnum_of_storage hstorage
      refine Or.inr ⟨q, rfl, isEnum_of_storage hstorage, ?_⟩
      cases hdescribed with
      | enum =>
          rw [(BackedBy.parent hstorage hrest).unique (backedBy_of_enumScalar hknows)]
          rfl
      | plainUnion hunion | safeUnion hunion =>
          obtain ⟨fields, hfields⟩ := hunion
          rw [hbody] at hfields
          cases hfields
      | record hnone => exact absurd ⟨found, values, hbody⟩ hnone

/-! ### Vectors -/

/-- The elements of a vector are read, prepared and cast in the loop over it. -/
theorem lines_of_vector {atom : Atom} (hatom : descriptor.atom? = some atom) (label : String)
    (converted : QualifiedName → Bool) (registry : Registry) (access : Access)
    (owner : QualifiedName) (source name : String) :
    (FieldPlan.of converted registry (.sequence descriptor label)).lines .java access owner source
        name =
      Target.java.loop source false (Target.java.elementType atom)
        ((Transfer.of .java atom ((Target.java.elementRead false (some atom)).expr.text
          source)).preparation .java)
        ((Target.java.castOf atom).apply
          ((Target.java.elementRead false (some atom)).expr.text source))
        (Target.java.sink access owner name) := by
  simp only [FieldPlan.of, FieldPlan.ofElement, hatom, ← ElementRead.apply_eq_text]
  rfl

variable {converted : QualifiedName → Bool} {registry : Registry} {schema : MergedSchema}
  {function : ConverterFunction} {field : Field}

/-- **Characters from vectors.** For a vector with `int16` behind its elements, whatever typedefs
and parent enums are in between, Java has one loop in which each element is read and cast to a
character. If the elements are numbers, then they are taken out of their objects, and a check comes
first. If they are enums, then the objects themselves are cast, which gives no character, and
nothing is checked. -/
theorem char_casts_of_vector
    (h : catalog.converterFunction .java converted registry schema = .ok function)
    (hstyle : schema.style ≠ .union) (hfield : field ∈ schema.fields)
    (hvec : catalog.StandsFor field.type (.vec element))
    (helement : catalog.StandsFor element plain) (hbacked : catalog.BackedBy plain .int16) :
    ∃ (body : List String) (read : CodeExpr) (preparation : List String),
      function.body? = some body ∧
      function.text = Target.java.functionText function.type body ∧
      Target.java.placed function.access function.type (Text.orNone field.name)
        (Target.java.loop (function.sourceOf field) false "char" preparation
          ((CodeExpr.apply .charCast read).text (function.sourceOf field))
          (Target.java.sink function.access function.type (Text.orNone field.name))) <:+: body ∧
      ((plain = .scalar .int16 ∧ read = .apply .shortValue (.apply .get .operand) ∧
          ∃ check, Scalar.int16.rangeCheck? = some check ∧
            preparation = check.lines .java (read.text (function.sourceOf field))) ∨
        ((∃ q, plain = .named (.declared q) ∧ catalog.isEnum q) ∧ read = .apply .get .operand ∧
          preparation = [])) ∧
      ∀ word, ((CodeExpr.apply .charCast read).eval (.list word)).isSome ↔
        plain = .scalar .int16 := by
  obtain ⟨blocks, hblocks, rfl⟩ := blocks_of_converterFunction hstyle h
  obtain ⟨block, hblock, hmade⟩ := Outcome.mapM_mem hblocks hfield
  obtain ⟨descriptor, hdescribe, rfl⟩ := Outcome.except_map_ok_iff.mp hmade
  have hplaced := FieldBlock.placed_isInfix hblock .java (accessOf schema.style) schema.name
  rw [FieldBlock.placed, FieldBlock.lines, Access.read_eq_reading] at hplaced
  have hknows := knowsEnums_of_describe hdescribe
  cases hvec.describedAs hdescribe with
  | @vec _ found inner label hplain hinner =>
      obtain rfl := hplain.unique helement
      rcases hbacked.atom hinner hknows with ⟨rfl, hatom⟩ | ⟨q, rfl, henum, hatom⟩
      · rw [lines_of_vector hatom] at hplaced
        refine ⟨_, .apply .shortValue (.apply .get .operand), _, rfl,
          ConverterFunction.text_of_body rfl, hplaced, Or.inl ⟨rfl, rfl, _, rfl, ?_⟩,
          fun word => ?_⟩
        · exact List.append_nil _
        · exact iff_of_true rfl rfl
      · rw [lines_of_vector hatom] at hplaced
        refine ⟨_, .apply .get .operand, _, rfl, ConverterFunction.text_of_body rfl, hplaced,
          Or.inr ⟨⟨q, rfl, henum⟩, rfl, rfl⟩, fun word => ?_⟩
        exact iff_of_false Bool.false_ne_true (by simp)

/-- A vector of numbers behind a typedef, and one of an enum whose parent is an enum over
`int16`. -/
def gradeSeries : Catalog :=
  ⟨[{ name := typeName "Count", comment := none, scopes := [], subTypes := []
      body := .typedef (.scalar .int16) },
    { name := typeName "Level", comment := none, scopes := [], subTypes := []
      body := .enum (.scalar .int16) [] },
    { name := typeName "Grade", comment := none, scopes := [], subTypes := []
      body := .enum (.named (.declared (typeName "Level"))) [] },
    { name := typeName "Series", comment := none, scopes := [], subTypes := []
      body := .compound .struct [counts, grades] }]⟩
where
  typeName (name : String) : QualifiedName := ⟨"p", ⟨1, 0⟩, some name, []⟩
  vector (name element : String) : Field :=
    { name := some name, type := .vec (.named (.declared (typeName element)))
      owner := typeName "Series", origin := ⟨1, 0⟩, access := some name, comment := none }
  counts : Field := vector "counts" "Count"
  grades : Field := vector "grades" "Grade"
  schema : MergedSchema :=
    { name := typeName "Series", style := .struct, fields := [counts, grades], subTypes := [] }

/-- The counts are taken out of their objects, and the grades are not. -/
theorem char_casts_gradeSeries :
    ∃ function body, gradeSeries.converterFunction .java (fun _ => true) .default
        gradeSeries.schema = .ok function ∧ function.body? = some body ∧
      (∃ preparation, Target.java.loop "in.counts" false "char" preparation
        "(char) in.counts.get(i).shortValue()" ⟨"out.counts", none, none⟩ <:+: body) ∧
      Target.java.loop "in.grades" false "char" [] "(char) in.grades.get(i)"
        ⟨"out.grades", none, none⟩ <:+: body := by
  obtain ⟨function, hfunction⟩ : ∃ function, gradeSeries.converterFunction .java
      (fun _ => true) .default gradeSeries.schema = .ok function := ⟨_, rfl⟩
  have hfields : gradeSeries.counts ∈ gradeSeries.schema.fields ∧
      gradeSeries.grades ∈ gradeSeries.schema.fields :=
    ⟨List.mem_cons_self, List.mem_cons_of_mem _ List.mem_cons_self⟩
  obtain ⟨body, read, preparation, hbody, -, hcounts, hread, -⟩ := char_casts_of_vector hfunction
    (by decide) hfields.1 (.self rfl) (.typedef rfl (.self rfl)) (.scalar .int16)
  obtain ⟨body', read', preparation', hbody', -, hgrades, hread', -⟩ :=
    char_casts_of_vector hfunction
    (by decide) hfields.2 (.self rfl) (.self rfl) (.parent rfl (.parent rfl (.scalar .int16)))
  obtain rfl := Option.some.inj (hbody.symm.trans hbody')
  obtain rfl := Except.ok.inj hfunction
  refine ⟨_, body, rfl, hbody, ?_, ?_⟩
  · rcases hread with ⟨-, rfl, -⟩ | ⟨⟨q, hplain, -⟩, -⟩
    · exact ⟨preparation, hcounts⟩
    · cases hplain
  · rcases hread' with ⟨hplain, -⟩ | ⟨-, rfl, rfl⟩
    · cases hplain
    · exact hgrades

end Catalog

end HalBridge
