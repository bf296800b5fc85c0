import HalBridge.Proofs.Outcomes
import HalBridge.Proofs.ShapeTotal

/-!
# What a type stands for

A type stands for the type at the end of its chain of typedefs, which is no typedef itself. What is
described for a type is read off the type that it stands for: a container is described by its
element, in which typedefs are unfolded again, an enum by the scalar behind it, and any other named
type as a union or a record.
-/

namespace HalBridge

namespace Catalog

/-- Behind the typedefs of `type` is `plain`. -/
inductive StandsFor (catalog : Catalog) : Ty → Ty → Prop
  | self {type : Ty} (h : catalog.typedefOf? type = none) : StandsFor catalog type type
  | typedef {q : QualifiedName} {aliased plain : Ty} (h : catalog.aliased? q = some aliased)
      (rest : StandsFor catalog aliased plain) :
      StandsFor catalog (.named (.declared q)) plain

variable {catalog : Catalog} {q : QualifiedName} {type plain other : Ty}
  {descriptor : Descriptor}

theorem StandsFor.eq_of_no_typedef (h : catalog.StandsFor type plain)
    (htype : catalog.typedefOf? type = none) : plain = type := by
  cases h with
  | self => rfl
  | typedef haliased =>
      rw [typedefOf_eq_some_iff.mpr ⟨rfl, isTypedef_of_aliased haliased⟩] at htype
      cases htype

theorem StandsFor.no_typedef (h : catalog.StandsFor type plain) :
    catalog.typedefOf? plain = none := by
  induction h with
  | self h => exact h
  | typedef _ _ ih => exact ih

/-- A type stands for one type only. -/
theorem StandsFor.unique (h : catalog.StandsFor type plain)
    (hother : catalog.StandsFor type other) : other = plain := by
  induction h with
  | self h => exact hother.eq_of_no_typedef h
  | typedef haliased _ ih =>
      cases hother with
      | self hnone =>
          rw [typedefOf_eq_some_iff.mpr ⟨rfl, isTypedef_of_aliased haliased⟩] at hnone
          cases hnone
      | typedef hagain hrest =>
          obtain rfl := Option.some.inj (haliased.symm.trans hagain)
          exact ih hrest

theorem standsFor_of_passes {passed : List QualifiedName}
    (h : Chain.Passes (fun q => (catalog.aliased? q).bind catalog.typedefOf?) q passed)
    (hq : catalog.isTypedef q) :
    ∃ final, passed.getLast?.bind catalog.aliased? = some final ∧
      catalog.StandsFor (.named (.declared q)) final := by
  induction h with
  | @last q hnext =>
      obtain ⟨aliased, haliased⟩ := Option.isSome_iff_exists.mp hq
      rw [haliased, Option.bind_some] at hnext
      exact ⟨aliased, by rw [List.getLast?_singleton, Option.bind_some, haliased],
        .typedef haliased (.self hnext)⟩
  | @step q following path hnext rest ih =>
      obtain ⟨aliased, haliased⟩ := Option.isSome_iff_exists.mp hq
      rw [haliased, Option.bind_some, typedefOf_eq_some_iff] at hnext
      obtain ⟨rfl, hfollowing⟩ := hnext
      obtain ⟨final, hfinal, hstands⟩ := ih hfollowing
      rw [List.getLast?_cons_of_ne_nil rest.ne_nil]
      exact ⟨final, hfinal, .typedef haliased hstands⟩

theorem standsFor_of_resolveAlias {resolved : Ty} (h : catalog.resolveAlias type = .ok resolved) :
    catalog.StandsFor type resolved := by
  unfold resolveAlias at h
  cases htypedef : catalog.typedefOf? type with
  | none =>
      rw [htypedef] at h
      obtain rfl := Except.ok.inj h
      exact .self htypedef
  | some q =>
      rw [htypedef] at h
      cases hrepeated : (catalog.typedefChain q).repeated with
      | some again =>
          simp only [hrepeated] at h
          cases h
      | none =>
          simp only [hrepeated] at h
          obtain ⟨rfl, hq⟩ := typedefOf_eq_some_iff.mp htypedef
          obtain ⟨final, hfinal, hstands⟩ :=
            standsFor_of_passes (Chain.passes_of_follow hrepeated) hq
          rw [show (catalog.typedefChain q).path.getLast?.bind catalog.aliased? = some final
            from hfinal, Option.getD_some] at h
          rwa [← Except.ok.inj h]

/-! ### Kinds of named types -/

/-- What is declared under a name, if anything is known about it. -/
def bodyOf? (catalog : Catalog) (ref : Ref) : Option Body :=
  (catalog.decl? ref).map Decl.body

def NamesEnum (catalog : Catalog) (ref : Ref) : Prop :=
  ∃ storage values, catalog.bodyOf? ref = some (.enum storage values)

/-- A union without a discriminator. -/
def NamesPlainUnion (catalog : Catalog) (ref : Ref) : Prop :=
  ∃ fields, catalog.bodyOf? ref = some (.compound .union fields)

def NamesSafeUnion (catalog : Catalog) (ref : Ref) : Prop :=
  ∃ fields, catalog.bodyOf? ref = some (.compound .safeUnion fields)

/-! ### Descriptors -/

/-- The descriptor of a type that is no typedef itself. -/
inductive DescribedAs (catalog : Catalog) : Ty → Descriptor → Prop
  | scalar (scalar : Scalar) : DescribedAs catalog (.scalar scalar) (.scalar scalar)
  | string : DescribedAs catalog .string .string
  | special (special : Special) : DescribedAs catalog (.special special) (.unsupported special)
  | vec {element plain : Ty} {descriptor : Descriptor} {label : String}
      (h : catalog.StandsFor element plain) (inner : DescribedAs catalog plain descriptor) :
      DescribedAs catalog (.vec element) (.sequence descriptor label)
  | array {element plain : Ty} {size : ArraySize} {descriptor : Descriptor} {label : String}
      (h : catalog.StandsFor element plain) (inner : DescribedAs catalog plain descriptor) :
      DescribedAs catalog (.array element size) (.fixedArray descriptor size label)
  | enum {ref : Ref} {backing : Scalar} {label : String} (h : catalog.NamesEnum ref) :
      DescribedAs catalog (.named ref) (.enum ref.name backing label)
  | plainUnion {ref : Ref} {label : String} (h : catalog.NamesPlainUnion ref) :
      DescribedAs catalog (.named ref) (.union ref.name false label)
  | safeUnion {ref : Ref} {label : String} (h : catalog.NamesSafeUnion ref) :
      DescribedAs catalog (.named ref) (.union ref.name true label)
  | record {ref : Ref} {label : String} (henum : ¬catalog.NamesEnum ref)
      (hunion : ¬catalog.NamesPlainUnion ref) (hsafe : ¬catalog.NamesSafeUnion ref) :
      DescribedAs catalog (.named ref) (.record ref.name label)

theorem describedAs_of_describeRef {ref : Ref}
    (h : catalog.describeRef ref = .ok descriptor) :
    catalog.DescribedAs (.named ref) descriptor := by
  unfold describeRef at h
  split at h
  · rename_i storage values hbody
    obtain ⟨backing, -, rfl⟩ := Outcome.except_map_ok_iff.mp h
    exact .enum ⟨storage, values, hbody⟩
  · rename_i fields hbody
    obtain rfl := Except.ok.inj h
    exact .plainUnion ⟨fields, hbody⟩
  · rename_i fields hbody
    obtain rfl := Except.ok.inj h
    exact .safeUnion ⟨fields, hbody⟩
  · rename_i henum hunion hsafe
    obtain rfl := Except.ok.inj h
    refine .record ?_ ?_ ?_
    · rintro ⟨storage, values, hbody⟩
      exact henum storage values hbody
    · rintro ⟨fields, hbody⟩
      exact hunion fields hbody
    · rintro ⟨fields, hbody⟩
      exact hsafe fields hbody

/-- The descriptor of a type fits what the type stands for, if this is so for the types behind the
typedefs in it. -/
theorem describedAs_of_shapeWith {jump : QualifiedName → Ty → Except Fault Shape} {shape : Shape}
    (hjump : ∀ q resolved shape descriptor, catalog.typedefOf? resolved = none →
      jump q resolved = .ok shape → catalog.describeShape shape = .ok descriptor →
      catalog.DescribedAs resolved descriptor)
    (hshape : catalog.shapeWith jump type = .ok shape)
    (h : catalog.describeShape shape = .ok descriptor) :
    ∃ plain, catalog.StandsFor type plain ∧ catalog.DescribedAs plain descriptor := by
  induction type generalizing shape descriptor with
  | scalar scalar =>
      obtain rfl := Except.ok.inj hshape
      obtain rfl := Except.ok.inj h
      exact ⟨_, .self rfl, .scalar scalar⟩
  | string =>
      obtain rfl := Except.ok.inj hshape
      obtain rfl := Except.ok.inj h
      exact ⟨_, .self rfl, .string⟩
  | special special =>
      obtain rfl := Except.ok.inj hshape
      obtain rfl := Except.ok.inj h
      exact ⟨_, .self rfl, .special special⟩
  | vec element ih =>
      obtain ⟨inner, hinner, hvec⟩ := Outcome.except_bind_ok_iff.mp hshape
      obtain rfl := Except.ok.inj hvec
      obtain ⟨found, hfound, rfl⟩ := Outcome.except_map_ok_iff.mp h
      obtain ⟨plain, hstands, hdescribed⟩ := ih hinner hfound
      exact ⟨_, .self rfl, .vec hstands hdescribed⟩
  | array element size ih =>
      obtain ⟨inner, hinner, harray⟩ := Outcome.except_bind_ok_iff.mp hshape
      obtain rfl := Except.ok.inj harray
      obtain ⟨found, hfound, rfl⟩ := Outcome.except_map_ok_iff.mp h
      obtain ⟨plain, hstands, hdescribed⟩ := ih hinner hfound
      exact ⟨_, .self rfl, .array hstands hdescribed⟩
  | named ref =>
      rw [shapeWith] at hshape
      cases htypedef : catalog.typedefOf? (.named ref) with
      | none =>
          rw [htypedef] at hshape
          obtain rfl := Except.ok.inj hshape
          exact ⟨_, .self htypedef, describedAs_of_describeRef h⟩
      | some q =>
          rw [htypedef] at hshape
          cases hresolve : catalog.resolveAlias (.named ref) with
          | error chain =>
              simp only [hresolve] at hshape
              cases hshape
          | ok resolved =>
              simp only [hresolve] at hshape
              have hstands := standsFor_of_resolveAlias hresolve
              exact ⟨resolved, hstands, hjump q resolved _ _ hstands.no_typedef hshape h⟩

theorem describedAs_of_shapeAt (depth : Nat) {shape : Shape}
    (hshape : catalog.shapeAt depth type = .ok shape)
    (h : catalog.describeShape shape = .ok descriptor) :
    ∃ plain, catalog.StandsFor type plain ∧ catalog.DescribedAs plain descriptor := by
  induction depth generalizing type shape descriptor with
  | zero =>
      refine describedAs_of_shapeWith ?_ hshape h
      intro q resolved shape descriptor _ hjump
      cases hjump
  | succ depth ih =>
      refine describedAs_of_shapeWith ?_ hshape h
      intro q resolved shape descriptor hresolved hjump hdescribe
      obtain ⟨plain, hstands, hdescribed⟩ := ih hjump hdescribe
      rwa [hstands.eq_of_no_typedef hresolved] at hdescribed

/-- A type is described as what it stands for. -/
theorem describedAs_of_describe (h : catalog.describe type = .ok descriptor) :
    ∃ plain, catalog.StandsFor type plain ∧ catalog.DescribedAs plain descriptor := by
  obtain ⟨shape, hshape, hdescribe⟩ := Outcome.except_bind_ok_iff.mp h
  cases hfound : catalog.describeShape shape with
  | error chain =>
      simp only [hfound] at hdescribe
      cases hdescribe
  | ok found =>
      simp only [hfound] at hdescribe
      obtain rfl := Except.ok.inj hdescribe
      exact describedAs_of_shapeAt _ hshape hfound

theorem StandsFor.describedAs (h : catalog.StandsFor type plain)
    (hdescribe : catalog.describe type = .ok descriptor) :
    catalog.DescribedAs plain descriptor := by
  obtain ⟨found, hfound, hdescribed⟩ := describedAs_of_describe hdescribe
  rwa [h.unique hfound] at hdescribed

end Catalog

end HalBridge
