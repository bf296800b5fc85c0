import HalBridge.Proofs.TypedefUnfolding

/-!
# Types without typedefs

Every typedef in a type can be replaced by what it stands for, at the top and inside containers.
The plain type that is left is the shape of the type without its labels, and a type has a shape just
if the replacing comes to an end. It ends if the typedefs that are met on the way do, and since they
are then all different, the declarations bound their number. The shape is also found level by level:
the typedefs around a container are stripped, and then those around its element.
-/

namespace HalBridge

/-- The type that a shape has, without the texts that its containers were written with. -/
def Shape.type : Shape → Ty
  | .scalar value => .scalar value
  | .string => .string
  | .vec element _ => .vec element.type
  | .array element size _ => .array element.type size
  | .special value => .special value
  | .named ref => .named ref

namespace Catalog

/-- Replacing every typedef in `type`, at any depth, by what it stands for gives `plain`. -/
inductive UnfoldsTo (catalog : Catalog) : Ty → Ty → Prop
  | scalar (scalar : Scalar) : UnfoldsTo catalog (.scalar scalar) (.scalar scalar)
  | string : UnfoldsTo catalog .string .string
  | special (special : Special) : UnfoldsTo catalog (.special special) (.special special)
  | vec {element plain : Ty} (h : UnfoldsTo catalog element plain) :
      UnfoldsTo catalog (.vec element) (.vec plain)
  | array {element plain : Ty} {size : ArraySize} (h : UnfoldsTo catalog element plain) :
      UnfoldsTo catalog (.array element size) (.array plain size)
  | named {ref : Ref} (h : catalog.typedefOf? (.named ref) = none) :
      UnfoldsTo catalog (.named ref) (.named ref)
  | typedef {q : QualifiedName} {aliased plain : Ty} (h : catalog.aliased? q = some aliased)
      (rest : UnfoldsTo catalog aliased plain) : UnfoldsTo catalog (.named (.declared q)) plain

variable {catalog : Catalog} {q : QualifiedName} {type plain other : Ty} {shape : Shape}

theorem typedefOf_of_aliased {aliased : Ty} (h : catalog.aliased? q = some aliased) :
    catalog.typedefOf? (.named (.declared q)) = some q :=
  typedefOf_eq_some_iff.mpr ⟨rfl, isTypedef_of_aliased h⟩

/-- A type unfolds to one type only. -/
theorem UnfoldsTo.unique (h : catalog.UnfoldsTo type plain)
    (hother : catalog.UnfoldsTo type other) : other = plain := by
  induction h generalizing other with
  | scalar | string | special =>
      cases hother
      rfl
  | vec _ ih =>
      cases hother with
      | vec helement => rw [ih helement]
  | array _ ih =>
      cases hother with
      | array helement => rw [ih helement]
  | named hnone =>
      cases hother with
      | named => rfl
      | typedef haliased =>
          rw [typedefOf_of_aliased haliased] at hnone
          cases hnone
  | typedef haliased _ ih =>
      cases hother with
      | named hnone =>
          rw [typedefOf_of_aliased haliased] at hnone
          cases hnone
      | typedef hagain hrest =>
          obtain rfl := Option.some.inj (haliased.symm.trans hagain)
          exact ih hrest

/-- In a plain type there is nothing left to replace. -/
theorem UnfoldsTo.plain_unfoldsTo (h : catalog.UnfoldsTo type plain) :
    catalog.UnfoldsTo plain plain := by
  induction h with
  | scalar scalar => exact .scalar scalar
  | string => exact .string
  | special special => exact .special special
  | vec _ ih => exact .vec ih
  | array _ ih => exact .array ih
  | named hnone => exact .named hnone
  | typedef _ _ ih => exact ih

theorem StandsFor.unfoldsTo {middle : Ty} (h : catalog.StandsFor type middle)
    (hmiddle : catalog.UnfoldsTo middle plain) : catalog.UnfoldsTo type plain := by
  induction h with
  | self => exact hmiddle
  | typedef haliased _ ih => exact .typedef haliased (ih hmiddle)

/-! ### Stripping level by level -/

/-- Stripping the typedefs around `type`, then those around its element, if it is a container, and
so on, gives `shape`. A container is labelled with its text before the element is stripped. -/
inductive StripsInto (catalog : Catalog) : Ty → Shape → Prop
  | scalar {type : Ty} {scalar : Scalar} (h : catalog.resolveAlias type = .ok (.scalar scalar)) :
      StripsInto catalog type (.scalar scalar)
  | string {type : Ty} (h : catalog.resolveAlias type = .ok .string) :
      StripsInto catalog type .string
  | special {type : Ty} {special : Special}
      (h : catalog.resolveAlias type = .ok (.special special)) :
      StripsInto catalog type (.special special)
  | named {type : Ty} {ref : Ref} (h : catalog.resolveAlias type = .ok (.named ref)) :
      StripsInto catalog type (.named ref)
  | vec {type element : Ty} {inner : Shape} (h : catalog.resolveAlias type = .ok (.vec element))
      (helement : StripsInto catalog element inner) :
      StripsInto catalog type (.vec inner (catalog.typeText (.vec element)))
  | array {type element : Ty} {size : ArraySize} {inner : Shape}
      (h : catalog.resolveAlias type = .ok (.array element size))
      (helement : StripsInto catalog element inner) :
      StripsInto catalog type (.array inner size (catalog.typeText (.array element size)))

theorem resolveAlias_of_no_typedef (h : catalog.typedefOf? type = none) :
    catalog.resolveAlias type = .ok type := by
  rw [Catalog.resolveAlias, h]

/-- Nothing is left to be stripped from what a type stands for. -/
theorem resolveAlias_resolved {resolved : Ty} (h : catalog.resolveAlias type = .ok resolved) :
    catalog.resolveAlias resolved = .ok resolved :=
  resolveAlias_of_no_typedef (standsFor_of_resolveAlias h).no_typedef

theorem StripsInto.of_resolveAlias {resolved : Ty} (hshape : catalog.StripsInto resolved shape)
    (h : catalog.resolveAlias type = .ok resolved) : catalog.StripsInto type shape := by
  have hself := resolveAlias_resolved h
  cases hshape with
  | scalar hresolved | string hresolved | special hresolved | named hresolved =>
      obtain rfl := Except.ok.inj (hself.symm.trans hresolved)
      first | exact .scalar h | exact .string h | exact .special h | exact .named h
  | vec hresolved helement =>
      obtain rfl := Except.ok.inj (hself.symm.trans hresolved)
      exact .vec h helement
  | array hresolved helement =>
      obtain rfl := Except.ok.inj (hself.symm.trans hresolved)
      exact .array h helement

theorem stripsInto_of_shapeWith {jump : QualifiedName → Ty → Except Fault Shape}
    (hjump : ∀ q resolved shape, jump q resolved = .ok shape → catalog.StripsInto resolved shape)
    (h : catalog.shapeWith jump type = .ok shape) : catalog.StripsInto type shape := by
  induction type generalizing shape with
  | scalar scalar =>
      obtain rfl := Except.ok.inj h
      exact .scalar (resolveAlias_of_no_typedef rfl)
  | string =>
      obtain rfl := Except.ok.inj h
      exact .string (resolveAlias_of_no_typedef rfl)
  | special special =>
      obtain rfl := Except.ok.inj h
      exact .special (resolveAlias_of_no_typedef rfl)
  | vec element ih =>
      obtain ⟨inner, hinner, h⟩ := Outcome.except_bind_ok_iff.mp h
      obtain rfl := Except.ok.inj h
      exact .vec (resolveAlias_of_no_typedef rfl) (ih hinner)
  | array element size ih =>
      obtain ⟨inner, hinner, h⟩ := Outcome.except_bind_ok_iff.mp h
      obtain rfl := Except.ok.inj h
      exact .array (resolveAlias_of_no_typedef rfl) (ih hinner)
  | named ref =>
      rw [Catalog.shapeWith] at h
      cases htypedef : catalog.typedefOf? (.named ref) with
      | none =>
          rw [htypedef] at h
          obtain rfl := Except.ok.inj h
          exact .named (resolveAlias_of_no_typedef htypedef)
      | some q =>
          rw [htypedef] at h
          cases hresolve : catalog.resolveAlias (.named ref) with
          | error chain =>
              simp only [hresolve] at h
              cases h
          | ok resolved =>
              simp only [hresolve] at h
              exact (hjump q resolved shape h).of_resolveAlias hresolve

theorem stripsInto_of_shapeAt (depth : Nat) (h : catalog.shapeAt depth type = .ok shape) :
    catalog.StripsInto type shape := by
  induction depth generalizing type shape with
  | zero =>
      refine stripsInto_of_shapeWith ?_ h
      intro q resolved shape hjump
      cases hjump
  | succ depth ih => exact stripsInto_of_shapeWith (fun _ _ _ hjump => ih hjump) h

theorem StripsInto.unfoldsTo (h : catalog.StripsInto type shape) :
    catalog.UnfoldsTo type shape.type := by
  induction h with
  | scalar h => exact (standsFor_of_resolveAlias h).unfoldsTo (.scalar _)
  | string h => exact (standsFor_of_resolveAlias h).unfoldsTo .string
  | special h => exact (standsFor_of_resolveAlias h).unfoldsTo (.special _)
  | named h =>
      have hstands := standsFor_of_resolveAlias h
      exact hstands.unfoldsTo (.named hstands.no_typedef)
  | vec h _ ih => exact (standsFor_of_resolveAlias h).unfoldsTo (.vec ih)
  | array h _ ih => exact (standsFor_of_resolveAlias h).unfoldsTo (.array ih)

/-- A type is stripped into one shape only. -/
theorem StripsInto.unique {twin : Shape} (h : catalog.StripsInto type shape)
    (htwin : catalog.StripsInto type twin) : twin = shape := by
  induction h generalizing twin with
  | scalar h | string h | special h | named h =>
      cases htwin <;> rename_i hagain <;> cases Except.ok.inj (h.symm.trans hagain)
      rfl
  | vec h _ ih =>
      cases htwin with
      | vec hagain helement =>
          cases Except.ok.inj (h.symm.trans hagain)
          rw [ih helement]
      | scalar hagain | string hagain | special hagain | named hagain | array hagain =>
          cases Except.ok.inj (h.symm.trans hagain)
  | array h _ ih =>
      cases htwin with
      | array hagain helement =>
          cases Except.ok.inj (h.symm.trans hagain)
          rw [ih helement]
      | scalar hagain | string hagain | special hagain | named hagain | vec hagain =>
          cases Except.ok.inj (h.symm.trans hagain)

/-! ### A type with a shape unfolds -/

theorem unfoldsTo_of_shape (h : catalog.shape type = .ok shape) :
    catalog.UnfoldsTo type shape.type :=
  (stripsInto_of_shapeAt _ h).unfoldsTo

/-! ### A type that unfolds has a shape -/

/-- The typedef that is named in a type, at whatever depth. -/
def typedefIn? (catalog : Catalog) (type : Ty) : Option QualifiedName :=
  type.ref?.bind fun ref => catalog.typedefOf? (.named ref)

/-- The typedef that is named in what a typedef stands for. -/
def nextTypedef? (catalog : Catalog) (q : QualifiedName) : Option QualifiedName :=
  (catalog.aliased? q).bind catalog.typedefIn?

/-- At most `bound` typedefs are met when `type` is unfolded. -/
def EndsWithin (catalog : Catalog) (bound : Nat) (type : Ty) : Prop :=
  ∀ q, catalog.typedefIn? type = some q →
    ∃ passed, Chain.Passes catalog.nextTypedef? q passed ∧ passed.length ≤ bound

theorem typedefIn_of_typedefOf (h : catalog.typedefOf? type = some q) :
    catalog.typedefIn? type = some q := by
  obtain ⟨rfl, -⟩ := typedefOf_eq_some_iff.mp h
  exact h

theorem passes_of_unfoldsTo (h : catalog.UnfoldsTo type plain) :
    ∀ q, catalog.typedefIn? type = some q →
      ∃ passed, Chain.Passes catalog.nextTypedef? q passed ∧ passed ⊆ catalog.names := by
  induction h with
  | scalar | string | special =>
      intro q hq
      cases hq
  | vec _ ih => exact ih
  | array _ ih => exact ih
  | named hnone =>
      intro q hq
      rw [show catalog.typedefIn? (.named _) = _ from hnone] at hq
      cases hq
  | @typedef name aliased plain haliased _ ih =>
      intro q hq
      rw [typedefIn_of_typedefOf (typedefOf_of_aliased haliased)] at hq
      obtain rfl := Option.some.inj hq
      have hnext : catalog.nextTypedef? name = catalog.typedefIn? aliased := by
        rw [nextTypedef?, haliased, Option.bind_some]
      have hname := mem_names_of_aliased haliased
      cases hin : catalog.typedefIn? aliased with
      | none =>
          refine ⟨[name], .last (hnext.trans hin), ?_⟩
          exact List.cons_subset.mpr ⟨hname, List.nil_subset _⟩
      | some following =>
          obtain ⟨passed, hpasses, hnames⟩ := ih following hin
          exact ⟨name :: passed, .step (hnext.trans hin) hpasses,
            List.cons_subset.mpr ⟨hname, hnames⟩⟩

theorem UnfoldsTo.endsWithin (h : catalog.UnfoldsTo type plain) :
    catalog.EndsWithin catalog.decls.length type := by
  intro q hq
  obtain ⟨passed, hpasses, hnames⟩ := passes_of_unfoldsTo h q hq
  refine ⟨passed, hpasses, ?_⟩
  have hlength := (List.subperm_of_subset hpasses.nodup hnames).length_le
  rwa [names, List.length_map] at hlength

/-- The chain of a typedef is a part of what is met when the typedef is unfolded. -/
theorem aliasEnds_of_nextTypedef {passed : List QualifiedName}
    (h : Chain.Passes catalog.nextTypedef? q passed) :
    ∀ aliased, catalog.aliased? q = some aliased → catalog.AliasEnds aliased := by
  induction h with
  | last hnext =>
      intro aliased haliased
      rw [nextTypedef?, haliased, Option.bind_some] at hnext
      refine .stop ?_
      by_contra hsome
      obtain ⟨r, hr⟩ := Option.ne_none_iff_exists'.mp hsome
      rw [typedefIn_of_typedefOf hr] at hnext
      cases hnext
  | step hnext _ ih =>
      intro aliased haliased
      rw [nextTypedef?, haliased, Option.bind_some] at hnext
      cases htypedef : catalog.typedefOf? aliased with
      | none => exact .stop htypedef
      | some r =>
          rw [typedefIn_of_typedefOf htypedef] at hnext
          obtain rfl := Option.some.inj hnext
          obtain ⟨rfl, hr⟩ := typedefOf_eq_some_iff.mp htypedef
          obtain ⟨behind, hbehind⟩ := Option.isSome_iff_exists.mp hr
          exact .step hbehind (ih behind hbehind)

/-- Behind a typedef there is one typedef less to be met. -/
theorem EndsWithin.aliased {bound : Nat} {aliased : Ty}
    (h : catalog.EndsWithin (bound + 1) (.named (.declared q)))
    (haliased : catalog.aliased? q = some aliased) : catalog.EndsWithin bound aliased := by
  intro r hr
  obtain ⟨passed, hpasses, hlength⟩ :=
    h q (typedefIn_of_typedefOf (typedefOf_of_aliased haliased))
  have hnext : catalog.nextTypedef? q = some r := by
    rw [nextTypedef?, haliased, Option.bind_some, hr]
  cases hpasses with
  | last hlast =>
      rw [hnext] at hlast
      cases hlast
  | step hstep rest =>
      obtain rfl := Option.some.inj (hnext.symm.trans hstep)
      exact ⟨_, rest, Nat.le_of_succ_le_succ hlength⟩

theorem EndsWithin.mono {bound more : Nat} (h : catalog.EndsWithin bound type)
    (hle : bound ≤ more) : catalog.EndsWithin more type := by
  intro q hq
  obtain ⟨passed, hpasses, hlength⟩ := h q hq
  exact ⟨passed, hpasses, Nat.le_trans hlength hle⟩

theorem StandsFor.endsWithin {bound : Nat} (h : catalog.StandsFor type plain)
    (hends : catalog.EndsWithin bound type) : catalog.EndsWithin bound plain := by
  induction h with
  | self => exact hends
  | typedef haliased _ ih =>
      exact ih ((hends.mono (Nat.le_succ bound)).aliased haliased)

/-- At least one typedef is met when a typedef is unfolded. -/
theorem EndsWithin.pos {bound : Nat} (h : catalog.EndsWithin bound (.named (.declared q)))
    (hq : catalog.isTypedef q) : 0 < bound := by
  obtain ⟨passed, hpasses, hlength⟩ :=
    h q (typedefIn_of_typedefOf (typedefOf_eq_some_iff.mpr ⟨rfl, hq⟩))
  exact Nat.lt_of_lt_of_le (List.length_pos_of_ne_nil hpasses.ne_nil) hlength

/-- What a typedef stands for, if unfolding it ends, and that less is met behind it. -/
theorem EndsWithin.resolveAlias {bound : Nat}
    (h : catalog.EndsWithin (bound + 1) (.named (.declared q))) (hq : catalog.isTypedef q) :
    ∃ resolved, catalog.resolveAlias (.named (.declared q)) = .ok resolved ∧
      catalog.EndsWithin bound resolved := by
  obtain ⟨aliased, haliased⟩ := Option.isSome_iff_exists.mp hq
  obtain ⟨passed, hpasses, -⟩ := h q (typedefIn_of_typedefOf (typedefOf_of_aliased haliased))
  have hends := aliasEnds_of_nextTypedef hpasses aliased haliased
  obtain ⟨resolved, hresolved⟩ := hends.resolveAlias haliased
  refine ⟨resolved, hresolved, ?_⟩
  cases standsFor_of_resolveAlias hresolved with
  | self hnone =>
      rw [typedefOf_of_aliased haliased] at hnone
      cases hnone
  | typedef hagain rest => exact rest.endsWithin (h.aliased hagain)

theorem EndsWithin.shapeWith {bound : Nat} {jump : QualifiedName → Ty → Except Fault Shape}
    (h : catalog.EndsWithin bound type)
    (hjump : ∀ q less resolved, bound = less + 1 → catalog.EndsWithin less resolved →
      ∃ shape, jump q resolved = .ok shape) :
    ∃ shape, catalog.shapeWith jump type = .ok shape := by
  induction type with
  | scalar scalar => exact ⟨_, rfl⟩
  | string => exact ⟨_, rfl⟩
  | special special => exact ⟨_, rfl⟩
  | vec element ih =>
      obtain ⟨inner, hinner⟩ := ih h
      exact ⟨_, Outcome.except_bind_ok_iff.mpr ⟨inner, hinner, rfl⟩⟩
  | array element size ih =>
      obtain ⟨inner, hinner⟩ := ih h
      exact ⟨_, Outcome.except_bind_ok_iff.mpr ⟨inner, hinner, rfl⟩⟩
  | named ref =>
      rw [Catalog.shapeWith]
      cases htypedef : catalog.typedefOf? (.named ref) with
      | none => exact ⟨_, rfl⟩
      | some q =>
          obtain ⟨href, hq⟩ := typedefOf_eq_some_iff.mp htypedef
          obtain rfl := Ty.named.inj href
          obtain ⟨less, rfl⟩ := Nat.exists_eq_succ_of_ne_zero (Nat.ne_of_gt (h.pos hq))
          obtain ⟨resolved, hresolved, hless⟩ := h.resolveAlias hq
          simp only [hresolved]
          exact hjump q less resolved rfl hless

theorem EndsWithin.shapeAt {bound : Nat} (h : catalog.EndsWithin bound type) :
    ∃ shape, catalog.shapeAt bound type = .ok shape := by
  induction bound generalizing type with
  | zero =>
      refine h.shapeWith ?_
      intro q less resolved hzero
      cases hzero
  | succ bound ih =>
      refine h.shapeWith ?_
      rintro q less resolved ⟨⟩ hless
      exact ih hless

/-- The shape of a type is the plain type it unfolds to, with labels. -/
theorem UnfoldsTo.exists_shape (h : catalog.UnfoldsTo type plain) :
    ∃ shape, catalog.shape type = .ok shape ∧ shape.type = plain := by
  obtain ⟨shape, hshape⟩ := h.endsWithin.shapeAt
  exact ⟨shape, hshape, h.unique (unfoldsTo_of_shape hshape)⟩

/-- The one pass that finds the shape of a type agrees with stripping it level by level. -/
theorem shape_eq_ok_iff : catalog.shape type = .ok shape ↔ catalog.StripsInto type shape := by
  constructor
  · exact stripsInto_of_shapeAt _
  · intro h
    obtain ⟨found, hfound, -⟩ := h.unfoldsTo.exists_shape
    rw [hfound, h.unique (stripsInto_of_shapeAt _ hfound)]

end Catalog

end HalBridge
