import HalBridge.Resolver.Loading
import HalBridge.Proofs.CatalogNames
import Mathlib.Data.List.Perm.Subperm

/-!
# Chains that end

A chain of typedefs or of parent enums is followed with a bound on the number of steps and with a
list of the members passed. Both are ways to find out one thing: whether the chain ends, which is
said here by induction. A check that succeeds shows that it ends, and a chain that ends is followed
to its end in every catalogue that has the declarations.
-/

namespace HalBridge

namespace Chain

/-- The members that following `next` passes, up to the last one. -/
inductive Passes (next : QualifiedName → Option QualifiedName) :
    QualifiedName → List QualifiedName → Prop
  | last {q : QualifiedName} (h : next q = none) : Passes next q [q]
  | step {q following : QualifiedName} {path : List QualifiedName} (h : next q = some following)
      (rest : Passes next following path) : Passes next q (q :: path)

variable {next : QualifiedName → Option QualifiedName} {q : QualifiedName}
  {path passed : List QualifiedName} {bound : Nat}

theorem passes_of_followFrom (h : (followFrom next bound path q).repeated = none) :
    ∃ passed, (followFrom next bound path q).path = path ++ passed ∧ Passes next q passed := by
  fun_induction followFrom next bound path q with
  | case1 => cases h
  | case2 bound path q hfresh hnext => exact ⟨[q], rfl, .last hnext⟩
  | case3 => cases h
  | case4 path q hfresh following bound hnext ih =>
      obtain ⟨passed, hpath, hpasses⟩ := ih h
      refine ⟨q :: passed, ?_, .step hnext hpasses⟩
      rw [hpath, List.append_assoc, List.singleton_append]

theorem passes_of_follow (h : (follow next bound q).repeated = none) :
    Passes next q (follow next bound q).path := by
  obtain ⟨passed, hpath, hpasses⟩ := passes_of_followFrom h
  rw [follow, hpath]
  exact hpasses

theorem Passes.ne_nil (h : Passes next q passed) : passed ≠ [] := by
  cases h with
  | last => exact List.cons_ne_nil _ _
  | step => exact List.cons_ne_nil _ _

theorem Passes.unique {other : List QualifiedName} (h : Passes next q passed)
    (h' : Passes next q other) : passed = other := by
  induction h generalizing other with
  | last hnext =>
      cases h' with
      | last => rfl
      | step hnext' =>
          rw [hnext] at hnext'
          cases hnext'
  | step hnext rest ih =>
      cases h' with
      | last hnext' =>
          rw [hnext] at hnext'
          cases hnext'
      | step hnext' rest' =>
          rw [hnext] at hnext'
          obtain rfl := Option.some.inj hnext'
          rw [ih rest']

/-- From each member on, the chain passes the rest. -/
theorem Passes.from_mem {member : QualifiedName} (h : Passes next q passed)
    (hmember : member ∈ passed) :
    ∃ rest, Passes next member rest ∧ rest.length ≤ passed.length := by
  induction h with
  | last hnext =>
      rw [List.mem_singleton.mp hmember]
      exact ⟨_, .last hnext, Nat.le_refl _⟩
  | step hnext rest ih =>
      rcases List.mem_cons.mp hmember with rfl | hmember
      · exact ⟨_, .step hnext rest, Nat.le_refl _⟩
      · obtain ⟨tail, htail, hlength⟩ := ih hmember
        exact ⟨tail, htail, Nat.le_succ_of_le hlength⟩

/-- A chain that ends passes no member twice. -/
theorem Passes.nodup (h : Passes next q passed) : passed.Nodup := by
  induction h with
  | last => exact List.nodup_singleton _
  | @step q following path hnext rest ih =>
      refine List.nodup_cons.mpr ⟨?_, ih⟩
      intro hagain
      obtain ⟨tail, htail, hlength⟩ := rest.from_mem hagain
      have hsame : q :: path = tail := (Passes.step hnext rest).unique htail
      rw [← hsame, List.length_cons] at hlength
      exact Nat.not_succ_le_self _ hlength

theorem followFrom_of_passes (h : Passes next q passed) (hfresh : ∀ member ∈ passed, member ∉ path)
    (hbound : passed.length ≤ bound + 1) :
    followFrom next bound path q = ⟨path ++ passed, none⟩ := by
  induction h generalizing path bound with
  | last hnext =>
      unfold followFrom
      rw [if_neg (hfresh _ List.mem_cons_self), hnext]
  | @step q following tail hnext rest ih =>
      have hmore : 0 < tail.length := List.length_pos_of_ne_nil rest.ne_nil
      obtain ⟨bound, rfl⟩ : ∃ less, bound = less + 1 := by
        refine ⟨bound - 1, ?_⟩
        rw [List.length_cons] at hbound
        omega
      have hnodup := (Passes.step hnext rest).nodup
      have hrest : ∀ member ∈ tail, member ∉ path ++ [q] := by
        intro member hmember hpassed
        rcases List.mem_append.mp hpassed with hpassed | hpassed
        · exact hfresh member (List.mem_cons_of_mem _ hmember) hpassed
        · rw [List.mem_singleton.mp hpassed] at hmember
          exact (List.nodup_cons.mp hnodup).1 hmember
      unfold followFrom
      rw [if_neg (hfresh _ List.mem_cons_self), hnext]
      simp only [ih hrest (Nat.le_of_succ_le_succ hbound), List.append_assoc,
        List.singleton_append]

end Chain

namespace Catalog

/-- Following typedefs from a type comes to an end. -/
inductive AliasEnds (catalog : Catalog) : Ty → Prop
  | stop {type : Ty} (h : catalog.typedefOf? type = none) : AliasEnds catalog type
  | step {q : QualifiedName} {aliased : Ty} (h : catalog.aliased? q = some aliased)
      (rest : AliasEnds catalog aliased) : AliasEnds catalog (.named (.declared q))

/-- Following parent enums from the storage of an enum comes to a scalar. -/
inductive EndsInScalar (catalog : Catalog) : Ty → Prop
  | scalar (scalar : Scalar) : EndsInScalar catalog (.scalar scalar)
  | parent {q : QualifiedName} {storage : Ty} (h : catalog.storage? q = some storage)
      (rest : EndsInScalar catalog storage) : EndsInScalar catalog (.named (.declared q))

/-- The chain that starts at a typedef or an enum ends. -/
structure ChainEnds (catalog : Catalog) (q : QualifiedName) : Prop where
  typedef : ∀ aliased, catalog.aliased? q = some aliased → catalog.AliasEnds aliased
  enum : ∀ storage, catalog.storage? q = some storage → catalog.EndsInScalar storage

variable {catalog larger : Catalog} {q : QualifiedName} {type : Ty}
  {passed : List QualifiedName}

theorem typedefOf_eq_some_iff :
    catalog.typedefOf? type = some q ↔ type = .named (.declared q) ∧ catalog.isTypedef q := by
  unfold typedefOf?
  split <;> grind

theorem enumOf_eq_some_iff :
    catalog.enumOf? type = some q ↔ type = .named (.declared q) ∧ catalog.isEnum q := by
  unfold enumOf?
  split <;> grind

theorem isTypedef_of_aliased {aliased : Ty} (h : catalog.aliased? q = some aliased) :
    catalog.isTypedef q :=
  Option.isSome_iff_exists.mpr ⟨aliased, h⟩

theorem isEnum_of_storage {storage : Ty} (h : catalog.storage? q = some storage) :
    catalog.isEnum q :=
  Option.isSome_iff_exists.mpr ⟨storage, h⟩

theorem mem_names_of_aliased {aliased : Ty} (h : catalog.aliased? q = some aliased) :
    q ∈ catalog.names := by
  rw [← contains_iff, contains]
  cases hfind : catalog.find? q with
  | none => simp [aliased?, hfind] at h
  | some decl => rfl

theorem mem_names_of_storage {storage : Ty} (h : catalog.storage? q = some storage) :
    q ∈ catalog.names := by
  rw [← contains_iff, contains]
  cases hfind : catalog.find? q with
  | none => simp [storage?, hfind] at h
  | some decl => rfl

theorem not_isTypedef_of_storage {storage : Ty} (h : catalog.storage? q = some storage) :
    ¬catalog.isTypedef q := by
  unfold storage? at h
  unfold isTypedef aliased?
  split at h
  · rename_i hbody
    simp [hbody]
  · cases h

/-- Nothing starts at a name that is not declared. -/
theorem chainEnds_of_not_mem (h : q ∉ catalog.names) : catalog.ChainEnds q where
  typedef := fun _ haliased => absurd (mem_names_of_aliased haliased) h
  enum := fun _ hstorage => absurd (mem_names_of_storage hstorage) h

/-! ### What a successful check shows -/

theorem aliasEnds_of_passes
    (h : Chain.Passes (fun q => (catalog.aliased? q).bind catalog.typedefOf?) q passed) :
    ∀ aliased, catalog.aliased? q = some aliased → catalog.AliasEnds aliased := by
  induction h with
  | last hnext =>
      intro aliased haliased
      rw [haliased, Option.bind_some] at hnext
      exact .stop hnext
  | step hnext rest ih =>
      intro aliased haliased
      rw [haliased, Option.bind_some, typedefOf_eq_some_iff] at hnext
      obtain ⟨rfl, htypedef⟩ := hnext
      obtain ⟨following, hfollowing⟩ := Option.isSome_iff_exists.mp htypedef
      exact .step hfollowing (ih following hfollowing)

theorem endsInScalar_of_passes {scalar : Scalar} (h : Chain.Passes catalog.parentEnum? q passed)
    (hlast : passed.getLast?.bind catalog.storage? = some (.scalar scalar)) :
    ∀ storage, catalog.storage? q = some storage → catalog.EndsInScalar storage := by
  induction h with
  | last =>
      intro storage hstorage
      rw [List.getLast?_singleton, Option.bind_some, hstorage] at hlast
      rw [Option.some.inj hlast]
      exact .scalar scalar
  | @step q following path hnext rest ih =>
      intro storage hstorage
      rw [parentEnum?, hstorage, Option.bind_some, enumOf_eq_some_iff] at hnext
      obtain ⟨rfl, henum⟩ := hnext
      obtain ⟨parent, hparent⟩ := Option.isSome_iff_exists.mp henum
      rw [List.getLast?_cons_of_ne_nil rest.ne_nil] at hlast
      exact .parent hparent (ih hlast parent hparent)

theorem aliasEnds_of_resolveAlias {resolved : Ty}
    (h : catalog.resolveAlias (.named (.declared q)) = .ok resolved) :
    ∀ aliased, catalog.aliased? q = some aliased → catalog.AliasEnds aliased := by
  intro aliased haliased
  have htypedef : catalog.typedefOf? (.named (.declared q)) = some q :=
    typedefOf_eq_some_iff.mpr ⟨rfl, isTypedef_of_aliased haliased⟩
  simp only [resolveAlias, htypedef] at h
  cases hrepeated : (catalog.typedefChain q).repeated with
  | some again =>
      rw [hrepeated] at h
      cases h
  | none => exact aliasEnds_of_passes (Chain.passes_of_follow hrepeated) aliased haliased

theorem endsInScalar_of_enumScalar {scalar : Scalar} (h : catalog.enumScalar q = .ok scalar) :
    ∀ storage, catalog.storage? q = some storage → catalog.EndsInScalar storage := by
  simp only [enumScalar] at h
  cases hrepeated : (catalog.enumChain q).repeated with
  | some again =>
      rw [hrepeated] at h
      cases h
  | none =>
      rw [hrepeated] at h
      dsimp only at h
      split at h
      · rename_i found hlast
        exact endsInScalar_of_passes (Chain.passes_of_follow hrepeated) hlast
      · cases h

theorem chainEnds_of_checkChain (h : Resolver.checkChain catalog q = .ok ()) :
    catalog.ChainEnds q := by
  unfold Resolver.checkChain at h
  constructor
  · intro aliased haliased
    rw [if_pos (isTypedef_of_aliased haliased)] at h
    cases hresolve : catalog.resolveAlias (.named (.declared q)) with
    | error error =>
        rw [hresolve] at h
        cases h
    | ok resolved => exact aliasEnds_of_resolveAlias hresolve aliased haliased
  · intro storage hstorage
    rw [if_neg (not_isTypedef_of_storage hstorage),
      if_pos (isEnum_of_storage hstorage)] at h
    cases hscalar : catalog.enumScalar q with
    | error error =>
        rw [hscalar] at h
        cases h
    | ok scalar => exact endsInScalar_of_enumScalar hscalar storage hstorage

theorem chainEnds_of_checkChains {names : List QualifiedName}
    (h : Resolver.checkChains catalog names = .ok ()) : ∀ q ∈ names, catalog.ChainEnds q := by
  induction names with
  | nil => simp
  | cons first rest ih =>
      unfold Resolver.checkChains at h
      cases hfirst : Resolver.checkChain catalog first with
      | error error =>
          rw [hfirst] at h
          cases h
      | ok _ =>
          rw [hfirst] at h
          intro q hq
          rcases List.mem_cons.mp hq with rfl | hq
          · exact chainEnds_of_checkChain hfirst
          · exact ih h q hq

/-! ### Chains that end are followed to their end -/

theorem passes_of_aliasEnds {aliased : Ty} (h : catalog.AliasEnds aliased)
    (haliased : catalog.aliased? q = some aliased) :
    ∃ passed final,
      Chain.Passes (fun q => (catalog.aliased? q).bind catalog.typedefOf?) q passed ∧
        passed ⊆ catalog.names ∧ passed.getLast?.bind catalog.aliased? = some final := by
  induction h generalizing q with
  | @stop final hstop =>
      refine ⟨[q], final, .last ?_, ?_, ?_⟩
      · rw [haliased, Option.bind_some, hstop]
      · intro member hmember
        rw [List.mem_singleton.mp hmember]
        exact mem_names_of_aliased haliased
      · rw [List.getLast?_singleton, Option.bind_some, haliased]
  | @step following aliased hfollowing rest ih =>
      obtain ⟨passed, final, hpasses, hnames, hlast⟩ := ih hfollowing
      refine ⟨q :: passed, final, .step ?_ hpasses, ?_, ?_⟩
      · rw [haliased, Option.bind_some, typedefOf_eq_some_iff]
        exact ⟨rfl, isTypedef_of_aliased hfollowing⟩
      · exact List.cons_subset.mpr ⟨mem_names_of_aliased haliased, hnames⟩
      · rw [List.getLast?_cons_of_ne_nil hpasses.ne_nil, hlast]

theorem passes_of_endsInScalar {storage : Ty} (h : catalog.EndsInScalar storage)
    (hstorage : catalog.storage? q = some storage) :
    ∃ passed scalar, Chain.Passes catalog.parentEnum? q passed ∧ passed ⊆ catalog.names ∧
      passed.getLast?.bind catalog.storage? = some (.scalar scalar) := by
  induction h generalizing q with
  | scalar scalar =>
      refine ⟨[q], scalar, .last ?_, ?_, ?_⟩
      · rw [parentEnum?, hstorage, Option.bind_some]
        rfl
      · intro member hmember
        rw [List.mem_singleton.mp hmember]
        exact mem_names_of_storage hstorage
      · rw [List.getLast?_singleton, Option.bind_some, hstorage]
  | @parent following storage hfollowing rest ih =>
      obtain ⟨passed, scalar, hpasses, hnames, hlast⟩ := ih hfollowing
      refine ⟨q :: passed, scalar, .step ?_ hpasses, ?_, ?_⟩
      · rw [parentEnum?, hstorage, Option.bind_some, enumOf_eq_some_iff]
        exact ⟨rfl, isEnum_of_storage hfollowing⟩
      · exact List.cons_subset.mpr ⟨mem_names_of_storage hstorage, hnames⟩
      · rw [List.getLast?_cons_of_ne_nil hpasses.ne_nil, hlast]

/-- The number of declarations bounds the chains of declared names. -/
theorem follow_of_passes {next : QualifiedName → Option QualifiedName}
    (h : Chain.Passes next q passed) (hnames : passed ⊆ catalog.names) :
    Chain.follow next catalog.decls.length q = ⟨passed, none⟩ := by
  have hlength := (List.subperm_of_subset h.nodup hnames).length_le
  rw [names, List.length_map] at hlength
  exact Chain.followFrom_of_passes h (fun _ _ => List.not_mem_nil) (Nat.le_succ_of_le hlength)

theorem EndsInScalar.enumScalar {storage : Ty} (h : catalog.EndsInScalar storage)
    (hstorage : catalog.storage? q = some storage) :
    ∃ scalar, catalog.enumScalar q = .ok scalar := by
  obtain ⟨passed, scalar, hpasses, hnames, hlast⟩ := passes_of_endsInScalar h hstorage
  refine ⟨scalar, ?_⟩
  simp only [Catalog.enumScalar, enumChain, follow_of_passes hpasses hnames, hlast]

theorem AliasEnds.resolveAlias {aliased : Ty} (h : catalog.AliasEnds aliased)
    (haliased : catalog.aliased? q = some aliased) :
    ∃ resolved, catalog.resolveAlias (.named (.declared q)) = .ok resolved := by
  obtain ⟨passed, final, hpasses, hnames, -⟩ := passes_of_aliasEnds h haliased
  have htypedef : catalog.typedefOf? (.named (.declared q)) = some q :=
    typedefOf_eq_some_iff.mpr ⟨rfl, isTypedef_of_aliased haliased⟩
  simp only [Catalog.resolveAlias, htypedef, typedefChain, follow_of_passes hpasses hnames]
  exact ⟨_, rfl⟩

/-- The check of a chain that ends succeeds. -/
theorem ChainEnds.checkChain (h : catalog.ChainEnds q) :
    Resolver.checkChain catalog q = .ok () := by
  unfold Resolver.checkChain
  split
  · rename_i htypedef
    obtain ⟨aliased, haliased⟩ := Option.isSome_iff_exists.mp htypedef
    obtain ⟨resolved, hresolved⟩ := (h.typedef aliased haliased).resolveAlias haliased
    rw [hresolved]
    rfl
  · split
    · rename_i henum
      obtain ⟨storage, hstorage⟩ := Option.isSome_iff_exists.mp henum
      obtain ⟨scalar, hscalar⟩ := (h.enum storage hstorage).enumScalar hstorage
      rw [hscalar]
      rfl
    · rfl

theorem checkChains_of_chainEnds {names : List QualifiedName}
    (h : ∀ q ∈ names, catalog.ChainEnds q) : Resolver.checkChains catalog names = .ok () := by
  induction names with
  | nil => rfl
  | cons first rest ih =>
      unfold Resolver.checkChains
      rw [(h first List.mem_cons_self).checkChain]
      exact ih fun q hq => h q (List.mem_cons_of_mem _ hq)

/-! ### Chains in a catalogue that grows -/

/-- What a type refers to as declared is declared. -/
def Covers (catalog : Catalog) (type : Ty) : Prop :=
  ∀ q, type.ref? = some (.declared q) → catalog.contains q

theorem aliased_of_isPrefix (h : catalog.decls <+: larger.decls) (hcontains : catalog.contains q) :
    larger.aliased? q = catalog.aliased? q := by
  rw [aliased?, aliased?, find_of_isPrefix h hcontains]

theorem storage_of_isPrefix (h : catalog.decls <+: larger.decls) (hcontains : catalog.contains q) :
    larger.storage? q = catalog.storage? q := by
  rw [storage?, storage?, find_of_isPrefix h hcontains]

theorem typedefOf_of_isPrefix (h : catalog.decls <+: larger.decls) (hcovers : catalog.Covers type) :
    larger.typedefOf? type = catalog.typedefOf? type := by
  unfold typedefOf?
  split
  · rename_i q
    rw [isTypedef, isTypedef, aliased_of_isPrefix h (hcovers q rfl)]
  · rfl

theorem mem_types_of_aliased {aliased : Ty} (h : catalog.aliased? q = some aliased) :
    ∃ decl ∈ catalog.decls, aliased ∈ decl.body.types := by
  unfold aliased? at h
  split at h
  · rename_i found hbody
    obtain ⟨decl, hfind, hdecl⟩ := Option.map_eq_some_iff.mp hbody
    refine ⟨decl, mem_of_find hfind, ?_⟩
    rw [hdecl, ← Option.some.inj h]
    exact List.mem_singleton_self _
  · cases h

theorem AliasEnds.of_isPrefix (hfront : catalog.decls <+: larger.decls)
    (hclosed : ∀ decl ∈ catalog.decls, ∀ type ∈ decl.body.types, catalog.Covers type)
    (hcovers : catalog.Covers type) (h : catalog.AliasEnds type) : larger.AliasEnds type := by
  induction h with
  | stop hstop =>
      refine .stop ?_
      rw [typedefOf_of_isPrefix hfront hcovers, hstop]
  | step haliased rest ih =>
      obtain ⟨decl, hdecl, htype⟩ := mem_types_of_aliased haliased
      refine .step ?_ (ih (hclosed decl hdecl _ htype))
      rw [aliased_of_isPrefix hfront (contains_iff.mpr (mem_names_of_aliased haliased)), haliased]

theorem EndsInScalar.of_isPrefix (hfront : catalog.decls <+: larger.decls)
    (h : catalog.EndsInScalar type) : larger.EndsInScalar type := by
  induction h with
  | scalar scalar => exact .scalar scalar
  | parent hstorage rest ih =>
      refine .parent ?_ ih
      rw [storage_of_isPrefix hfront (contains_iff.mpr (mem_names_of_storage hstorage)), hstorage]

/-- The chains of a catalogue end also if declarations are added, as long as none of its types
refers to a declaration that is only added. -/
theorem ChainEnds.of_isPrefix (hfront : catalog.decls <+: larger.decls)
    (hclosed : ∀ decl ∈ catalog.decls, ∀ type ∈ decl.body.types, catalog.Covers type)
    (hcontains : catalog.contains q) (h : catalog.ChainEnds q) : larger.ChainEnds q := by
  constructor
  · intro aliased haliased
    rw [aliased_of_isPrefix hfront hcontains] at haliased
    obtain ⟨decl, hdecl, htype⟩ := mem_types_of_aliased haliased
    exact (h.typedef aliased haliased).of_isPrefix hfront hclosed (hclosed decl hdecl _ htype)
  · intro storage hstorage
    rw [storage_of_isPrefix hfront hcontains] at hstorage
    exact (h.enum storage hstorage).of_isPrefix hfront

/-! ### Chains in a part of a catalogue -/

/-- The declarations of `catalog` are also those of `larger`, and none of them refers to one that
only `larger` has. -/
structure PartOf (catalog larger : Catalog) : Prop where
  find : ∀ q ∈ catalog.names, larger.find? q = catalog.find? q
  closed : ∀ decl ∈ catalog.decls, ∀ type ∈ decl.body.types, catalog.Covers type

theorem PartOf.aliased_eq (h : catalog.PartOf larger) (hq : q ∈ catalog.names) :
    larger.aliased? q = catalog.aliased? q := by
  rw [aliased?, aliased?, h.find q hq]

theorem PartOf.storage_eq (h : catalog.PartOf larger) (hq : q ∈ catalog.names) :
    larger.storage? q = catalog.storage? q := by
  rw [storage?, storage?, h.find q hq]

theorem mem_types_of_storage {storage : Ty} (h : catalog.storage? q = some storage) :
    ∃ decl ∈ catalog.decls, storage ∈ decl.body.types := by
  unfold storage? at h
  split at h
  · rename_i found values hbody
    obtain ⟨decl, hfind, hdecl⟩ := Option.map_eq_some_iff.mp hbody
    refine ⟨decl, mem_of_find hfind, ?_⟩
    rw [hdecl, ← Option.some.inj h]
    exact List.mem_singleton_self _
  · cases h

theorem AliasEnds.of_partOf (hpart : catalog.PartOf larger) (hcovers : catalog.Covers type)
    (h : larger.AliasEnds type) : catalog.AliasEnds type := by
  induction h with
  | @stop type hstop =>
      refine .stop ?_
      rw [Option.eq_none_iff_forall_ne_some] at hstop ⊢
      intro q hq
      obtain ⟨rfl, htypedef⟩ := typedefOf_eq_some_iff.mp hq
      refine hstop q (typedefOf_eq_some_iff.mpr ⟨rfl, ?_⟩)
      rwa [isTypedef, hpart.aliased_eq (contains_iff.mp (hcovers q rfl))]
  | @step q aliased haliased _ ih =>
      rw [hpart.aliased_eq (contains_iff.mp (hcovers q rfl))] at haliased
      obtain ⟨decl, hdecl, htype⟩ := mem_types_of_aliased haliased
      exact .step haliased (ih (hpart.closed decl hdecl _ htype))

theorem EndsInScalar.of_partOf (hpart : catalog.PartOf larger) (hcovers : catalog.Covers type)
    (h : larger.EndsInScalar type) : catalog.EndsInScalar type := by
  induction h with
  | scalar scalar => exact .scalar scalar
  | @parent q storage hstorage _ ih =>
      rw [hpart.storage_eq (contains_iff.mp (hcovers q rfl))] at hstorage
      obtain ⟨decl, hdecl, htype⟩ := mem_types_of_storage hstorage
      exact .parent hstorage (ih (hpart.closed decl hdecl _ htype))

/-- A chain that ends in a catalogue ends in each part of it. -/
theorem ChainEnds.of_partOf (hpart : catalog.PartOf larger) (h : larger.ChainEnds q) :
    catalog.ChainEnds q := by
  constructor
  · intro aliased haliased
    obtain ⟨decl, hdecl, htype⟩ := mem_types_of_aliased haliased
    refine (h.typedef aliased ?_).of_partOf hpart (hpart.closed decl hdecl _ htype)
    rw [hpart.aliased_eq (mem_names_of_aliased haliased), haliased]
  · intro storage hstorage
    obtain ⟨decl, hdecl, htype⟩ := mem_types_of_storage hstorage
    refine (h.enum storage ?_).of_partOf hpart (hpart.closed decl hdecl _ htype)
    rw [hpart.storage_eq (mem_names_of_storage hstorage), hstorage]

end Catalog

end HalBridge
