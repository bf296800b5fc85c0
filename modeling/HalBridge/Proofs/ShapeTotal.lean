import HalBridge.Proofs.ChainEnds
import HalBridge.Shape.Descriptor
import Mathlib.Logic.Relation

/-!
# Every type has a shape

Unfolding the typedefs of a type ends if the chains of typedefs end and no typedef contains itself.
The typedefs that are unfolded inside one another are then all different, so there are no more of
them than declarations, which is the depth that shapes are computed to. A shape is described
without fault, since behind every enum is a scalar.
-/

namespace HalBridge

namespace Chain

variable {next : QualifiedName → Option QualifiedName} {q last : QualifiedName}
  {passed : List QualifiedName}

theorem Passes.reaches_last (h : Passes next q passed) (hlast : passed.getLast? = some last) :
    Relation.ReflTransGen (fun q r => next q = some r) q last := by
  induction h with
  | last =>
      rw [List.getLast?_singleton] at hlast
      rw [Option.some.inj hlast]
  | step hnext rest ih =>
      rw [List.getLast?_cons_of_ne_nil rest.ne_nil] at hlast
      exact .head hnext (ih hlast)

end Chain

namespace Catalog

/-- The typedef `q` stands for a type in which `r` is named. -/
def Unfolds (catalog : Catalog) (q r : QualifiedName) : Prop :=
  ∃ type, catalog.aliased? q = some type ∧ type.ref? = some (.declared r)

/-- All chains end and no typedef contains itself. -/
structure Unfoldable (catalog : Catalog) : Prop where
  chains : ∀ q, catalog.ChainEnds q
  acyclic : ∀ q, ¬Relation.TransGen catalog.Unfolds q q

variable {catalog : Catalog} {q : QualifiedName}

/-! ### When no typedef contains itself -/

/-- The typedef `q` stands for another typedef or type, which is not inside a container. -/
def Renames (catalog : Catalog) (q r : QualifiedName) : Prop :=
  catalog.aliased? q = some (.named (.declared r))

/-- The typedef `q` stands for a container in which `r` is named. -/
def Contains (catalog : Catalog) (q r : QualifiedName) : Prop :=
  ∃ type, catalog.aliased? q = some type ∧ type.ref? = some (.declared r) ∧
    type ≠ .named (.declared r)

theorem Unfolds.renames_or_contains {r : QualifiedName} (h : catalog.Unfolds q r) :
    catalog.Renames q r ∨ catalog.Contains q r := by
  obtain ⟨type, htype, hr⟩ := h
  by_cases hnamed : type = .named (.declared r)
  · rw [hnamed] at htype
    exact Or.inl htype
  · exact Or.inr ⟨type, htype, hr, hnamed⟩

theorem AliasEnds.not_transGen_renames {type : Ty} (h : catalog.AliasEnds type)
    (htype : type = .named (.declared q)) : ¬Relation.TransGen catalog.Renames q q := by
  induction h generalizing q with
  | stop hstop =>
      intro hcycle
      obtain ⟨r, hr, -⟩ := Relation.TransGen.head'_iff.mp hcycle
      have htypedef := typedefOf_eq_some_iff.mpr ⟨htype, isTypedef_of_aliased hr⟩
      rw [hstop] at htypedef
      cases htypedef
  | step haliased _ ih =>
      intro hcycle
      obtain ⟨r, hr, hback⟩ := Relation.TransGen.head'_iff.mp hcycle
      cases htype
      have hnext := Option.some.inj (haliased.symm.trans hr)
      exact ih hnext (.tail' hback hr)

/-- On the way from one typedef to another there is a container, or all are mere renamings. -/
theorem transGen_unfolds_cases {r : QualifiedName} (h : Relation.TransGen catalog.Unfolds q r) :
    Relation.TransGen catalog.Renames q r ∨
      ∃ outer inner, Relation.ReflTransGen catalog.Unfolds q outer ∧
        catalog.Contains outer inner ∧ Relation.ReflTransGen catalog.Unfolds inner r := by
  induction h with
  | single hstep =>
      rcases hstep.renames_or_contains with hrenames | hcontains
      · exact Or.inl (.single hrenames)
      · exact Or.inr ⟨q, _, .refl, hcontains, .refl⟩
  | tail hfront hstep ih =>
      rcases ih with hrenamings | ⟨outer, inner, hbefore, hcontains, hafter⟩
      · rcases hstep.renames_or_contains with hrenames | hcontains
        · exact Or.inl (hrenamings.tail hrenames)
        · exact Or.inr ⟨_, _, hfront.to_reflTransGen, hcontains, .refl⟩
      · exact Or.inr ⟨outer, inner, hbefore, hcontains, hafter.tail hstep⟩

theorem unfoldable_of_containers (hchains : ∀ q, catalog.ChainEnds q)
    (hcontainers : ∀ q r, catalog.Contains q r → ¬Relation.ReflTransGen catalog.Unfolds r q) :
    catalog.Unfoldable := by
  refine ⟨hchains, ?_⟩
  intro q hcycle
  rcases transGen_unfolds_cases hcycle with hrenames | ⟨outer, inner, hbefore, hcontains, hafter⟩
  · obtain ⟨r, hr, hback⟩ := Relation.TransGen.head'_iff.mp hrenames
    exact ((hchains q).typedef _ hr).not_transGen_renames rfl (.tail' hback hr)
  · exact hcontainers outer inner hcontains (hafter.trans hbefore)

/-! ### Shapes -/

/-- What a typedef stands for names only what is reached from the typedef. -/
theorem Unfoldable.resolveAlias (h : catalog.Unfoldable) (hq : catalog.isTypedef q) :
    ∃ resolved, catalog.resolveAlias (.named (.declared q)) = .ok resolved ∧
      ∀ r, resolved.ref? = some (.declared r) → Relation.TransGen catalog.Unfolds q r := by
  obtain ⟨aliased, haliased⟩ := Option.isSome_iff_exists.mp hq
  obtain ⟨passed, final, hpasses, hnames, hfinal⟩ :=
    passes_of_aliasEnds ((h.chains q).typedef aliased haliased) haliased
  have htypedef : catalog.typedefOf? (.named (.declared q)) = some q :=
    typedefOf_eq_some_iff.mpr ⟨rfl, hq⟩
  refine ⟨final, ?_, ?_⟩
  · simp only [Catalog.resolveAlias, htypedef, typedefChain, follow_of_passes hpasses hnames,
      hfinal, Option.getD_some]
  · intro r hr
    obtain ⟨last, hlast, hstands⟩ := Option.bind_eq_some_iff.mp hfinal
    refine .tail' ?_ ⟨final, hstands, hr⟩
    refine Relation.ReflTransGen.mono ?_ _ _ (hpasses.reaches_last hlast)
    intro before after hnext
    obtain ⟨type, htype, hnamed⟩ := Option.bind_eq_some_iff.mp hnext
    obtain ⟨rfl, -⟩ := typedefOf_eq_some_iff.mp hnamed
    exact ⟨_, htype, rfl⟩

/-- A type has a shape if what is behind the typedef in it has one. -/
theorem Unfoldable.shapeWith (h : catalog.Unfoldable)
    {jump : QualifiedName → Ty → Except Fault Shape} {type : Ty}
    (hjump : ∀ q resolved, type.ref? = some (.declared q) → catalog.isTypedef q →
      (∀ r, resolved.ref? = some (.declared r) → Relation.TransGen catalog.Unfolds q r) →
      ∃ shape, jump q resolved = .ok shape) :
    ∃ shape, catalog.shapeWith jump type = .ok shape := by
  induction type with
  | scalar scalar => exact ⟨_, rfl⟩
  | string => exact ⟨_, rfl⟩
  | special special => exact ⟨_, rfl⟩
  | vec element ih =>
      obtain ⟨shape, hshape⟩ := ih hjump
      exact ⟨.vec shape (catalog.typeText (.vec element)), by rw [Catalog.shapeWith, hshape]; rfl⟩
  | array element size ih =>
      obtain ⟨shape, hshape⟩ := ih hjump
      exact ⟨.array shape size (catalog.typeText (.array element size)), by
        rw [Catalog.shapeWith, hshape]; rfl⟩
  | named ref =>
      cases htypedef : catalog.typedefOf? (.named ref) with
      | none => exact ⟨.named ref, by rw [Catalog.shapeWith, htypedef]⟩
      | some q =>
          obtain ⟨href, hq⟩ := typedefOf_eq_some_iff.mp htypedef
          obtain rfl := Ty.named.inj href
          obtain ⟨resolved, hresolved, hreaches⟩ := h.resolveAlias hq
          obtain ⟨shape, hshape⟩ := hjump q resolved rfl hq hreaches
          refine ⟨shape, ?_⟩
          rw [Catalog.shapeWith, htypedef]
          simp only [hresolved, hshape]

/-- The typedefs `passed` are unfolded around a type, so a typedef in it is another one. -/
theorem Unfoldable.nodup_cons (h : catalog.Unfoldable) {passed : List QualifiedName}
    (hpassed : passed.Nodup) (hnames : passed ⊆ catalog.names)
    (hreaches : ∀ outer ∈ passed, Relation.TransGen catalog.Unfolds outer q)
    (hq : catalog.isTypedef q) : (q :: passed).Nodup ∧ q :: passed ⊆ catalog.names := by
  obtain ⟨aliased, haliased⟩ := Option.isSome_iff_exists.mp hq
  refine ⟨List.nodup_cons.mpr ⟨?_, hpassed⟩, ?_⟩
  · exact fun hagain => h.acyclic q (hreaches q hagain)
  · exact List.cons_subset.mpr ⟨mem_names_of_aliased haliased, hnames⟩

theorem Unfoldable.shapeAt (h : catalog.Unfoldable) (depth : Nat) {passed : List QualifiedName}
    {type : Ty} (hpassed : passed.Nodup) (hnames : passed ⊆ catalog.names)
    (hreaches : ∀ outer ∈ passed, ∀ r, type.ref? = some (.declared r) →
      Relation.TransGen catalog.Unfolds outer r)
    (hdepth : catalog.decls.length ≤ passed.length + depth) :
    ∃ shape, catalog.shapeAt depth type = .ok shape := by
  induction depth generalizing passed type with
  | zero =>
      refine h.shapeWith fun q resolved hq htypedef _ => ?_
      obtain ⟨hnodup, hsubset⟩ :=
        h.nodup_cons hpassed hnames (fun outer houter => hreaches outer houter q hq) htypedef
      have hlength := (List.subperm_of_subset hnodup hsubset).length_le
      rw [names, List.length_map, List.length_cons] at hlength
      omega
  | succ depth ih =>
      refine h.shapeWith fun q resolved hq htypedef hresolved => ?_
      obtain ⟨hnodup, hsubset⟩ :=
        h.nodup_cons hpassed hnames (fun outer houter => hreaches outer houter q hq) htypedef
      refine ih hnodup hsubset ?_ ?_
      · intro outer houter r hr
        rcases List.mem_cons.mp houter with rfl | houter
        · exact hresolved r hr
        · exact (hreaches outer houter q hq).trans (hresolved r hr)
      · rw [List.length_cons]
        omega

theorem Unfoldable.shape (h : catalog.Unfoldable) (type : Ty) :
    ∃ shape, catalog.shape type = .ok shape := by
  refine h.shapeAt catalog.decls.length List.nodup_nil (List.nil_subset _) ?_ ?_
  · exact fun _ houter => absurd houter List.not_mem_nil
  · exact Nat.le_add_left _ _

/-! ### Descriptors -/

theorem Unfoldable.describeRef (h : catalog.Unfoldable) (ref : Ref) :
    ∃ descriptor, catalog.describeRef ref = .ok descriptor := by
  unfold Catalog.describeRef
  cases hbody : (catalog.decl? ref).map Decl.body with
  | none => exact ⟨_, rfl⟩
  | some body =>
      cases body with
      | compound style fields => cases style <;> exact ⟨_, rfl⟩
      | typedef aliased => exact ⟨_, rfl⟩
      | interface => exact ⟨_, rfl⟩
      | enum storage values =>
          cases ref with
          | external q => cases hbody
          | declared q =>
              have hstorage : catalog.storage? q = some storage := by
                rw [storage?, show (catalog.find? q).map Decl.body = _ from hbody]
              obtain ⟨scalar, hscalar⟩ :=
                ((h.chains q).enum storage hstorage).enumScalar hstorage
              simp only [Ref.name, hscalar]
              exact ⟨_, rfl⟩

theorem Unfoldable.describeShape (h : catalog.Unfoldable) (shape : Shape) :
    ∃ descriptor, catalog.describeShape shape = .ok descriptor := by
  induction shape with
  | scalar scalar => exact ⟨_, rfl⟩
  | string => exact ⟨_, rfl⟩
  | special special => exact ⟨_, rfl⟩
  | vec element label ih =>
      obtain ⟨descriptor, hdescriptor⟩ := ih
      exact ⟨.sequence descriptor label, by rw [Catalog.describeShape, hdescriptor]; rfl⟩
  | array element size label ih =>
      obtain ⟨descriptor, hdescriptor⟩ := ih
      exact ⟨.fixedArray descriptor size label, by rw [Catalog.describeShape, hdescriptor]; rfl⟩
  | named ref => exact h.describeRef ref

theorem Unfoldable.describe (h : catalog.Unfoldable) (type : Ty) :
    ∃ descriptor, catalog.describe type = .ok descriptor := by
  obtain ⟨shape, hshape⟩ := h.shape type
  obtain ⟨descriptor, hdescriptor⟩ := h.describeShape shape
  refine ⟨descriptor, ?_⟩
  simp only [Catalog.describe, hshape, bind, Except.bind, hdescriptor]
  rfl

end Catalog

end HalBridge
