import HalBridge.Proofs.ResolverLoading
import HalBridge.Proofs.SampleDocuments

/-!
# The resolved model is well formed

After any calls that all succeed, the catalogue is the resolved form of the documents that were
loaded: every definition is declared once, every reference means what the catalogue says, and every
chain ends.
-/

namespace HalBridge.Resolver

open Document

/-- A call: loading a release, or looking up a type. -/
inductive Call where
  | release (q : QualifiedName)
  | type (q : QualifiedName)

def perform : Call → Loading Unit
  | .release q => do
      let _ ← loadRelease q
  | .type q => do
      let _ ← lookup q

def performAll : List Call → Loading Unit
  | [] => pure ()
  | call :: rest => do
      perform call
      performAll rest

/-- A declaration is what an entry of a document declares, with its references resolved. -/
structure Realizes (catalog : Catalog) (entry : Decl × TypeDef) (decl : Decl) : Prop where
  outline : decl.unresolved = entry.1
  described : Describes catalog decl entry.2

/-- A loaded release has one declaration for each definition of its document, and no other. -/
structure Documents (repository : Repository) (s : Resolver)
    (root : QualifiedName × List QualifiedName) : Prop where
  realized : ∃ text release definitions, repository.file? root.1 = some text ∧
    Repository.decodeRelease root.1 text = .ok release ∧ release.types = some definitions ∧
    root.2 = memberNames root.1 definitions ∧
    List.Forall₂ (Realizes s.catalog) (entriesAll root.1 [] definitions)
      (s.catalog.decls.filter (·.name.release = root.1))

/-- Whether a name is referred to as declared or as external agrees with the catalogue. -/
def Agrees (catalog : Catalog) : Ref → Prop
  | .declared q => q ∈ catalog.names
  | .external q => q ∉ catalog.names

/-- The catalogue is a resolved model of releases in the repository. -/
structure WellFormed (repository : Repository) (s : Resolver) : Prop where
  keyed : ∀ decl ∈ s.catalog.decls, s.catalog.find? decl.name = some decl
  releases : (s.roots.map Prod.fst).Nodup
  loaded : ∀ decl ∈ s.catalog.decls, s.isLoaded decl.name.release
  documents : ∀ root ∈ s.roots, Documents repository s root
  placed : ∀ decl ∈ s.catalog.decls,
    (decl.parent = none ∧ ∃ names, (decl.name.release, names) ∈ s.roots ∧ decl.name ∈ names) ∨
      ∃ outer ∈ s.catalog.decls, outer.Encloses decl
  fields : ∀ decl ∈ s.catalog.decls, ∀ style fields, decl.body = .compound style fields →
    ∀ field ∈ fields,
      field.owner = decl.name ∧ field.origin = decl.name.version ∧ field.access = field.name
  refs : ∀ decl ∈ s.catalog.decls, ∀ type ∈ decl.body.types, ∀ ref, type.ref? = some ref →
    Agrees s.catalog ref
  enums : ∀ decl ∈ s.catalog.decls, ∀ storage values, decl.body = .enum storage values →
    s.catalog.EndsInScalar storage
  typedefs : ∀ decl ∈ s.catalog.decls, ∀ aliased, decl.body = .typedef aliased →
    s.catalog.AliasEnds aliased

variable {s t : Resolver} {repository : Repository} {decl : Decl}

/-! ### What calls keep -/

theorem idle_fresh (h : repository.Faithful) : Idle { repository } where
  consistent :=
    { faithful := h
      documented := fun _ hroot => absurd hroot List.not_mem_nil
      distinct := List.nodup_nil
      declared := rfl
      named := List.nodup_nil
      resolved := fun _ hdecl => absurd hdecl List.not_mem_nil }
  resolving := rfl
  finished := fun _ hq => absurd hq List.not_mem_nil
  chains := fun _ hq => absurd hq List.not_mem_nil

theorem perform_ok {call : Call} (hs : s.Idle) (h : perform call s = .ok () t) :
    t.Idle ∧ Continues s t := by
  cases call with
  | release q =>
      obtain ⟨names, after, hload, h⟩ := Outcome.bind_ok_iff.mp h
      obtain ⟨-, rfl⟩ := Outcome.pure_ok_iff.mp h
      obtain ⟨ht, hcontinues, -⟩ := loadRelease_ok hs hload
      exact ⟨ht, hcontinues⟩
  | type q =>
      obtain ⟨ref, after, hlookup, h⟩ := Outcome.bind_ok_iff.mp h
      obtain ⟨-, rfl⟩ := Outcome.pure_ok_iff.mp h
      obtain ⟨ht, hcontinues, -⟩ := lookup_ok hs hlookup
      exact ⟨ht, hcontinues⟩

theorem performAll_ok {calls : List Call} (hs : s.Idle) (h : performAll calls s = .ok () t) :
    t.Idle ∧ Continues s t := by
  induction calls generalizing s with
  | nil =>
      obtain ⟨-, rfl⟩ := Outcome.pure_ok_iff.mp h
      exact ⟨hs, .refl s⟩
  | cons call rest ih =>
      obtain ⟨_, middle, hcall, h⟩ := Outcome.bind_ok_iff.mp h
      obtain ⟨hmiddle, hfirst⟩ := perform_ok hs hcall
      obtain ⟨ht, hrest⟩ := ih hmiddle h
      exact ⟨ht, hfirst.trans hrest⟩

/-! ### What holds while nothing is being loaded -/

/-- The part of the catalogue that belongs to a loaded release. -/
theorem Accounted.filter_release {root : QualifiedName × List QualifiedName} (h : Accounted s)
    (hroot : root ∈ s.roots) :
    (s.catalog.decls.filter (·.name.release = root.1)).map Decl.unresolved =
      (s.repository.declared root.1).map Prod.fst := by
  have hother : ∀ other ∈ s.roots, other.1 ≠ root.1 →
      ((s.repository.declared other.1).map Prod.fst).filter (·.name.release = root.1) = [] := by
    intro other hmem hne
    rw [List.filter_eq_nil_iff]
    intro found hfound
    obtain ⟨entry, hentry, rfl⟩ := List.mem_map.mp hfound
    rw [decide_eq_true_eq, release_of_mem_declared (h.documented other hmem).release hentry]
    exact hne
  have hself : ((s.repository.declared root.1).map Prod.fst).filter (·.name.release = root.1) =
      (s.repository.declared root.1).map Prod.fst := by
    rw [List.filter_eq_self]
    intro found hfound
    obtain ⟨entry, hentry, rfl⟩ := List.mem_map.mp hfound
    rw [decide_eq_true_eq, release_of_mem_declared (h.documented root hroot).release hentry]
  have hsplit : (s.catalog.decls.filter (·.name.release = root.1)).map Decl.unresolved =
      (s.catalog.decls.map Decl.unresolved).filter (·.name.release = root.1) := by
    rw [List.filter_map]
    rfl
  rw [hsplit, h.declared, List.filter_flatMap]
  obtain ⟨front, back, hroots⟩ := List.append_of_mem hroot
  have hdistinct := h.distinct
  rw [hroots, List.map_append, List.map_cons, List.nodup_append, List.nodup_cons] at hdistinct
  have hfront : ∀ other ∈ front, other.1 ≠ root.1 := fun other hmem =>
    hdistinct.2.2 other.1 (List.mem_map_of_mem hmem) root.1 List.mem_cons_self
  have hback : ∀ other ∈ back, other.1 ≠ root.1 := fun other hmem hsame =>
    hdistinct.2.1.1 (hsame ▸ List.mem_map_of_mem hmem)
  rw [hroots] at hother ⊢
  rw [List.flatMap_append, List.flatMap_cons, hself, List.flatMap_eq_nil_iff.mpr,
    List.flatMap_eq_nil_iff.mpr, List.nil_append, List.append_nil]
  · exact fun other hmem =>
      hother other (List.mem_append_right _ (List.mem_cons_of_mem _ hmem)) (hback other hmem)
  · exact fun other hmem => hother other (List.mem_append_left _ hmem) (hfront other hmem)

theorem Accounted.nodup_declared {root : QualifiedName × List QualifiedName} (h : Accounted s)
    (hroot : root ∈ s.roots) : ((s.repository.declared root.1).map (·.1.name)).Nodup := by
  have hnamed := h.named
  rw [h.names_eq, List.nodup_flatMap] at hnamed
  exact hnamed.1 root hroot

/-- A finished declaration is described by the one entry that has its name. -/
theorem Idle.describes {root : QualifiedName × List QualifiedName} {entry : Decl × TypeDef}
    (h : s.Idle) (hroot : root ∈ s.roots) (hentry : entry ∈ s.repository.declared root.1)
    (hdecl : decl ∈ s.catalog.decls) (hname : decl.name = entry.1.name) :
    Describes s.catalog decl entry.2 := by
  obtain ⟨found, other, hfind, hother, hsame, hdescribes⟩ :=
    h.finished decl.name (List.mem_map_of_mem hdecl)
  rw [Catalog.find_of_mem h.consistent.named hdecl] at hfind
  obtain rfl := Option.some.inj hfind
  have hrelease : decl.name.release = root.1 := by
    rw [hname]
    exact release_of_mem_declared (h.consistent.documented root hroot).release hentry
  rw [hrelease] at hother
  have hunique := List.inj_on_of_nodup_map (h.consistent.nodup_declared hroot) hother hentry
  rwa [← hunique (hsame.trans hname)]

theorem Idle.documents {root : QualifiedName × List QualifiedName} (h : s.Idle)
    (hmore : repository.ReadsMore s.repository) (hroot : root ∈ s.roots) :
    Documents repository s root := by
  obtain ⟨hrelease, release, definitions, hread, htypes, hnames, -⟩ :=
    h.consistent.documented root hroot
  obtain ⟨text, htext, hdecode⟩ := h.consistent.faithful root.1 release hread
  rw [hmore.file_eq] at htext
  refine ⟨text, release, definitions, htext, hdecode, htypes, hnames, ?_⟩
  have hdeclared := declared_of_read hread htypes
  have houtlines := h.consistent.filter_release hroot
  rw [hdeclared] at houtlines
  have hpairs : List.Forall₂ (fun entry decl => decl.unresolved = entry.1)
      (entriesAll root.1 [] definitions)
      (s.catalog.decls.filter (·.name.release = root.1)) := by
    rw [← List.forall₂_map_left_iff (R := fun outline (decl : Decl) => decl.unresolved = outline),
      ← houtlines, List.forall₂_map_left_iff]
    exact List.forall₂_same.mpr fun _ _ => rfl
  rw [List.forall₂_iff_zip] at hpairs ⊢
  refine ⟨hpairs.1, ?_⟩
  intro entry decl hzip
  have houtline := hpairs.2 hzip
  obtain ⟨hentry, hdecl⟩ := List.of_mem_zip hzip
  refine ⟨houtline, h.describes hroot (hdeclared ▸ hentry) (List.mem_of_mem_filter hdecl) ?_⟩
  rw [← houtline, Decl.name_unresolved]

theorem Idle.placed (h : s.Idle) (hdecl : decl ∈ s.catalog.decls) :
    (decl.parent = none ∧ ∃ names, (decl.name.release, names) ∈ s.roots ∧ decl.name ∈ names) ∨
      ∃ outer ∈ s.catalog.decls, outer.Encloses decl := by
  have haccounted := h.consistent.toAccounted
  obtain ⟨hloaded, definition, hentry⟩ := haccounted.exists_definition hdecl
  obtain ⟨root, hroot, hkey⟩ := List.mem_map.mp (isLoaded_iff.mp hloaded)
  obtain ⟨hrelease, release, definitions, hread, htypes, hnames, -⟩ :=
    haccounted.documented root hroot
  rw [← hkey] at hentry ⊢
  have hdeclared := declared_of_read hread htypes
  rw [hdeclared] at hentry
  rcases placed_of_mem_entriesAll hentry with ⟨hparent, hname⟩ | ⟨outer, houter, hencloses⟩
  · refine Or.inl ⟨hparent, root.2, hroot, ?_⟩
    rw [hnames]
    exact hname
  · -- The outer type is declared too, and all of it but the body is as the document has it.
    rw [← hdeclared] at houter
    have hmem : outer.1 ∈ s.catalog.decls.map Decl.unresolved := by
      rw [haccounted.declared]
      exact List.mem_flatMap.mpr ⟨root, hroot, List.mem_map_of_mem houter⟩
    obtain ⟨found, hfound, hsame⟩ := List.mem_map.mp hmem
    rw [← hsame] at hencloses
    exact Or.inr ⟨found, hfound, hencloses.parent, hencloses.listed, hencloses.named⟩

theorem Settled.agrees {ref : Ref} (h : s.Settled ref) : Agrees s.catalog ref := by
  cases ref with
  | declared q => exact h
  | external q => exact h.1

theorem Idle.wellFormed (h : s.Idle) (hmore : repository.ReadsMore s.repository) :
    s.WellFormed repository where
  keyed := fun decl hdecl => Catalog.find_of_mem h.consistent.named hdecl
  releases := h.consistent.distinct
  loaded := fun decl hdecl => (h.consistent.exists_definition hdecl).1
  documents := fun root hroot => h.documents hmore hroot
  placed := fun decl hdecl => h.placed hdecl
  fields := fun decl hdecl => (h.consistent.resolved decl hdecl).fields
  refs := fun decl hdecl type htype ref href =>
    ((h.consistent.resolved decl hdecl).refs type htype ref href).agrees
  enums := by
    intro decl hdecl storage values hbody
    have hfind := Catalog.find_of_mem h.consistent.named hdecl
    refine (h.chains decl.name (List.mem_map_of_mem hdecl)).enum storage ?_
    simp only [Catalog.storage?, hfind, Option.map_some, hbody]
  typedefs := by
    intro decl hdecl aliased hbody
    have hfind := Catalog.find_of_mem h.consistent.named hdecl
    refine (h.chains decl.name (List.mem_map_of_mem hdecl)).typedef aliased ?_
    simp only [Catalog.aliased?, hfind, Option.map_some, hbody]

/-- **The resolved model.** Whatever is loaded and looked up, in any order, the catalogue is a
well-formed model of the releases that were loaded, as long as all calls succeed. The documents that
the repository has read before have to be those of its files. -/
theorem wellFormed_of_calls (repository : Repository) (hread : repository.Faithful)
    (calls : List Call) (s : Resolver) (h : performAll calls { repository } = .ok () s) :
    s.WellFormed repository := by
  obtain ⟨hidle, hcontinues⟩ := performAll_ok (idle_fresh hread) h
  exact hidle.wellFormed hcontinues.repository

/-- Two releases that refer to each other. -/
def mutualReleases : Repository :=
  Sample.repository [
    Sample.release "p" "1.0" [Sample.struct "A" [("e", Sample.named "q@1.0::E")]],
    Sample.release "q" "1.0"
      [Sample.enum "E" (Sample.scalar "int8") [], Sample.typeAlias "T" (Sample.named "p@1.0::A")]]

/-- Loading one of them loads both, and the catalogue has the types of both. -/
theorem wellFormed_mutualReleases :
    ∃ s, performAll [.release ⟨"p", ⟨1, 0⟩, some "", []⟩, .type ⟨"q", ⟨1, 0⟩, some "T", []⟩]
        { repository := mutualReleases } = .ok () s ∧
      s.catalog.decls.length = 3 ∧ s.WellFormed mutualReleases := by
  have hrun :
      (match performAll [.release ⟨"p", ⟨1, 0⟩, some "", []⟩, .type ⟨"q", ⟨1, 0⟩, some "T", []⟩]
          { repository := mutualReleases } with
        | .ok _ s => some s.catalog.decls.length
        | .error _ _ => none) = some 3 := by
    decide +kernel
  cases h : performAll [.release ⟨"p", ⟨1, 0⟩, some "", []⟩, .type ⟨"q", ⟨1, 0⟩, some "T", []⟩]
      { repository := mutualReleases } with
  | error fault s =>
      rw [h] at hrun
      cases hrun
  | ok _ s =>
      rw [h] at hrun
      exact ⟨s, rfl, Option.some.inj hrun, wellFormed_of_calls mutualReleases
        (Repository.faithful_of_read_eq_nil rfl) _ s h⟩

end HalBridge.Resolver
