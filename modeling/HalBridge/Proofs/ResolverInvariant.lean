import HalBridge.Proofs.ChainEnds
import HalBridge.Proofs.ReleaseDeclarations
import HalBridge.Proofs.ReleaseFiles

/-!
# What holds while releases are loaded

Releases are loaded in the middle of resolving others, so the state between two steps has types
whose references are not resolved yet. What holds of it all the time: the catalogue has exactly the
declarations of the loaded documents, and the references that are resolved are settled. A reference
is settled if nothing that is loaded later changes what it means.
-/

namespace HalBridge

open Document

/-- What is declared before the references are resolved. -/
def Body.unresolved : Body → Body
  | .compound style _ => .compound style []
  | .enum _ values => .enum (.scalar .int32) values
  | .typedef _ => .typedef .string
  | .interface => .interface

def Decl.unresolved (decl : Decl) : Decl :=
  { decl with body := decl.body.unresolved }

@[simp]
theorem Decl.name_unresolved (decl : Decl) : decl.unresolved.name = decl.name := rfl

/-- The declarations of a release with their definitions, as far as its document was read. -/
def Repository.declared (repository : Repository) (key : QualifiedName) :
    List (Decl × TypeDef) :=
  match repository.read.lookup key with
  | some release => Resolver.entriesAll key [] (release.types.getD [])
  | none => []

namespace Resolver

theorem unresolved_initialBody (definition : TypeDef) :
    (initialBody definition).unresolved = initialBody definition := by
  unfold initialBody
  cases DeclKind.ofText? definition.kind with
  | none => rfl
  | some kind =>
      cases kind with
      | compound style => rfl
      | typedef => rfl
      | interface => rfl
      | enum =>
          cases hvalues : definition.values with
          | none => rfl
          | some values =>
              simp only [placeholder]
              cases values.mapM enumValue with
              | error fault => rfl
              | ok values => rfl

theorem unresolved_declOf (key : QualifiedName) (scopes : List QualifiedName)
    (definition : TypeDef) :
    (declOf key scopes definition).unresolved = declOf key scopes definition := by
  unfold Decl.unresolved
  rw [declOf, unresolved_initialBody]

/-- A loaded release has the top-level types of its document. -/
structure Documented (repository : Repository) (entry : QualifiedName × List QualifiedName) :
    Prop where
  release : entry.1.release = entry.1
  read : ∃ release definitions, repository.read.lookup entry.1 = some release ∧
    release.types = some definitions ∧ entry.2 = memberNames entry.1 definitions ∧
    areDeclarable definitions

/-- The catalogue has the declarations of the loaded documents, in the order of loading. -/
structure Accounted (s : Resolver) : Prop where
  faithful : s.repository.Faithful
  documented : ∀ entry ∈ s.roots, Documented s.repository entry
  distinct : (s.roots.map Prod.fst).Nodup
  declared : s.catalog.decls.map Decl.unresolved =
    s.roots.flatMap fun entry => (s.repository.declared entry.1).map Prod.fst
  named : s.catalog.names.Nodup

/-- A reference means what it says, whatever is loaded later. -/
def Settled (s : Resolver) : Ref → Prop
  | .declared q => q ∈ s.catalog.names
  | .external q =>
      q ∉ s.catalog.names ∧ (s.isLoaded q.release ∨ s.repository.holds q.release = .ok false)

/-- The fields of a declaration are its own and the references in it are settled. -/
structure Resolved (s : Resolver) (decl : Decl) : Prop where
  fields : ∀ style fields, decl.body = .compound style fields → ∀ field ∈ fields,
    field.owner = decl.name ∧ field.origin = decl.name.version ∧ field.access = field.name
  refs : ∀ type ∈ decl.body.types, ∀ ref, type.ref? = some ref → s.Settled ref

/-- What holds between any two steps. -/
structure Consistent (s : Resolver) : Prop extends Accounted s where
  resolved : ∀ decl ∈ s.catalog.decls, s.Resolved decl

/-- More was loaded, and only the declarations of `own` changed. Names that were added are still to
be checked. -/
structure Progress (own : List QualifiedName) (s t : Resolver) : Prop where
  repository : s.repository.ReadsMore t.repository
  roots : s.roots <+: t.roots
  decls : ∀ kept, kept <+: s.catalog.decls → (∀ q ∈ own, q ∉ kept.map Decl.name) →
    kept <+: t.catalog.decls
  unchanged : ∀ q ∈ s.catalog.names, q ∉ own → t.catalog.find? q = s.catalog.find? q
  resolving : t.resolving = s.resolving
  unchecked : s.unchecked <+: t.unchecked
  added : ∀ q ∈ t.catalog.names, q ∈ s.catalog.names ∨ q ∈ t.unchecked

variable {s t u : Resolver} {own : List QualifiedName} {q key : QualifiedName}

theorem mem_names_of_find_eq (h : t.catalog.find? q = s.catalog.find? q)
    (hq : q ∈ s.catalog.names) : q ∈ t.catalog.names := by
  rw [← Catalog.contains_iff, Catalog.contains] at hq ⊢
  rwa [h]

theorem Progress.refl (s : Resolver) : Progress own s s where
  repository := .refl s.repository
  roots := List.prefix_refl _
  decls := fun _ h _ => h
  unchanged := fun _ _ _ => rfl
  resolving := rfl
  unchecked := List.prefix_refl _
  added := fun _ h => Or.inl h

theorem Progress.trans (hst : Progress own s t) (htu : Progress own t u) : Progress own s u where
  repository := hst.repository.trans htu.repository
  roots := hst.roots.trans htu.roots
  decls := fun kept hkept hown => htu.decls kept (hst.decls kept hkept hown) hown
  unchanged := by
    intro q hq hown
    have hfirst := hst.unchanged q hq hown
    rw [htu.unchanged q (mem_names_of_find_eq hfirst hq) hown, hfirst]
  resolving := htu.resolving.trans hst.resolving
  unchecked := hst.unchecked.trans htu.unchecked
  added := by
    intro q hq
    rcases htu.added q hq with hq | hq
    · rcases hst.added q hq with hq | hq
      · exact Or.inl hq
      · exact Or.inr (htu.unchecked.subset hq)
    · exact Or.inr hq

theorem Progress.mono {more : List QualifiedName} (h : Progress own s t) (hmore : own ⊆ more) :
    Progress more s t :=
  { h with
    decls := fun kept hkept hown => h.decls kept hkept fun q hq => hown q (hmore hq)
    unchanged := fun q hq hown => h.unchanged q hq fun hmem => hown (hmore hmem) }

/-- Where no declaration may change, the catalogue only grows. -/
theorem Progress.prefix_decls (h : Progress [] s t) : s.catalog.decls <+: t.catalog.decls :=
  h.decls _ (List.prefix_refl _) fun _ hq => absurd hq List.not_mem_nil

/-! ### Which names are declared -/

theorem isLoaded_iff : s.isLoaded key ↔ key ∈ s.roots.map Prod.fst := by
  unfold isLoaded
  rw [List.lookup_isSome_iff, List.mem_map]
  constructor
  · rintro ⟨entry, hentry, hkey⟩
    exact ⟨entry, hentry, (beq_iff_eq.mp hkey).symm⟩
  · rintro ⟨entry, hentry, rfl⟩
    exact ⟨entry, hentry, beq_self_eq_true _⟩

theorem isLoaded_of_isPrefix (h : s.roots <+: t.roots) (hkey : s.isLoaded key) : t.isLoaded key :=
  isLoaded_iff.mpr ((h.map Prod.fst).subset (isLoaded_iff.mp hkey))

theorem declared_of_documented {entry : QualifiedName × List QualifiedName}
    (h : Documented s.repository entry) (hmore : s.repository.ReadsMore t.repository) :
    t.repository.declared entry.1 = s.repository.declared entry.1 := by
  obtain ⟨release, definitions, hread, -⟩ := h.read
  rw [Repository.declared, Repository.declared, hread, hmore.kept hread]

theorem release_of_mem_declared {repository : Repository} {entry : Decl × TypeDef}
    (hkey : key.release = key) (h : entry ∈ repository.declared key) :
    entry.1.name.release = key := by
  unfold Repository.declared at h
  split at h
  · exact release_of_mem_entriesAll hkey h
  · exact absurd h List.not_mem_nil

theorem Accounted.names_eq (h : Accounted s) :
    s.catalog.names =
      s.roots.flatMap fun entry => (s.repository.declared entry.1).map (·.1.name) := by
  have hnames : s.catalog.names = (s.catalog.decls.map Decl.unresolved).map Decl.name := by
    rw [List.map_map]
    rfl
  rw [hnames, h.declared, List.map_flatMap]
  simp only [List.map_map]
  rfl

/-- A name is declared if its release is loaded and has it. -/
theorem Accounted.mem_names_iff (h : Accounted s) :
    q ∈ s.catalog.names ↔
      s.isLoaded q.release ∧ q ∈ (s.repository.declared q.release).map (·.1.name) := by
  rw [h.names_eq, List.mem_flatMap, isLoaded_iff, List.mem_map]
  constructor
  · rintro ⟨entry, hentry, hq⟩
    obtain ⟨found, hfound, rfl⟩ := List.mem_map.mp hq
    rw [release_of_mem_declared (h.documented entry hentry).release hfound]
    exact ⟨⟨entry, hentry, rfl⟩, hq⟩
  · rintro ⟨⟨entry, hentry, hrelease⟩, hq⟩
    exact ⟨entry, hentry, hrelease ▸ hq⟩

theorem Accounted.exists_read (h : Accounted s) (hkey : s.isLoaded key) :
    ∃ release, s.repository.read.lookup key = some release := by
  obtain ⟨entry, hentry, rfl⟩ := List.mem_map.mp (isLoaded_iff.mp hkey)
  obtain ⟨release, definitions, hread, -⟩ := (h.documented entry hentry).read
  exact ⟨release, hread⟩

/-- A loaded release has a file. -/
theorem Accounted.contains_of_isLoaded (h : Accounted s) (hkey : s.isLoaded key) :
    s.repository.contains key := by
  obtain ⟨release, hread⟩ := h.exists_read hkey
  obtain ⟨text, htext, -⟩ := h.faithful key release hread
  rw [Repository.contains, htext]
  rfl

theorem Accounted.length_roots_le (h : Accounted s) :
    s.roots.length ≤ s.repository.disk.size := by
  have hle := h.faithful.length_le_size h.distinct ?_ ?_
  · rwa [List.length_map] at hle
  · intro key hkey
    obtain ⟨entry, hentry, rfl⟩ := List.mem_map.mp hkey
    exact (h.documented entry hentry).release
  · intro key hkey
    obtain ⟨release, hread⟩ := h.exists_read (isLoaded_iff.mpr hkey)
    rw [hread]
    rfl

/-! ### Settled references stay settled -/

/-- Two states over the same files, the second with more loaded. -/
structure Later (s t : Resolver) : Prop where
  before : Accounted s
  after : Accounted t
  files : s.repository.SameFiles t.repository
  loaded : ∀ {key : QualifiedName}, s.isLoaded key → t.isLoaded key

/-- A state and one that loading more leads to. -/
theorem Later.of_readsMore (hs : Accounted s) (ht : Accounted t)
    (hmore : s.repository.ReadsMore t.repository) (hroots : s.roots <+: t.roots) : Later s t :=
  ⟨hs, ht, hmore.toSameFiles, isLoaded_of_isPrefix hroots⟩

theorem Later.declared_eq (h : Later s t) (hkey : s.isLoaded key) :
    t.repository.declared key = s.repository.declared key := by
  obtain ⟨release, hread⟩ := h.before.exists_read hkey
  obtain ⟨found, hfound⟩ := h.after.exists_read (h.loaded hkey)
  obtain rfl := h.files.release_eq h.before.faithful h.after.faithful hread hfound
  rw [Repository.declared, Repository.declared, hread, hfound]

theorem Later.mem_names_iff (h : Later s t) (hloaded : s.isLoaded q.release) :
    q ∈ t.catalog.names ↔ q ∈ s.catalog.names := by
  rw [h.before.mem_names_iff, h.after.mem_names_iff, h.declared_eq hloaded]
  simp only [hloaded, h.loaded hloaded]

theorem Settled.mono {ref : Ref} (h : Later s t) (href : s.Settled ref) : t.Settled ref := by
  cases ref with
  | declared q =>
      have hloaded := (h.before.mem_names_iff.mp href).1
      exact (h.mem_names_iff hloaded).mpr href
  | external q =>
      obtain ⟨hnew, hloaded | habsent⟩ := href
      · refine ⟨?_, Or.inl (h.loaded hloaded)⟩
        rwa [h.mem_names_iff hloaded]
      · rw [← h.files.holds_eq] at habsent
        refine ⟨?_, Or.inr habsent⟩
        intro hq
        have hpresent := h.after.contains_of_isLoaded (h.after.mem_names_iff.mp hq).1
        rw [(Repository.holds_eq_ok_iff.mp habsent).2] at hpresent
        exact Bool.false_ne_true hpresent

/-- Whether the release of a settled reference exists could be asked. -/
theorem Settled.checkPath {ref : Ref} (h : Accounted s) (href : s.Settled ref) :
    s.repository.checkPath ref.name.release = .ok () := by
  cases ref with
  | declared q =>
      have hloaded := (h.mem_names_iff.mp href).1
      exact Repository.checkPath_of_contains (h.contains_of_isLoaded hloaded)
  | external q =>
      obtain ⟨-, hloaded | habsent⟩ := href
      · exact Repository.checkPath_of_contains (h.contains_of_isLoaded hloaded)
      · exact (Repository.holds_eq_ok_iff.mp habsent).1

theorem Resolved.mono {decl : Decl} (h : Later s t) (hdecl : s.Resolved decl) :
    t.Resolved decl where
  fields := hdecl.fields
  refs := fun type htype ref href => (hdecl.refs type htype ref href).mono h

theorem Progress.later (h : Progress own s t) (hs : Accounted s) (ht : Accounted t) : Later s t :=
  .of_readsMore hs ht h.repository h.roots

/-- What a resolved declaration refers to as declared is in the catalogue. -/
theorem Consistent.covers (h : Consistent s) :
    ∀ decl ∈ s.catalog.decls, ∀ type ∈ decl.body.types, s.catalog.Covers type := by
  intro decl hdecl type htype q hq
  exact Catalog.contains_iff.mpr ((h.resolved decl hdecl).refs type htype _ hq)

/-! ### The changes that loading makes -/

/-- What is still to be done says nothing about what is declared. -/
theorem Accounted.withCounts (h : Accounted s) (resolving : Nat)
    (unchecked : List QualifiedName) : Accounted { s with resolving, unchecked } :=
  ⟨h.faithful, h.documented, h.distinct, h.declared, h.named⟩

theorem Consistent.withCounts (h : Consistent s) (resolving : Nat)
    (unchecked : List QualifiedName) : Consistent { s with resolving, unchecked } := by
  refine ⟨h.toAccounted.withCounts resolving unchecked, ?_⟩
  intro decl hdecl
  exact (h.resolved decl hdecl).mono (.of_readsMore h.toAccounted (h.toAccounted.withCounts _ _)
    (.refl s.repository) (List.prefix_refl _))

theorem Later.withCounts (h : Later s t) (resolving : Nat) (unchecked : List QualifiedName) :
    Later { s with resolving, unchecked } t :=
  ⟨h.before.withCounts resolving unchecked, h.after, h.files, h.loaded⟩

theorem Consistent.withRepository {after : Repository} (h : Consistent s)
    (hmore : s.repository.ReadsMore after) (hfaithful : after.Faithful) :
    Consistent { s with repository := after } := by
  have haccounted : Accounted { s with repository := after } := by
    refine ⟨hfaithful, ?_, h.distinct, ?_, h.named⟩
    · intro entry hentry
      obtain ⟨release, definitions, hread, htypes, hroots⟩ := (h.documented entry hentry).read
      exact ⟨(h.documented entry hentry).release,
        release, definitions, hmore.kept hread, htypes, hroots⟩
    · rw [h.declared]
      refine List.flatMap_congr fun entry hentry => ?_
      have hsame := declared_of_documented (t := { s with repository := after })
        (h.documented entry hentry) hmore
      rw [hsame]
  refine ⟨haccounted, ?_⟩
  intro decl hdecl
  exact (h.resolved decl hdecl).mono
    (.of_readsMore h.toAccounted haccounted hmore (List.prefix_refl _))

theorem resolved_of_unresolved {decl : Decl} (h : decl.unresolved = decl) : s.Resolved decl := by
  obtain ⟨name, comment, scopes, subTypes, body⟩ := decl
  have hbody : body.unresolved = body := congrArg Decl.body h
  cases body with
  | compound style fields =>
      obtain rfl : fields = [] := by
        injection hbody with _ hfields
        exact hfields.symm
      refine ⟨?_, by simp [Body.types]⟩
      rintro _ _ ⟨⟩ field hfield
      exact absurd hfield List.not_mem_nil
  | enum storage values =>
      obtain rfl : storage = .scalar .int32 := by
        injection hbody with hstorage
        exact hstorage.symm
      exact ⟨by simp, by simp [Body.types, Ty.ref?]⟩
  | typedef aliased =>
      obtain rfl : aliased = .string := by
        injection hbody with haliased
        exact haliased.symm
      exact ⟨by simp, by simp [Body.types, Ty.ref?]⟩
  | interface => exact ⟨by simp, by simp [Body.types]⟩

theorem declared_of_read {repository : Repository} {release : Release}
    {definitions : List (Option TypeDef)} (hread : repository.read.lookup key = some release)
    (htypes : release.types = some definitions) :
    repository.declared key = entriesAll key [] definitions := by
  simp only [Repository.declared, hread, htypes, Option.getD_some]

/-- A document that was read is declared as a whole. -/
theorem Consistent.declare {release : Release} {definitions : List (Option TypeDef)}
    (h : Consistent s) (hkey : key.release = key) (hnew : ¬s.isLoaded key)
    (hread : s.repository.read.lookup key = some release)
    (htypes : release.types = some definitions) (hdeclarable : areDeclarable definitions)
    (hdeclares : Declares s ((entriesAll key [] definitions).map Prod.fst) t) :
    Consistent { t with roots := t.roots ++ [(key, memberNames key definitions)] } := by
  have hunresolved : ∀ decl ∈ (entriesAll key [] definitions).map Prod.fst,
      decl.unresolved = decl := by
    intro decl hdecl
    obtain ⟨entry, hentry, rfl⟩ := List.mem_map.mp hdecl
    obtain ⟨inner, -, hentry⟩ := mem_entriesAll_iff.mp hentry
    rw [hentry, unresolved_declOf]
  obtain rfl := hdeclares.state
  have haccounted : Accounted { s with
      catalog := ⟨s.catalog.decls ++ (entriesAll key [] definitions).map Prod.fst⟩
      roots := s.roots ++ [(key, memberNames key definitions)] } := by
    refine ⟨h.faithful, ?_, ?_, ?_, ?_⟩
    · intro entry hentry
      rcases List.mem_append.mp hentry with hentry | hentry
      · exact h.documented entry hentry
      · rw [List.mem_singleton.mp hentry]
        exact ⟨hkey, release, definitions, hread, htypes, rfl, hdeclarable⟩
    · rw [List.map_append, List.nodup_append]
      refine ⟨h.distinct, List.nodup_singleton _, ?_⟩
      intro loaded hloaded other hother hsame
      obtain rfl : loaded = key := hsame.trans (List.mem_singleton.mp hother)
      exact hnew (isLoaded_iff.mpr hloaded)
    · rw [List.map_append, h.declared, List.map_congr_left hunresolved, List.map_id',
        List.flatMap_append, List.flatMap_singleton, declared_of_read hread htypes]
    · rw [hdeclares.names, List.nodup_append]
      refine ⟨h.named, hdeclares.distinct, ?_⟩
      intro name hname other hother hsame
      obtain ⟨decl, hdecl, rfl⟩ := List.mem_map.mp hother
      exact hdeclares.fresh decl hdecl (hsame ▸ hname)
  refine ⟨haccounted, ?_⟩
  intro decl hdecl
  rcases List.mem_append.mp hdecl with hdecl | hdecl
  · exact (h.resolved decl hdecl).mono
      (.of_readsMore h.toAccounted haccounted (.refl s.repository) (List.prefix_append _ _))
  · exact resolved_of_unresolved (hunresolved decl hdecl)

theorem names_setBody (catalog : Catalog) (q : QualifiedName) (body : Body) :
    (catalog.update q fun decl => { decl with body }).names = catalog.names :=
  Catalog.names_update fun _ => rfl

/-- The body of a declaration is replaced by one that is resolved. -/
theorem Consistent.setBody {decl : Decl} {body : Body} (h : Consistent s)
    (hfind : s.catalog.find? q = some decl) (hbody : body.unresolved = decl.body.unresolved)
    (hresolved : s.Resolved { decl with body }) :
    Consistent { s with catalog := s.catalog.update q fun decl => { decl with body } } := by
  have hunique : ∀ other ∈ s.catalog.decls, other.name = q → other = decl := by
    intro other hother hname
    have hfound := Catalog.find_of_mem h.named hother
    rw [hname, hfind] at hfound
    exact (Option.some.inj hfound).symm
  have haccounted : Accounted { s with
      catalog := s.catalog.update q fun decl => { decl with body } } := by
    refine ⟨h.faithful, h.documented, h.distinct, ?_, ?_⟩
    · rw [← h.declared, Catalog.update, List.map_map]
      refine List.map_congr_left fun other hother => ?_
      simp only [Function.comp_apply]
      split
      · rename_i hname
        rw [hunique other hother hname]
        simp only [Decl.unresolved, hbody]
      · rfl
    · rw [names_setBody]
      exact h.named
  refine ⟨haccounted, ?_⟩
  intro changed hchanged
  have hmono : s.Resolved changed →
      Resolved { s with catalog := s.catalog.update q fun decl => { decl with body } } changed :=
    fun hold => hold.mono
      (.of_readsMore h.toAccounted haccounted (.refl s.repository) (List.prefix_refl _))
  rcases Catalog.mem_update_iff.mp hchanged with ⟨hold, -⟩ | ⟨other, hother, hname, rfl⟩
  · exact hmono (h.resolved changed hold)
  · rw [hunique other hother hname] at hmono ⊢
    exact hmono hresolved

theorem Progress.setBody (s : Resolver) (q : QualifiedName) (body : Body) :
    Progress [q] s { s with catalog := s.catalog.update q fun decl => { decl with body } } where
  repository := .refl s.repository
  roots := List.prefix_refl _
  decls := fun kept hkept hown => Catalog.prefix_update hkept (hown q (List.mem_singleton_self q))
  unchanged := fun name _ hown =>
    Catalog.find_update_of_ne (fun _ => rfl) fun hsame => hown (List.mem_singleton.mpr hsame)
  resolving := rfl
  unchecked := List.prefix_refl _
  added := by
    intro name hname
    rw [names_setBody] at hname
    exact Or.inl hname

end Resolver

end HalBridge
