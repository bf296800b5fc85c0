import HalBridge.Proofs.ResolverMeaning

/-!
# Resolving references keeps the invariant

Every action of the second phase keeps the catalogue consistent and settles what it resolves. The
actions are taken one after the other, from looking up a name to resolving all pending
declarations; how a release is loaded on the way is a parameter.
-/

namespace HalBridge.Resolver

open Document

/-- A state in which references are resolved and `bound` further releases may be loaded inside each
other. -/
structure Ready (bound : Nat) (s : Resolver) : Prop where
  consistent : s.Consistent
  resolving : 0 < s.resolving
  bounded : s.repository.disk.size < bound + s.roots.length

/-- A step between such states, in which only the declarations of `own` change and every
declaration that is added is finished. -/
structure Advances (bound : Nat) (own : List QualifiedName) (s t : Resolver) : Prop where
  ready : Ready bound t
  progress : Progress own s t
  owned : own ⊆ s.catalog.names
  finished : ∀ q ∈ t.catalog.names, q ∉ s.catalog.names → t.Finished q

variable {bound : Nat} {own : List QualifiedName} {s t u : Resolver} {q : QualifiedName}
  {load : QualifiedName → Loading Unit} {lookup : QualifiedName → Loading Ref} {ref : Ref}
  {scope : Decl}

theorem Ready.of_progress (hs : Ready bound s) (ht : t.Consistent) (h : Progress own s t) :
    Ready bound t := by
  refine ⟨ht, ?_, ?_⟩
  · rw [h.resolving]
    exact hs.resolving
  · have hroots := h.roots.length_le
    have hbounded := hs.bounded
    rw [h.repository.disk]
    omega

theorem Advances.refl (hs : Ready bound s) : Advances bound [] s s where
  ready := hs
  progress := .refl s
  owned := List.nil_subset _
  finished := fun _ hq hnew => absurd hq hnew

theorem Advances.later (h : Advances bound own s t) (hs : Ready bound s) : Later s t :=
  h.progress.later hs.consistent.toAccounted h.ready.consistent.toAccounted

theorem Advances.mem_names (h : Advances bound own s t) (hs : Ready bound s)
    (hq : q ∈ s.catalog.names) : q ∈ t.catalog.names :=
  ((h.later hs).mem_names_iff (hs.consistent.mem_names_iff.mp hq).1).mpr hq

/-- What is finished stays finished if it is not changed. -/
theorem Advances.finished_of_not_mem (h : Advances bound own s t) (hs : Ready bound s)
    (hq : q ∉ own) (hfinished : s.Finished q) : t.Finished q :=
  hfinished.of_later hs.consistent (h.later hs)
    (h.progress.unchanged q hfinished.mem_names hq)

theorem Advances.trans (hst : Advances bound own s t) (htu : Advances bound own t u) :
    Advances bound own s u where
  ready := htu.ready
  progress := hst.progress.trans htu.progress
  owned := hst.owned
  finished := by
    intro q hq hnew
    by_cases hmiddle : q ∈ t.catalog.names
    · exact htu.finished_of_not_mem hst.ready (fun hown => hnew (hst.owned hown))
        (hst.finished q hmiddle hnew)
    · exact htu.finished q hq hmiddle

theorem Advances.mono {more : List QualifiedName} (h : Advances bound own s t)
    (hmore : own ⊆ more) (howned : more ⊆ s.catalog.names) : Advances bound more s t where
  ready := h.ready
  progress := h.progress.mono hmore
  owned := howned
  finished := h.finished

/-- Loading a release advances to a state where it is loaded. -/
def LoadsReleases (bound : Nat) (load : QualifiedName → Loading Unit) : Prop :=
  ∀ ⦃key s t⦄, key.release = key → Ready bound s → load key s = .ok () t →
    Advances bound [] s t ∧ t.isLoaded key

/-- Looking up a name advances to a state where the reference to it is settled. -/
def SettlesNames (bound : Nat) (lookup : QualifiedName → Loading Ref) : Prop :=
  ∀ ⦃q s t ref⦄, Ready bound s → lookup q s = .ok ref t →
    Advances bound [] s t ∧ t.Settled ref ∧ ref.name = q

theorem settled_ref (hloaded : s.isLoaded q.release) :
    s.Settled (s.catalog.ref q) := by
  unfold Catalog.ref
  split
  · rename_i hcontains
    exact Catalog.contains_iff.mp hcontains
  · rename_i hcontains
    exact ⟨fun hq => hcontains (Catalog.contains_iff.mpr hq), Or.inl hloaded⟩

/-- A name is settled as it is, or once its release is loaded. -/
theorem lookupWith_cases (h : lookupWith load q s = .ok ref t) :
    (s = t ∧ s.Settled ref ∧ ref.name = q) ∨
      (load q.release s = .ok () t ∧ ref = t.catalog.ref q) := by
  unfold lookupWith at h
  simp only [Outcome.get_bind] at h
  split at h
  · rename_i hcontains
    obtain ⟨rfl, rfl⟩ := Outcome.pure_ok_iff.mp h
    exact Or.inl ⟨rfl, Catalog.contains_iff.mp hcontains, rfl⟩
  · rename_i hcontains
    rw [Catalog.contains_iff] at hcontains
    simp only [Outcome.get_bind] at h
    split at h
    · rename_i hloaded
      obtain ⟨rfl, rfl⟩ := Outcome.pure_ok_iff.mp h
      exact Or.inl ⟨rfl, ⟨hcontains, Or.inl hloaded⟩, rfl⟩
    · cases hholds : s.repository.holds q.release with
      | error fault =>
          rw [hholds] at h
          exact absurd h Outcome.throw_ne_ok
      | ok present =>
          rw [hholds] at h
          cases present with
          | false =>
              obtain ⟨rfl, rfl⟩ := Outcome.pure_ok_iff.mp h
              exact Or.inl ⟨rfl, ⟨hcontains, Or.inr hholds⟩, rfl⟩
          | true =>
              obtain ⟨_, after, hafter, h⟩ := Outcome.bind_ok_iff.mp h
              rw [Outcome.get_bind] at h
              obtain ⟨rfl, rfl⟩ := Outcome.pure_ok_iff.mp h
              exact Or.inr ⟨hafter, rfl⟩

theorem lookupWith_settles (hload : LoadsReleases bound load) :
    SettlesNames bound (lookupWith load) := by
  intro q s t ref hs h
  rcases lookupWith_cases h with ⟨rfl, hsettled⟩ | ⟨hafter, rfl⟩
  · exact ⟨.refl hs, hsettled⟩
  · obtain ⟨hadvances, hloaded⟩ := hload rfl hs hafter
    exact ⟨hadvances, settled_ref hloaded, name_ref _ q⟩

/-! ### Resolving what a declaration mentions -/

theorem contains_of_findRelative {catalog : Catalog} {path : List String}
    (h : findRelative? catalog scope path = some q) : catalog.contains q := by
  unfold findRelative? at h
  obtain ⟨outer, -, houter⟩ := List.exists_of_findSome?_eq_some h
  dsimp only at houter
  split at houter
  · rename_i hcontains
    rwa [← Option.some.inj houter]
  · cases houter

theorem resolveName_ok {reference : String} (hlookup : SettlesNames bound lookup)
    (hs : Ready bound s) (hscope : Sited s scope)
    (h : resolveName lookup scope reference s = .ok ref t) :
    Advances bound [] s t ∧ t.Settled ref ∧ refersTo? t.catalog scope reference = some ref := by
  unfold resolveName at h
  split at h
  · rename_i hqualified
    cases hparse : QualifiedName.parse reference with
    | error error =>
        rw [hparse] at h
        cases error with
        | malformed => exact absurd h Outcome.throw_ne_ok
        | overlong length => exact absurd h Outcome.throw_ne_ok
    | ok q =>
        rw [hparse] at h
        obtain ⟨hadvances, hsettled, rfl⟩ := hlookup hs h
        refine ⟨hadvances, hsettled, ?_⟩
        rw [refersTo?, meant?, if_pos hqualified, QualifiedName.parse_eq_some_iff.mpr hparse,
          Option.map_some, ref_of_settled hsettled]
  · rename_i hrelative
    rw [Outcome.get_bind] at h
    cases hfind : findRelative? s.catalog scope (Text.split '.' reference) with
    | none =>
        simp only [hfind] at h
        obtain ⟨hadvances, hsettled, hname⟩ := hlookup hs h
        refine ⟨hadvances, hsettled, ?_⟩
        rw [refersTo?, meant?, if_neg hrelative, findRelative_of_later (hadvances.later hs) hscope,
          hfind, Option.getD_none, ← hname, Option.map_some, ref_of_settled hsettled]
    | some q =>
        simp only [hfind] at h
        obtain ⟨rfl, rfl⟩ := Outcome.pure_ok_iff.mp h
        have hcontains := contains_of_findRelative hfind
        refine ⟨.refl hs, Catalog.contains_iff.mp hcontains, ?_⟩
        rw [refersTo?, meant?, if_neg hrelative, hfind, Option.getD_some, Option.map_some,
          Catalog.ref, if_pos hcontains]

/-- A written type was resolved to what it denotes. -/
structure Resolves (t : Resolver) (scope : Decl) (reference : TypeRef) (type : Ty) : Prop where
  denotes : Denotes (refersTo? t.catalog scope) reference type
  settled : ∀ ref, type.ref? = some ref → t.Settled ref

theorem resolveType_ok {type : Ty} (reference : TypeRef) (hlookup : SettlesNames bound lookup)
    (hs : Ready bound s) (hscope : Sited s scope)
    (h : resolveType lookup scope reference s = .ok type t) :
    Advances bound [] s t ∧ Resolves t scope reference type := by
  fun_induction resolveType lookup scope reference generalizing type t with
  | case1 _ _ _ _ _ hscalar =>
      obtain ⟨rfl, rfl⟩ := Outcome.pure_ok_iff.mp h
      exact ⟨.refl hs, .scalar hscalar, fun _ href => by cases href⟩
  | case3 =>
      obtain ⟨rfl, rfl⟩ := Outcome.pure_ok_iff.mp h
      exact ⟨.refl hs, .string, fun _ href => by cases href⟩
  | case11 _ _ _ _ _ _ _ _ _ _ _ _ _ hspecial =>
      obtain ⟨rfl, rfl⟩ := Outcome.pure_ok_iff.mp h
      exact ⟨.refl hs, .special hspecial, fun _ href => by cases href⟩
  | case2 | case4 | case6 | case8 | case9 | case12 => exact absurd h Outcome.throw_ne_ok
  | case5 _ _ _ _ ih =>
      obtain ⟨element, after, helement, h⟩ := Outcome.bind_ok_iff.mp h
      obtain ⟨rfl, rfl⟩ := Outcome.pure_ok_iff.mp h
      obtain ⟨hadvances, hdenotes, hsettled⟩ := ih helement
      exact ⟨hadvances, .vec hdenotes, hsettled⟩
  | case7 _ _ _ size ih =>
      obtain ⟨element, after, helement, h⟩ := Outcome.bind_ok_iff.mp h
      cases size with
      | none => exact absurd h Outcome.throw_ne_ok
      | some size =>
          dsimp only at h
          split at h
          · rename_i hsize
            obtain ⟨rfl, rfl⟩ := Outcome.pure_ok_iff.mp h
            obtain ⟨hadvances, hdenotes, hsettled⟩ := ih helement
            exact ⟨hadvances, .array hdenotes hsize, hsettled⟩
          · exact absurd h Outcome.throw_ne_ok
  | case10 _ _ _ _ hreference =>
      obtain ⟨found, after, hfound, h⟩ := Outcome.bind_ok_iff.mp h
      obtain ⟨rfl, rfl⟩ := Outcome.pure_ok_iff.mp h
      obtain ⟨hadvances, hsettled, href⟩ := resolveName_ok hlookup hs hscope hfound
      refine ⟨hadvances, .named hreference href, ?_⟩
      rintro _ ⟨⟩
      exact hsettled

/-- A field of the declaration `scope` was resolved from its definition. -/
structure ResolvesField (t : Resolver) (scope : Decl) (definition : Option FieldDef)
    (field : Field) : Prop where
  denotes : DenotesField (refersTo? t.catalog scope) definition field
  settled : ∀ ref, field.type.ref? = some ref → t.Settled ref
  place : field.owner = scope.name ∧ field.origin = scope.name.version ∧ field.access = field.name

theorem resolveField_ok {definition : Option FieldDef} {field : Field}
    (hlookup : SettlesNames bound lookup) (hs : Ready bound s) (hscope : Sited s scope)
    (h : resolveField lookup scope definition s = .ok field t) :
    Advances bound [] s t ∧ ResolvesField t scope definition field := by
  unfold resolveField at h
  split at h
  · exact absurd h Outcome.throw_ne_ok
  · exact absurd h Outcome.throw_ne_ok
  · rename_i name reference comment
    obtain ⟨type, after, htype, h⟩ := Outcome.bind_ok_iff.mp h
    obtain ⟨rfl, rfl⟩ := Outcome.pure_ok_iff.mp h
    obtain ⟨hadvances, hdenotes, hsettled⟩ := resolveType_ok reference hlookup hs hscope htype
    exact ⟨hadvances, ⟨reference, rfl, hdenotes⟩, hsettled, rfl, rfl, rfl⟩

theorem Sited.of_later (h : Later s t) (hscope : Sited s scope) : Sited t scope :=
  ⟨h.loaded hscope.loaded, hscope.scopes⟩

theorem resolveFields_ok {definitions : List (Option FieldDef)} {fields : List Field}
    (hlookup : SettlesNames bound lookup) (hs : Ready bound s) (hscope : Sited s scope)
    (h : definitions.mapM (resolveField lookup scope) s = .ok fields t) :
    Advances bound [] s t ∧ List.Forall₂ (ResolvesField t scope) definitions fields := by
  induction definitions generalizing s fields with
  | nil =>
      rw [List.mapM_nil] at h
      obtain ⟨rfl, rfl⟩ := Outcome.pure_ok_iff.mp h
      exact ⟨.refl hs, .nil⟩
  | cons definition rest ih =>
      rw [List.mapM_cons] at h
      obtain ⟨field, middle, hfield, h⟩ := Outcome.bind_ok_iff.mp h
      obtain ⟨others, final, hothers, h⟩ := Outcome.bind_ok_iff.mp h
      obtain ⟨rfl, rfl⟩ := Outcome.pure_ok_iff.mp h
      obtain ⟨hfirst, hown⟩ := resolveField_ok hlookup hs hscope hfield
      have hmiddle := hscope.of_later (hfirst.later hs)
      obtain ⟨hrest, hall⟩ := ih hfirst.ready hmiddle hothers
      have hlater := hrest.later hfirst.ready
      refine ⟨hfirst.trans hrest, .cons ⟨?_, ?_, hown.place⟩ hall⟩
      · exact hown.denotes.of_later hlater hmiddle hown.settled
      · exact fun ref href => (hown.settled ref href).mono hlater

/-- A declaration still to be resolved, with its definition. -/
structure Pends (s : Resolver) (q : QualifiedName) (definition : TypeDef) : Prop where
  known : q ∈ s.catalog.names
  defined : ∃ entry ∈ s.repository.declared q.release, entry.1.name = q ∧ entry.2 = definition

theorem Pends.of_later {definition : TypeDef} (h : Later s t) (hpends : Pends s q definition) :
    Pends t q definition := by
  obtain ⟨hknown, entry, hentry, hname, hdefinition⟩ := hpends
  have hloaded := (h.before.mem_names_iff.mp hknown).1
  refine ⟨(h.mem_names_iff hloaded).mpr hknown, entry, ?_, hname, hdefinition⟩
  rwa [h.declared_eq hloaded]

/-- A declaration gets its resolved body once all it mentions is resolved. -/
theorem setBody_ok {body : Body} {definition : TypeDef} (hs : Ready bound s)
    (hfind : s.catalog.find? scope.name = some scope)
    (hpends : Pends s scope.name definition) (hadvances : Advances bound [] s t)
    (hbody : body.unresolved = scope.body.unresolved)
    (hresolved : t.Resolved { scope with body })
    (hdescribes : Describes t.catalog { scope with body } definition)
    (h : setBody scope.name body t = .ok () u) :
    Advances bound [scope.name] s u ∧ u.Finished scope.name := by
  rw [setBody, Outcome.modifyCatalog_eq] at h
  obtain ⟨-, rfl⟩ := EStateM.Result.ok.inj h
  have howned : [scope.name] ⊆ s.catalog.names :=
    List.cons_subset.mpr ⟨hpends.known, List.nil_subset _⟩
  have hlater := hadvances.later hs
  obtain ⟨hknown, entry, hentry, hname, rfl⟩ := hpends.of_later hlater
  have hfound : t.catalog.find? scope.name = some scope := by
    rw [hadvances.progress.unchanged scope.name hpends.known List.not_mem_nil, hfind]
  have hset := hadvances.ready.consistent.setBody hfound hbody hresolved
  have hprogress := Progress.setBody t scope.name body
  have hfinal : Advances bound [scope.name] t _ := {
    ready := hadvances.ready.of_progress hset hprogress
    progress := hprogress
    owned := List.cons_subset.mpr ⟨hknown, List.nil_subset _⟩
    finished := by
      intro q hq hnew
      rw [names_setBody] at hq
      exact absurd hq hnew }
  refine ⟨(hadvances.mono (List.nil_subset _) howned).trans hfinal,
    { scope with body }, entry, ?_, hentry, hname, ?_⟩
  · exact Catalog.find_update_self (fun _ => rfl) hfound
  · have hsited := hadvances.ready.consistent.sited (Catalog.mem_of_find hfound)
    exact hdescribes.of_later (hfinal.later hadvances.ready) ⟨hsited.loaded, hsited.scopes⟩
      hresolved.refs

/-- The types that the fields of a declaration mention are resolved with the fields. -/
theorem resolved_of_fields {definitions : List (Option FieldDef)} {fields : List Field}
    {style : CompoundStyle} (h : List.Forall₂ (ResolvesField t scope) definitions fields) :
    t.Resolved { scope with body := .compound style fields } := by
  have hall : ∀ field ∈ fields, ∃ definition, ResolvesField t scope definition field := by
    induction h with
    | nil => exact fun _ hfield => absurd hfield List.not_mem_nil
    | cons hfield _ ih => exact List.forall_mem_cons.mpr ⟨⟨_, hfield⟩, ih⟩
  constructor
  · rintro _ _ ⟨⟩ field hfield
    obtain ⟨definition, hresolves⟩ := hall field hfield
    exact hresolves.place
  · intro type htype ref href
    obtain ⟨field, hfield, rfl⟩ := List.mem_map.mp htype
    obtain ⟨definition, hresolves⟩ := hall field hfield
    exact hresolves.settled ref href

/-- A body without fields that mentions one type is resolved with that type. -/
theorem resolved_of_type (body : Body) {reference : TypeRef} {type : Ty}
    (hfields : ∀ style fields, body ≠ .compound style fields) (htypes : body.types = [type])
    (h : Resolves t scope reference type) : t.Resolved { scope with body } := by
  constructor
  · intro style fields hbody
    exact absurd hbody (hfields style fields)
  · rw [htypes]
    exact List.forall_mem_singleton.mpr h.settled

theorem resolveDecl_ok {definition : TypeDef} (hlookup : SettlesNames bound lookup)
    (hs : Ready bound s) (hfind : s.catalog.find? scope.name = some scope)
    (hpends : Pends s scope.name definition)
    (h : resolveDecl lookup scope definition s = .ok () t) :
    Advances bound [scope.name] s t ∧ t.Finished scope.name := by
  have hscope := hs.consistent.sited (Catalog.mem_of_find hfind)
  unfold resolveDecl at h
  cases hbody : scope.body with
  | compound style old =>
      simp only [hbody] at h
      cases hfields : definition.fields with
      | none =>
          rw [hfields] at h
          exact absurd h Outcome.throw_ne_ok
      | some definitions =>
          rw [hfields] at h
          obtain ⟨fields, after, hresolve, h⟩ := Outcome.bind_ok_iff.mp h
          obtain ⟨hadvances, hresolves⟩ := resolveFields_ok hlookup hs hscope hresolve
          refine setBody_ok hs hfind hpends hadvances ?_ (resolved_of_fields hresolves) ?_ h
          · rw [hbody]
            rfl
          · exact ⟨definitions, hfields, hresolves.imp fun _ _ hfield => hfield.denotes⟩
  | enum old values =>
      simp only [hbody] at h
      cases hstorage : definition.storage with
      | none =>
          rw [hstorage] at h
          exact absurd h Outcome.throw_ne_ok
      | some reference =>
          rw [hstorage] at h
          obtain ⟨storage, after, hresolve, h⟩ := Outcome.bind_ok_iff.mp h
          obtain ⟨hadvances, hresolves⟩ := resolveType_ok reference hlookup hs hscope hresolve
          obtain ⟨_, set, hset, h⟩ := Outcome.bind_ok_iff.mp h
          have hfinal : set = t := by
            rw [Outcome.get_bind] at h
            split at h
            · exact absurd h Outcome.throw_ne_ok
            · exact (Outcome.pure_ok_iff.mp h).2
          subst hfinal
          have hresolved := resolved_of_type (.enum storage values) nofun rfl hresolves
          refine setBody_ok hs hfind hpends hadvances ?_ hresolved ?_ hset
          · rw [hbody]
            rfl
          · exact ⟨reference, hstorage, hresolves.denotes⟩
  | typedef old =>
      simp only [hbody] at h
      cases haliased : definition.aliased with
      | none =>
          rw [haliased] at h
          exact absurd h Outcome.throw_ne_ok
      | some reference =>
          rw [haliased] at h
          obtain ⟨aliased, after, hresolve, h⟩ := Outcome.bind_ok_iff.mp h
          obtain ⟨hadvances, hresolves⟩ := resolveType_ok reference hlookup hs hscope hresolve
          have hresolved := resolved_of_type (.typedef aliased) nofun rfl hresolves
          refine setBody_ok hs hfind hpends hadvances ?_ hresolved ?_ h
          · rw [hbody]
            rfl
          · exact ⟨reference, haliased, hresolves.denotes⟩
  | interface =>
      simp only [hbody] at h
      obtain ⟨-, rfl⟩ := Outcome.pure_ok_iff.mp h
      obtain ⟨hknown, entry, hentry, hname, rfl⟩ := hpends
      have howned : [scope.name] ⊆ s.catalog.names :=
        List.cons_subset.mpr ⟨hknown, List.nil_subset _⟩
      refine ⟨(Advances.refl hs).mono (List.nil_subset _) howned,
        scope, entry, hfind, hentry, hname, ?_⟩
      rw [Describes, hbody]
      trivial

/-- After all pending declarations are resolved, all of them are finished. -/
theorem resolvePending_ok {pending : Pending} (hlookup : SettlesNames bound lookup)
    (hs : Ready bound s) (hpending : ∀ entry ∈ pending, Pends s entry.1 entry.2)
    (hdistinct : (pending.map Prod.fst).Nodup)
    (h : resolvePending lookup pending s = .ok () t) :
    Advances bound (pending.map Prod.fst) s t ∧ ∀ q ∈ pending.map Prod.fst, t.Finished q := by
  induction pending generalizing s with
  | nil =>
      obtain ⟨-, rfl⟩ := Outcome.pure_ok_iff.mp h
      exact ⟨.refl hs, fun _ hq => absurd hq List.not_mem_nil⟩
  | cons first rest ih =>
      obtain ⟨q, definition⟩ := first
      have hfirst : Pends s q definition := hpending _ List.mem_cons_self
      have howned : List.map Prod.fst ((q, definition) :: rest) ⊆ s.catalog.names := by
        intro name hname
        obtain ⟨entry, hentry, rfl⟩ := List.mem_map.mp hname
        exact (hpending entry hentry).known
      unfold resolvePending at h
      rw [Outcome.get_bind] at h
      obtain ⟨scope, hfind⟩ :=
        Catalog.exists_find_of_contains (Catalog.contains_iff.mpr hfirst.known)
      rw [hfind] at h
      obtain ⟨_, middle, hdecl, h⟩ := Outcome.bind_ok_iff.mp h
      obtain rfl := Catalog.name_of_find hfind
      obtain ⟨hadvances, hfinished⟩ := resolveDecl_ok hlookup hs hfind hfirst hdecl
      have hlater := hadvances.later hs
      rw [List.map_cons, List.nodup_cons] at hdistinct
      have hrest : ∀ entry ∈ rest, Pends middle entry.1 entry.2 := fun entry hentry =>
        (hpending entry (List.mem_cons_of_mem _ hentry)).of_later hlater
      obtain ⟨hothers, hall⟩ := ih hadvances.ready hrest hdistinct.2 h
      refine ⟨(hadvances.mono ?_ howned).trans
        (hothers.mono (List.subset_cons_self _ _) fun name hname => ?_), ?_⟩
      · exact List.cons_subset.mpr ⟨List.mem_cons_self, List.nil_subset _⟩
      · exact hadvances.mem_names hs (howned hname)
      · rw [List.map_cons, List.forall_mem_cons]
        exact ⟨hothers.finished_of_not_mem hadvances.ready hdistinct.1 hfinished, hall⟩

end HalBridge.Resolver
