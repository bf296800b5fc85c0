import HalBridge.Proofs.WrittenReferences

/-!
# How loading fails

In a repository with legible files, loading fails only with an error of the input, or because a
release that some definition refers to has a name too long to be asked for or a version with too
many digits. The steps of loading are taken in the order in which the invariant was proved, since a
later step is reached through the states that the steps before it leave.
-/

namespace HalBridge

open Document

namespace Repository

/-- The faults that loading may end with. -/
def Refuses (repository : Repository) (fault : Fault) : Prop :=
  (∃ error, fault = .input error) ∨
    (∃ key, repository.RefersTo key ∧ repository.checkPath key = .error fault) ∨
    ∃ text length, repository.Mentions text ∧ QualifiedName.OverlongText text length ∧
      fault = .overlongVersion length

/-- A definition is complete, and all it mentions is known to be mentioned. -/
structure Knows (repository : Repository) (definition : TypeDef) : Prop where
  complete : definition.Complete
  references : ∀ written ∈ definition.types, ∀ text, written.reference? = some text →
    repository.Mentions text

variable {repository : Repository} {key : QualifiedName}

theorem Refuses.of_input (error : InputError) : repository.Refuses (.input error) :=
  Or.inl ⟨error, rfl⟩

theorem Legible.knows {entry : Decl × TypeDef} (h : repository.Legible)
    (hentry : entry ∈ repository.definitions key) : repository.Knows entry.2 := by
  refine ⟨TypeDef.complete_of_isComplete (h.isComplete hentry), ?_⟩
  intro written hwritten text htext
  exact ⟨key, entry, hentry, written, hwritten, htext⟩

end Repository

namespace Resolver

variable {base : Repository} {bound : Nat} {s t : Resolver} {key q : QualifiedName} {fault : Fault}
  {load : QualifiedName → Loading Unit} {lookup : QualifiedName → Loading Ref} {scope : Decl}

/-! ### Declaring -/

theorem placeholder_ok {definition : TypeDef} (h : definition.Complete) (kind : DeclKind) :
    ∃ body, placeholder kind definition.values = .ok body := by
  obtain ⟨values, hvalues, hall⟩ := h.values
  obtain ⟨found, hfound⟩ : ∃ found, values.mapM enumValue = .ok found := by
    refine Outcome.mapM_ok fun entry hentry => ?_
    obtain ⟨value, rfl, -⟩ := hall entry hentry
    exact ⟨_, rfl⟩
  cases kind with
  | compound style => exact ⟨_, rfl⟩
  | typedef => exact ⟨_, rfl⟩
  | interface => exact ⟨_, rfl⟩
  | enum =>
      rw [hvalues, placeholder]
      simp only [hfound]
      exact ⟨_, rfl⟩

theorem enter_error {scopes : List QualifiedName} {definition : TypeDef}
    (hcomplete : definition.Complete) (h : enter scopes q definition s = .error fault t) :
    ∃ error, fault = .input error := by
  unfold enter at h
  cases hkind : DeclKind.ofText? definition.kind with
  | none =>
      simp only [hkind] at h
      exact ⟨_, (Outcome.throw_error_iff.mp h).1.symm⟩
  | some kind =>
      simp only [hkind, Outcome.get_bind] at h
      split at h
      · exact ⟨_, (Outcome.throw_error_iff.mp h).1.symm⟩
      · obtain ⟨body, hbody⟩ := placeholder_ok hcomplete kind
        rw [hbody] at h
        cases h

mutual

theorem declare_error {key : QualifiedName} {scopes : List QualifiedName} {s t : Resolver}
    {fault : Fault} (definition : TypeDef) (hcomplete : definition.isComplete)
    (h : declare key scopes definition s = .error fault t) : ∃ error, fault = .input error := by
  have hparts := TypeDef.complete_of_isComplete hcomplete
  obtain ⟨name, kind, fields, subTypes, storage, values, aliased, comment⟩ := definition
  unfold declare at h
  rcases Outcome.bind_error_iff.mp h with henter | ⟨_, entered, -, h⟩
  · exact enter_error hparts henter
  · obtain ⟨listed, hlisted, hall⟩ := hparts.members
    cases subTypes with
    | none => cases hlisted
    | some members =>
        rw [← Option.some.inj hlisted] at hall
        rcases Outcome.bind_error_iff.mp h with hnested | ⟨⟨nested, pending⟩, declared, -, h⟩
        · exact declareAll_error members hall hnested
        · cases h

theorem declareAll_error {key : QualifiedName} {scopes : List QualifiedName} {s t : Resolver}
    {fault : Fault} (definitions : List (Option TypeDef))
    (hcomplete : TypeDef.areComplete definitions)
    (h : declareAll key scopes definitions s = .error fault t) :
    ∃ error, fault = .input error := by
  match definitions with
  | [] => exact absurd h Outcome.pure_ne_error
  | none :: rest => exact absurd hcomplete Bool.false_ne_true
  | some definition :: rest =>
      rw [TypeDef.areComplete, Bool.and_eq_true] at hcomplete
      unfold declareAll at h
      rcases Outcome.bind_error_iff.mp h with hfirst | ⟨⟨q, pending⟩, declared, -, h⟩
      · exact declare_error definition hcomplete.1 hfirst
      · rcases Outcome.bind_error_iff.mp h with hrest | ⟨⟨names, others⟩, final, -, h⟩
        · exact declareAll_error rest hcomplete.2 hrest
        · exact absurd h Outcome.pure_ne_error

end

/-! ### Resolving references -/

/-- A name that cannot be looked up belongs to a release that is not loaded. -/
def RefusesNames (base : Repository) (bound : Nat) (lookup : QualifiedName → Loading Ref) : Prop :=
  ∀ ⦃q s fault t⦄, Ready bound s → base.ReadsMore s.repository → lookup q s = .error fault t →
    ¬s.isLoaded q.release ∧ (base.checkPath q.release = .error fault ∨ base.Refuses fault)

theorem resolveName_error {reference : String} (hlookup : RefusesNames base bound lookup)
    (hs : Ready bound s) (hbase : base.ReadsMore s.repository) (hscope : Sited s scope)
    (hknown : base.Mentions reference)
    (h : resolveName lookup scope reference s = .error fault t) : base.Refuses fault := by
  unfold resolveName at h
  split at h
  · cases hparse : QualifiedName.parse reference with
    | error error =>
        rw [hparse] at h
        cases error with
        | malformed =>
            obtain ⟨rfl, -⟩ := Outcome.throw_error_iff.mp h
            exact .of_input _
        | overlong length =>
            obtain ⟨rfl, -⟩ := Outcome.throw_error_iff.mp h
            have hoverlong := QualifiedName.parse_eq_overlong_iff.mp hparse
            exact Or.inr (Or.inr ⟨reference, length, hknown, hoverlong, rfl⟩)
    | ok q =>
        rw [hparse] at h
        obtain ⟨-, hpath | hrefuses⟩ := hlookup hs hbase h
        · have hrefers : base.RefersTo q.release :=
            ⟨reference, q, hknown, QualifiedName.parse_eq_some_iff.mpr hparse, rfl⟩
          exact Or.inr (Or.inl ⟨q.release, hrefers, hpath⟩)
        · exact hrefuses
  · rw [Outcome.get_bind] at h
    cases hfind : findRelative? s.catalog scope (Text.split '.' reference) with
    | some q =>
        simp only [hfind] at h
        exact absurd h Outcome.pure_ne_error
    | none =>
        -- The name would stand in the release of its scope, and that is loaded.
        simp only [hfind] at h
        exact absurd hscope.loaded (hlookup hs hbase h).1

theorem resolveType_error (written : TypeRef) (hlookup : RefusesNames base bound lookup)
    (hs : Ready bound s) (hbase : base.ReadsMore s.repository) (hscope : Sited s scope)
    (hknown : ∀ text, written.reference? = some text → base.Mentions text)
    (h : resolveType lookup scope written s = .error fault t) : base.Refuses fault := by
  fun_induction resolveType lookup scope written generalizing t with
  | case1 | case3 | case11 => exact absurd h Outcome.pure_ne_error
  | case2 | case4 | case6 | case8 | case9 | case12 =>
      obtain ⟨rfl, -⟩ := Outcome.throw_error_iff.mp h
      exact .of_input _
  | case5 _ _ _ _ ih =>
      rw [TypeRef.reference?] at hknown
      rcases Outcome.bind_error_iff.mp h with helement | ⟨element, after, -, h⟩
      · exact ih hknown helement
      · exact absurd h Outcome.pure_ne_error
  | case7 _ _ _ size ih =>
      rw [TypeRef.reference?] at hknown
      rcases Outcome.bind_error_iff.mp h with helement | ⟨element, after, -, h⟩
      · exact ih hknown helement
      · cases size with
        | none =>
            obtain ⟨rfl, -⟩ := Outcome.throw_error_iff.mp h
            exact .of_input _
        | some size =>
            dsimp only at h
            split at h
            · exact absurd h Outcome.pure_ne_error
            · obtain ⟨rfl, -⟩ := Outcome.throw_error_iff.mp h
              exact .of_input _
  | case10 _ _ _ reference hreference =>
      rw [TypeRef.reference?] at hknown
      rcases Outcome.bind_error_iff.mp h with hname | ⟨found, after, -, h⟩
      · exact resolveName_error hlookup hs hbase hscope (hknown reference rfl) hname
      · exact absurd h Outcome.pure_ne_error

theorem resolveField_error {entry : Option FieldDef} (hlookup : RefusesNames base bound lookup)
    (hs : Ready bound s) (hbase : base.ReadsMore s.repository) (hscope : Sited s scope)
    (hentry : ∃ field : FieldDef, entry = some field ∧ field.isComplete)
    (hknown : ∀ written, entry.bind FieldDef.type = some written → ∀ text,
      written.reference? = some text → base.Mentions text)
    (h : resolveField lookup scope entry s = .error fault t) : base.Refuses fault := by
  obtain ⟨⟨name, type, comment⟩, rfl, hcomplete⟩ := hentry
  cases type with
  | none => simp [FieldDef.isComplete] at hcomplete
  | some written =>
      unfold resolveField at h
      rcases Outcome.bind_error_iff.mp h with htype | ⟨type, after, -, h⟩
      · exact resolveType_error written hlookup hs hbase hscope (hknown written rfl) htype
      · exact absurd h Outcome.pure_ne_error

theorem resolveFields_error {entries : List (Option FieldDef)}
    (hsettles : SettlesNames bound lookup) (hlookup : RefusesNames base bound lookup)
    (hs : Ready bound s) (hbase : base.ReadsMore s.repository) (hscope : Sited s scope)
    (hentries : ∀ entry ∈ entries, ∃ field : FieldDef, entry = some field ∧ field.isComplete)
    (hknown : ∀ written ∈ entries.filterMap (·.bind FieldDef.type), ∀ text,
      written.reference? = some text → base.Mentions text)
    (h : entries.mapM (resolveField lookup scope) s = .error fault t) : base.Refuses fault := by
  induction entries generalizing s with
  | nil =>
      rw [List.mapM_nil] at h
      exact absurd h Outcome.pure_ne_error
  | cons entry rest ih =>
      rw [List.mapM_cons] at h
      rcases Outcome.bind_error_iff.mp h with hfirst | ⟨field, middle, hfield, h⟩
      · have hentry := hentries entry List.mem_cons_self
        refine resolveField_error hlookup hs hbase hscope hentry ?_ hfirst
        intro written hwritten
        exact hknown written (List.mem_filterMap.mpr ⟨entry, List.mem_cons_self, hwritten⟩)
      · rcases Outcome.bind_error_iff.mp h with hrest | ⟨fields, after, -, h⟩
        · obtain ⟨hadvances, -⟩ := resolveField_ok hsettles hs hscope hfield
          have hmiddle := hscope.of_later (hadvances.later hs)
          refine ih hadvances.ready (hbase.trans hadvances.progress.repository) hmiddle ?_ ?_ hrest
          · exact fun other hother => hentries other (List.mem_cons_of_mem _ hother)
          · intro written hwritten
            obtain ⟨other, hother, htype⟩ := List.mem_filterMap.mp hwritten
            exact hknown written
              (List.mem_filterMap.mpr ⟨other, List.mem_cons_of_mem _ hother, htype⟩)
        · exact absurd h Outcome.pure_ne_error

theorem setBody_ne_error {body : Body} : setBody q body s ≠ .error fault t := by
  rw [setBody, Outcome.modifyCatalog_eq]
  exact fun h => by cases h

theorem resolveDecl_error {definition : TypeDef} (hsettles : SettlesNames bound lookup)
    (hlookup : RefusesNames base bound lookup) (hs : Ready bound s)
    (hbase : base.ReadsMore s.repository) (hscope : Sited s scope)
    (hknows : base.Knows definition)
    (h : resolveDecl lookup scope definition s = .error fault t) : base.Refuses fault := by
  unfold resolveDecl at h
  cases hbody : scope.body with
  | interface =>
      simp only [hbody] at h
      exact absurd h Outcome.pure_ne_error
  | compound style old =>
      simp only [hbody] at h
      obtain ⟨fields, hfields, hentries⟩ := hknows.complete.fields
      rw [hfields] at h
      rcases Outcome.bind_error_iff.mp h with hresolve | ⟨found, after, -, h⟩
      · refine resolveFields_error hsettles hlookup hs hbase hscope hentries ?_ hresolve
        intro written hwritten
        refine hknows.references written ?_
        simp only [TypeDef.types, hfields, Option.getD_some, List.mem_append]
        exact Or.inl (Or.inl hwritten)
      · exact absurd h setBody_ne_error
  | enum old values =>
      simp only [hbody] at h
      cases hstorage : definition.storage with
      | none =>
          rw [hstorage] at h
          obtain ⟨rfl, -⟩ := Outcome.throw_error_iff.mp h
          exact .of_input _
      | some written =>
          rw [hstorage] at h
          rcases Outcome.bind_error_iff.mp h with hresolve | ⟨storage, after, -, h⟩
          · refine resolveType_error written hlookup hs hbase hscope ?_ hresolve
            exact hknows.references written (by simp [TypeDef.types, hstorage])
          · rcases Outcome.bind_error_iff.mp h with hset | ⟨_, set, -, h⟩
            · exact absurd hset setBody_ne_error
            · rw [Outcome.get_bind] at h
              split at h
              · obtain ⟨rfl, -⟩ := Outcome.throw_error_iff.mp h
                exact .of_input _
              · exact absurd h Outcome.pure_ne_error
  | typedef old =>
      simp only [hbody] at h
      cases haliased : definition.aliased with
      | none =>
          rw [haliased] at h
          obtain ⟨rfl, -⟩ := Outcome.throw_error_iff.mp h
          exact .of_input _
      | some written =>
          rw [haliased] at h
          rcases Outcome.bind_error_iff.mp h with hresolve | ⟨aliased, after, -, h⟩
          · refine resolveType_error written hlookup hs hbase hscope ?_ hresolve
            exact hknows.references written (by simp [TypeDef.types, haliased])
          · exact absurd h setBody_ne_error

theorem resolvePending_error {pending : Pending} (hsettles : SettlesNames bound lookup)
    (hlookup : RefusesNames base bound lookup) (hs : Ready bound s)
    (hbase : base.ReadsMore s.repository)
    (hpending : ∀ entry ∈ pending, Pends s entry.1 entry.2)
    (hknows : ∀ entry ∈ pending, base.Knows entry.2)
    (h : resolvePending lookup pending s = .error fault t) : base.Refuses fault := by
  induction pending generalizing s with
  | nil => exact absurd h Outcome.pure_ne_error
  | cons first rest ih =>
      obtain ⟨q, definition⟩ := first
      have hfirst : Pends s q definition := hpending _ List.mem_cons_self
      unfold resolvePending at h
      rw [Outcome.get_bind] at h
      obtain ⟨scope, hfind⟩ :=
        Catalog.exists_find_of_contains (Catalog.contains_iff.mpr hfirst.known)
      rw [hfind] at h
      obtain rfl := Catalog.name_of_find hfind
      have hscope := hs.consistent.sited (Catalog.mem_of_find hfind)
      rcases Outcome.bind_error_iff.mp h with hdecl | ⟨_, middle, hdecl, h⟩
      · exact resolveDecl_error hsettles hlookup hs hbase hscope (hknows _ List.mem_cons_self) hdecl
      · obtain ⟨hadvances, -⟩ := resolveDecl_ok hsettles hs hfind hfirst hdecl
        refine ih hadvances.ready (hbase.trans hadvances.progress.repository) ?_ ?_ h
        · intro entry hentry
          exact (hpending entry (List.mem_cons_of_mem _ hentry)).of_later (hadvances.later hs)
        · exact fun entry hentry => hknows entry (List.mem_cons_of_mem _ hentry)

/-! ### Loading releases -/

/-- A release that is present is loaded, or refused. -/
def RefusesReleases (base : Repository) (bound : Nat) (load : QualifiedName → Loading Unit) :
    Prop :=
  ∀ ⦃key s fault t⦄, key.release = key → Ready bound s → base.ReadsMore s.repository →
    base.contains key → load key s = .error fault t → base.Refuses fault

theorem lookupWith_error (hload : RefusesReleases base bound load) :
    RefusesNames base bound (lookupWith load) := by
  intro q s fault t hs hbase h
  unfold lookupWith at h
  simp only [Outcome.get_bind] at h
  split at h
  · exact absurd h Outcome.pure_ne_error
  · simp only [Outcome.get_bind] at h
    split at h
    · exact absurd h Outcome.pure_ne_error
    · rename_i hloaded
      refine ⟨hloaded, ?_⟩
      cases hholds : s.repository.holds q.release with
      | error refused =>
          rw [hholds] at h
          obtain ⟨rfl, -⟩ := Outcome.throw_error_iff.mp h
          have hpath := Repository.holds_eq_error_iff.mp hholds
          rw [hbase.checkPath_eq] at hpath
          exact Or.inl hpath
      | ok present =>
          rw [hholds] at h
          cases present with
          | false => exact absurd h Outcome.pure_ne_error
          | true =>
              rcases Outcome.bind_error_iff.mp h with hfail | ⟨_, after, -, h⟩
              · have hcontains := (Repository.holds_eq_ok_iff.mp hholds).2
                rw [hbase.contains_eq] at hcontains
                exact Or.inr (hload rfl hs hbase hcontains hfail)
              · rw [Outcome.get_bind] at h
                exact absurd h Outcome.pure_ne_error

theorem document_error (h : document key s = .error fault t) :
    ∃ after, s.repository.load key = (.error fault, after) := by
  unfold document at h
  split at h
  · cases h
  · rename_i found after hload
    obtain ⟨rfl, -⟩ := EStateM.Result.error.inj h
    exact ⟨after, hload⟩

/-- The document of a release that is present is read, or refused with a message. -/
theorem document_error_input (hlegible : base.Legible) (hbase : base.ReadsMore s.repository)
    (hkey : key.release = key) (hcontains : base.contains key)
    (h : document key s = .error fault t) : ∃ error, fault = .input error := by
  obtain ⟨after, hafter⟩ := document_error h
  have hloads := Repository.load_loads s.repository key
  rw [hafter, hkey] at hloads
  cases hloads with
  | unasked _ hpath =>
      rw [hbase.checkPath_eq, Repository.checkPath_of_contains hcontains] at hpath
      cases hpath
  | missing => exact ⟨_, rfl⟩
  | refused _ text hfile hdecode =>
      rw [hbase.file_eq] at hfile
      exact Repository.decodeRelease_error (hlegible key text hfile) hdecode

theorem whileResolving_error {action : Loading Unit}
    (h : whileResolving action s = .error fault t) :
    ∃ u, action { s with resolving := s.resolving + 1 } = .error fault u := by
  unfold whileResolving at h
  split at h
  · cases h
  · rename_i failed after haction
    obtain ⟨rfl, -⟩ := EStateM.Result.error.inj h
    exact ⟨after, haction⟩

theorem checkUnchecked_error (h : checkUnchecked s = .error fault t) :
    ∃ error, fault = .input error := by
  unfold checkUnchecked at h
  rw [Outcome.get_bind] at h
  split at h
  · rcases Outcome.bind_error_iff.mp h with hset | ⟨_, after, -, h⟩
    · cases hset
    · cases hcheck : checkChains s.catalog s.unchecked with
      | error error =>
          rw [hcheck] at h
          exact ⟨_, (Outcome.throw_error_iff.mp h).1.symm⟩
      | ok _ =>
          rw [hcheck] at h
          exact absurd h Outcome.pure_ne_error
  · exact absurd h Outcome.pure_ne_error

theorem isComplete_of_load {repository after : Repository} {release : Release}
    (hlegible : base.Legible) (hfaithful : repository.Faithful)
    (hbase : base.ReadsMore repository) (hkey : key.release = key)
    (h : repository.load key = (.ok release, after)) : release.isComplete := by
  have hloads := Repository.load_loads repository key
  rw [h, hkey] at hloads
  obtain ⟨text, hfile, hdecode⟩ := hloads.faithful hfaithful key release hloads.read
  rw [hloads.readsMore.file_eq, hbase.file_eq] at hfile
  exact Repository.isComplete_of_decodeRelease (hlegible key text hfile) hdecode

theorem knows_of_load {repository after : Repository} {release : Release}
    {definitions : List (Option TypeDef)} (hlegible : base.Legible)
    (hfaithful : repository.Faithful) (hbase : base.ReadsMore repository)
    (hkey : key.release = key) (h : repository.load key = (.ok release, after))
    (htypes : release.types = some definitions) :
    ∀ entry ∈ pendingOf (entriesAll key [] definitions), base.Knows entry.2 := by
  have hloads := Repository.load_loads repository key
  rw [h, hkey] at hloads
  have hmore := hbase.trans hloads.readsMore
  have hsame : entriesAll key [] definitions = base.definitions key := by
    rw [← declared_of_read hloads.read htypes,
      (hloads.faithful hfaithful).declared_eq hloads.read, hmore.definitions_eq]
  rw [hsame]
  intro entry hentry
  obtain ⟨defined, hdefined, rfl⟩ := List.mem_map.mp hentry
  exact hlegible.knows hdefined

theorem loadWith_error (hload : LoadsReleases bound load)
    (hrefuses : RefusesReleases base bound load) (hlegible : base.Legible)
    (hkey : key.release = key) (hs : s.Consistent)
    (hbounded : s.repository.disk.size < bound + 1 + s.roots.length)
    (hbase : base.ReadsMore s.repository) (hcontains : base.contains key)
    (h : loadWith load key s = .error fault t) : base.Refuses fault := by
  unfold loadWith at h
  rw [Outcome.get_bind] at h
  cases hroots : s.roots.lookup key with
  | some known =>
      rw [hroots] at h
      exact absurd h Outcome.pure_ne_error
  | none =>
      have hfresh : ¬s.isLoaded key := by
        rw [isLoaded, hroots]
        exact Bool.false_ne_true
      rw [hroots] at h
      rcases Outcome.bind_error_iff.mp h with hdocument | ⟨release, read, hdocument, h⟩
      · exact Or.inl (document_error_input hlegible hbase hkey hcontains hdocument)
      obtain ⟨after, hafter, rfl⟩ := document_ok hdocument
      obtain ⟨definitions, htypes, hall⟩ :=
        Release.types_of_isComplete (isComplete_of_load hlegible hs.faithful hbase hkey hafter)
      rw [htypes] at h
      rcases Outcome.bind_error_iff.mp h with hdeclare | ⟨⟨roots, pending⟩, declared, hdeclare, h⟩
      · exact Or.inl (declareAll_error definitions hall hdeclare)
      obtain ⟨rfl, rfl, hdeclares⟩ := declareAll_ok definitions hdeclare
      simp only [Outcome.modify_bind] at h
      rcases Outcome.bind_error_iff.mp h with hresolve | ⟨_, resolved, -, h⟩
      · obtain ⟨failed, hresolve⟩ := whileResolving_error hresolve
        have hopens := hdeclares.opens hafter htypes rfl
          (areDeclarable_of_declareAll definitions hdeclare) hkey hfresh hs hbounded
        refine resolvePending_error (lookupWith_settles hload) (lookupWith_error hrefuses)
          hopens.ready ?_ hopens.pending
          (knows_of_load hlegible hs.faithful hbase hkey hafter htypes) hresolve
        have hloads := Repository.load_loads s.repository key
        rw [hafter] at hloads
        rw [hdeclares.state]
        exact hbase.trans hloads.readsMore
      · simp only [Outcome.modify_bind] at h
        rcases Outcome.bind_error_iff.mp h with hcheck | ⟨_, checked, -, h⟩
        · exact Or.inl (checkUnchecked_error hcheck)
        · exact absurd h Outcome.pure_ne_error

theorem loadInside_refuses (hlegible : base.Legible) (depth : Nat) :
    RefusesReleases base depth (loadInside depth) := by
  induction depth with
  | zero =>
      intro key s fault t _ _ _ _ h
      exact absurd h Outcome.pure_ne_error
  | succ depth ih =>
      intro key s fault t hkey hs hbase hcontains h
      rcases Outcome.bind_error_iff.mp h with h | ⟨_, after, -, h⟩
      · rw [loadAt_eq] at h
        exact loadWith_error (loadInside_loads depth) ih hlegible hkey hs.consistent hs.bounded
          hbase hcontains h
      · exact absurd h Outcome.pure_ne_error

theorem loadRelease_error (hlegible : base.Legible) (hs : s.Idle)
    (hbase : base.ReadsMore s.repository) (hcontains : base.contains q.release)
    (h : loadRelease q s = .error fault t) : base.Refuses fault := by
  rw [loadRelease, Outcome.get_bind, loadAt_eq] at h
  exact loadWith_error (loadInside_loads _) (loadInside_refuses hlegible _) hlegible rfl
    hs.consistent (by omega) hbase hcontains h

end Resolver

end HalBridge
