import HalBridge.Proofs.ResolverAgreement

/-!
# The order of loading does not matter

A reference is looked up before, while or after its release is loaded, depending on what was loaded
first. Whatever was loaded in one order serves as a model for another: all that a step of the other
order asks for is settled in the model, so the step succeeds and loads nothing that the model does
not have. Each order is a model for the other, hence both end with the same releases.
-/

namespace HalBridge.Resolver

open Document

/-- The action succeeds, and it loads releases of the model only. -/
def Replays {α : Type} (model : Resolver) (action : Loading α) (s : Resolver) : Prop :=
  ∃ a t, action s = .ok a t ∧ Later t model

variable {α β : Type} {bound : Nat} {model s t u : Resolver} {q key : QualifiedName}
  {load : QualifiedName → Loading Unit} {lookup : QualifiedName → Loading Ref} {scope : Decl}

theorem Replays.pure (h : Later s model) (a : α) : Replays model (pure a) s :=
  ⟨a, s, rfl, h⟩

theorem Replays.get_bind {f : Resolver → Loading α} (h : Replays model (f s) s) :
    Replays model (get >>= f) s := h

theorem Replays.of_ok {x : Loading α} {f : α → Loading β} {a : α} (hx : x s = .ok a t)
    (hf : Replays model (f a) t) : Replays model (x >>= f) s := by
  obtain ⟨b, u, hrest, hfinal⟩ := hf
  exact ⟨b, u, Outcome.bind_ok_iff.mpr ⟨a, t, hx, hrest⟩, hfinal⟩

theorem Replays.bind {x : Loading α} {f : α → Loading β} (hx : Replays model x s)
    (hf : ∀ a t, x s = .ok a t → Later t model → Replays model (f a) t) :
    Replays model (x >>= f) s := by
  obtain ⟨a, t, hok, hlater⟩ := hx
  exact .of_ok hok (hf a t hok hlater)

/-- Loading a release of the model succeeds. -/
def ReplaysReleases (model : Resolver) (bound : Nat) (load : QualifiedName → Loading Unit) : Prop :=
  ∀ ⦃key s⦄, key.release = key → Ready bound s → Later s model → model.isLoaded key →
    Replays model (load key) s

/-- Looking up a name that is settled in the model succeeds. -/
def ReplaysNames (model : Resolver) (bound : Nat) (lookup : QualifiedName → Loading Ref) : Prop :=
  ∀ ⦃q s⦄, Ready bound s → Later s model → model.Settled (model.catalog.ref q) →
    Replays model (lookup q) s

/-! ### References -/

/-- The release of a settled name is loaded, or there is none. -/
theorem isLoaded_or_absent (h : Accounted s) (hsettled : s.Settled (s.catalog.ref q)) :
    s.isLoaded q.release ∨ s.repository.holds q.release = .ok false := by
  unfold Catalog.ref at hsettled
  split at hsettled
  · exact Or.inl (h.mem_names_iff.mp hsettled).1
  · exact hsettled.2

theorem lookupWith_replays (hload : ReplaysReleases model bound load) :
    ReplaysNames model bound (lookupWith load) := by
  intro q s hs h hsettled
  unfold lookupWith
  refine .get_bind ?_
  split
  · exact .pure h _
  · refine .get_bind ?_
    split
    · exact .pure h _
    · rw [← h.files.holds_eq]
      rcases isLoaded_or_absent h.after hsettled with hloaded | habsent
      · have hcontains := h.after.contains_of_isLoaded hloaded
        have hholds : model.repository.holds q.release = .ok true :=
          Repository.holds_eq_ok_iff.mpr
            ⟨Repository.checkPath_of_contains hcontains, hcontains⟩
        rw [hholds]
        exact (hload rfl hs h hloaded).bind fun _ t _ ht => .pure ht _
      · rw [habsent]
        exact .pure h _

theorem resolveName_replays {reference : String} {ref : Ref}
    (hlookup : ReplaysNames model bound lookup) (hs : Ready bound s) (h : Later s model)
    (hscope : Sited s scope) (hsettled : model.Settled ref)
    (href : refersTo? model.catalog scope reference = some ref) :
    Replays model (resolveName lookup scope reference) s := by
  obtain ⟨q, hq, rfl⟩ := Option.map_eq_some_iff.mp href
  unfold meant? at hq
  unfold resolveName
  split at hq
  · rename_i hqualified
    rw [if_pos hqualified, QualifiedName.parse_eq_some_iff.mp hq]
    exact hlookup hs h hsettled
  · rename_i hrelative
    rw [if_neg hrelative]
    rw [findRelative_of_later h hscope] at hq
    refine .get_bind ?_
    cases hfind : findRelative? s.catalog scope (Text.split '.' reference) with
    | some found => exact .pure h _
    | none =>
        rw [hfind, Option.getD_none, Option.some.injEq] at hq
        rw [← hq] at hsettled
        exact hlookup hs h hsettled

theorem resolveType_replays {reference : TypeRef} {type : Ty}
    (hlookup : ReplaysNames model bound lookup) (hs : Ready bound s) (h : Later s model)
    (hscope : Sited s scope) (hsettled : ∀ ref, type.ref? = some ref → model.Settled ref)
    (hdenotes : Denotes (refersTo? model.catalog scope) reference type) :
    Replays model (resolveType lookup scope reference) s := by
  induction hdenotes with
  | scalar hscalar =>
      simp only [resolveType, hscalar]
      exact .pure h _
  | string =>
      rw [resolveType]
      exact .pure h _
  | vec _ ih =>
      rw [resolveType]
      exact (ih hsettled).bind fun _ t _ ht => .pure ht _
  | array _ hsize ih =>
      rw [resolveType]
      refine (ih hsettled).bind fun _ t _ ht => ?_
      simp only [if_pos hsize]
      exact .pure ht _
  | @named _ reference _ _ _ hreference hrefer =>
      have hname := resolveName_replays hlookup hs h hscope (hsettled _ rfl) hrefer
      rw [resolveType]
      · exact hname.bind fun _ t _ ht => .pure ht _
      · exact hreference
  | @special kind _ _ _ _ special hspecial =>
      obtain ⟨text, rfl, htext⟩ := Option.bind_eq_some_iff.mp hspecial
      obtain rfl := special_of_text htext
      cases special <;> exact .pure h _

theorem resolveFields_replays {definitions : List (Option FieldDef)} {fields : List Field}
    (hsettles : SettlesNames bound lookup) (hlookup : ReplaysNames model bound lookup)
    (hs : Ready bound s) (h : Later s model) (hscope : Sited s scope)
    (hsettled : ∀ field ∈ fields, ∀ ref, field.type.ref? = some ref → model.Settled ref)
    (hdenotes : List.Forall₂ (DenotesField (refersTo? model.catalog scope)) definitions fields) :
    Replays model (definitions.mapM (resolveField lookup scope)) s := by
  induction hdenotes generalizing s with
  | nil =>
      rw [List.mapM_nil]
      exact .pure h _
  | @cons definition field _ _ hfield _ ih =>
      obtain ⟨reference, rfl, hdenotes⟩ := hfield
      rw [List.forall_mem_cons] at hsettled
      have hfirst : Replays model
          (resolveField lookup scope (some ⟨field.name, some reference, field.comment⟩)) s := by
        have htype := resolveType_replays hlookup hs h hscope hsettled.1 hdenotes
        exact htype.bind fun _ t _ ht => .pure ht _
      rw [List.mapM_cons]
      refine hfirst.bind fun found t hfound ht => ?_
      obtain ⟨hadvances, -⟩ := resolveField_ok hsettles hs hscope hfound
      have hrest := ih hadvances.ready ht (hscope.of_later (hadvances.later hs)) hsettled.2
      exact hrest.bind fun _ u _ hu => .pure hu _

/-! ### Declarations -/

theorem isEnum_of_unresolved {decl other : Decl} {storage : Ty}
    (hsame : other.unresolved = decl.unresolved) (hdecl : s.catalog.find? q = some decl)
    (hother : model.catalog.find? q = some other) (h : model.catalog.storage? q = some storage) :
    s.catalog.isEnum q := by
  have hbody : other.body.unresolved = decl.body.unresolved := congrArg Decl.body hsame
  simp only [Catalog.storage?, hother, Option.map_some] at h
  split at h
  · rename_i found values hkind
    rw [Option.some.inj hkind] at hbody
    obtain ⟨own, hown⟩ := Body.exists_enum_of_unresolved hbody.symm
    simp only [Catalog.isEnum, Catalog.storage?, hdecl, Option.map_some, hown, Option.isSome_some]
  · cases h

theorem isEnum_setBody {catalog : Catalog} {storage : Ty} {values : List EnumValue}
    (h : catalog.isEnum q) :
    (catalog.update key fun decl => { decl with body := .enum storage values }).isEnum q := by
  obtain ⟨old, hold⟩ := Option.isSome_iff_exists.mp h
  obtain ⟨decl, hdecl⟩ := Catalog.exists_find_of_contains
    (Catalog.contains_iff.mpr (Catalog.mem_names_of_storage hold))
  have hfind : (catalog.update key fun decl => { decl with body := .enum storage values }).find? q =
      some (if decl.name = key then { decl with body := .enum storage values } else decl) := by
    refine (Catalog.find_update ?_ q).trans ?_
    · exact fun _ => rfl
    · rw [hdecl, Option.map_some]
  rw [Catalog.isEnum, Catalog.storage?, hfind, Option.map_some]
  by_cases hsame : decl.name = key
  · rw [if_pos hsame]
    rfl
  · rw [if_neg hsame]
    rwa [Catalog.isEnum, Catalog.storage?, hdecl, Option.map_some] at h

/-- A type that ends in a scalar in the model can back an enum. -/
theorem backsEnum_of_endsInScalar {storage own : Ty} {values : List EnumValue} (h : Later s model)
    (hsettled : ∀ ref, storage.ref? = some ref → s.Settled ref)
    (hends : model.catalog.EndsInScalar storage) :
    backsEnum (s.catalog.update key fun decl => { decl with body := .enum own values })
      storage := by
  cases hends with
  | scalar scalar => rfl
  | @parent q parent hparent _ =>
      obtain ⟨decl, hdecl⟩ := Catalog.exists_find_of_contains
        (Catalog.contains_iff.mpr (hsettled _ rfl))
      obtain ⟨other, hother⟩ := Catalog.exists_find_of_contains
        (Catalog.contains_iff.mpr (Catalog.mem_names_of_storage hparent))
      have henum := isEnum_of_unresolved (h.unresolved_eq hdecl hother) hdecl hother hparent
      exact Option.isSome_iff_exists.mpr
        ⟨q, Catalog.enumOf_eq_some_iff.mpr ⟨rfl, isEnum_setBody henum⟩⟩

/-- Changing a body loads nothing. -/
theorem setBody_replays {body : Body} {definition : TypeDef} (hs : Ready bound s)
    (hfind : s.catalog.find? scope.name = some scope)
    (hpends : Pends s scope.name definition) (hadvances : Advances bound [] s t)
    (hbody : body.unresolved = scope.body.unresolved)
    (hresolved : t.Resolved { scope with body })
    (hdescribes : Describes t.catalog { scope with body } definition) (h : Later t model) :
    Replays model (setBody scope.name body) t := by
  obtain ⟨hset, -⟩ := setBody_ok hs hfind hpends hadvances hbody hresolved hdescribes rfl
  exact ⟨(), _, rfl, hset.ready.consistent.toAccounted, h.after, h.files, h.loaded⟩

theorem resolveDecl_replays {definition : TypeDef} (hmodel : model.Idle)
    (hsettles : SettlesNames bound lookup) (hlookup : ReplaysNames model bound lookup)
    (hs : Ready bound s) (h : Later s model) (hfind : s.catalog.find? scope.name = some scope)
    (hpends : Pends s scope.name definition) :
    Replays model (resolveDecl lookup scope definition) s := by
  have hscope := hs.consistent.sited (Catalog.mem_of_find hfind)
  obtain ⟨other, hother, hdescribes⟩ := h.exists_described hmodel hpends
  have hsame := h.unresolved_eq hfind hother
  have hbodies : other.body.unresolved = scope.body.unresolved := congrArg Decl.body hsame
  have hsettled := (hmodel.consistent.resolved other (Catalog.mem_of_find hother)).refs
  unfold Describes at hdescribes
  rw [refersTo_congr hsame] at hdescribes
  unfold resolveDecl
  cases hbody : scope.body with
  | compound style old =>
      rw [hbody] at hbodies
      obtain ⟨fields, hkind⟩ := Body.exists_compound_of_unresolved hbodies
      simp only [hkind] at hdescribes hsettled
      obtain ⟨definitions, hdefinitions, hfields⟩ := hdescribes
      have hfound := resolveFields_replays hsettles hlookup hs h hscope
        (fun field hfield => hsettled field.type (List.mem_map_of_mem hfield)) hfields
      simp only [hdefinitions]
      refine hfound.bind fun found t hok ht => ?_
      obtain ⟨hadvances, hresolves⟩ := resolveFields_ok hsettles hs hscope hok
      refine setBody_replays hs hfind hpends hadvances ?_ (resolved_of_fields hresolves) ?_ ht
      · rw [hbody]
        rfl
      · exact ⟨definitions, hdefinitions, hresolves.imp fun _ _ hfield => hfield.denotes⟩
  | enum old values =>
      rw [hbody] at hbodies
      obtain ⟨storage, hkind⟩ := Body.exists_enum_of_unresolved hbodies
      simp only [hkind] at hdescribes hsettled
      obtain ⟨reference, hreference, hdenotes⟩ := hdescribes
      have hfound := resolveType_replays hlookup hs h hscope
        (hsettled storage (List.mem_singleton_self _)) hdenotes
      simp only [hreference]
      refine hfound.bind fun found t hok ht => ?_
      obtain ⟨hadvances, hresolves⟩ := resolveType_ok reference hsettles hs hscope hok
      have hresolved := resolved_of_type (.enum found values) (by simp) rfl hresolves
      -- The storage is that of the model, where it ends in a scalar.
      have hends : model.catalog.EndsInScalar found := by
        have hmeans := hresolves.denotes.of_later ht (hscope.of_later (hadvances.later hs))
          hresolves.settled
        rw [Denotes.unique rfl hmeans hdenotes]
        refine (hmodel.chains scope.name (mem_names_of_find hother)).enum storage ?_
        simp only [Catalog.storage?, hother, Option.map_some, hkind]
      have hset : Replays model (setBody scope.name (.enum found values)) t := by
        refine setBody_replays hs hfind hpends hadvances ?_ hresolved ?_ ht
        · rw [hbody]
          rfl
        · exact ⟨reference, hreference, hresolves.denotes⟩
      refine hset.bind fun _ u hu hlater => ?_
      rw [setBody, Outcome.modifyCatalog_eq] at hu
      obtain ⟨-, rfl⟩ := EStateM.Result.ok.inj hu
      refine .get_bind ?_
      rw [backsEnum_of_endsInScalar ht hresolves.settled hends]
      exact .pure hlater _
  | typedef old =>
      rw [hbody] at hbodies
      obtain ⟨aliased, hkind⟩ := Body.exists_typedef_of_unresolved hbodies
      simp only [hkind] at hdescribes hsettled
      obtain ⟨reference, hreference, hdenotes⟩ := hdescribes
      have hfound := resolveType_replays hlookup hs h hscope
        (hsettled aliased (List.mem_singleton_self _)) hdenotes
      simp only [hreference]
      refine hfound.bind fun found t hok ht => ?_
      obtain ⟨hadvances, hresolves⟩ := resolveType_ok reference hsettles hs hscope hok
      have hresolved := resolved_of_type (.typedef found) (by simp) rfl hresolves
      refine setBody_replays hs hfind hpends hadvances ?_ hresolved ?_ ht
      · rw [hbody]
        rfl
      · exact ⟨reference, hreference, hresolves.denotes⟩
  | interface => exact .pure h _

theorem resolvePending_replays {pending : Pending} (hmodel : model.Idle)
    (hsettles : SettlesNames bound lookup) (hlookup : ReplaysNames model bound lookup)
    (hs : Ready bound s) (h : Later s model)
    (hpending : ∀ entry ∈ pending, Pends s entry.1 entry.2) :
    Replays model (resolvePending lookup pending) s := by
  induction pending generalizing s with
  | nil => exact .pure h _
  | cons first rest ih =>
      obtain ⟨q, definition⟩ := first
      rw [List.forall_mem_cons] at hpending
      obtain ⟨scope, hfind⟩ :=
        Catalog.exists_find_of_contains (Catalog.contains_iff.mpr hpending.1.known)
      obtain rfl := Catalog.name_of_find hfind
      unfold resolvePending
      refine .get_bind ?_
      rw [hfind]
      refine (resolveDecl_replays hmodel hsettles hlookup hs h hfind hpending.1).bind
        fun _ t hdecl ht => ?_
      obtain ⟨hadvances, -⟩ := resolveDecl_ok hsettles hs hfind hpending.1 hdecl
      refine ih hadvances.ready ht fun entry hentry => ?_
      exact (hpending.2 entry hentry).of_later (hadvances.later hs)

/-! ### Releases -/

/-- The document of a release of the model is read in every state over the same files. -/
theorem Later.exists_document (h : Later s model) (hkey : key.release = key)
    (hloaded : model.isLoaded key) :
    ∃ release definitions after, s.repository.load key = (.ok release, after) ∧
      release.types = some definitions ∧ areDeclarable definitions ∧
      ((entriesAll key [] definitions).map (·.1.name)).Nodup := by
  obtain ⟨root, hroot, rfl⟩ := List.mem_map.mp (isLoaded_iff.mp hloaded)
  obtain ⟨-, release, definitions, hread, htypes, -, hdeclarable⟩ := h.after.documented root hroot
  obtain ⟨text, hfile, hdecode⟩ := h.after.faithful root.1 release hread
  rw [h.files.file_eq] at hfile
  obtain ⟨after, hafter⟩ := h.before.faithful.exists_load hkey hfile hdecode
  have hdistinct := h.after.nodup_declared hroot
  rw [declared_of_read hread htypes] at hdistinct
  exact ⟨release, definitions, after, hafter, htypes, hdeclarable, hdistinct⟩

/-- The names of a release that is not loaded are free. -/
theorem Accounted.free {definitions : List (Option TypeDef)} {after : Repository} (h : Accounted s)
    (hkey : key.release = key) (hfresh : ¬s.isLoaded key)
    (hdistinct : ((entriesAll key [] definitions).map (·.1.name)).Nodup) :
    Free { s with repository := after } ((entriesAll key [] definitions).map (·.1.name)) := by
  refine ⟨?_, hdistinct⟩
  intro q hq hmem
  obtain ⟨entry, hentry, rfl⟩ := List.mem_map.mp hq
  have hloaded := (h.mem_names_iff.mp hmem).1
  rw [release_of_mem_entriesAll hkey hentry] at hloaded
  exact hfresh hloaded

/-- Once a release of the model is declared, still nothing but releases of the model is loaded. -/
theorem Declares.later {definitions : List (Option TypeDef)} {names : List QualifiedName}
    {release : Release} {after : Repository} {new : List Decl} (h : Later s model)
    (hloaded : model.isLoaded key) (hafter : s.repository.load key = (.ok release, after))
    (hdeclares : Declares { s with repository := after } new t)
    (hopens : Opens bound (entriesAll key [] definitions)
      { t with roots := t.roots ++ [(key, names)], resolving := t.resolving + 1 }) :
    Later { t with roots := t.roots ++ [(key, names)], resolving := t.resolving + 1 } model := by
  have hloads := Repository.load_loads s.repository key
  rw [hafter] at hloads
  refine ⟨hopens.ready.consistent.toAccounted, h.after, ?_, ?_⟩
  · rw [hdeclares.state]
    exact hloads.readsMore.toSameFiles.symm.trans h.files
  · intro other hother
    rw [isLoaded_iff, hdeclares.state, List.map_append, List.mem_append] at hother
    rcases hother with hold | hnew
    · exact h.loaded (isLoaded_iff.mpr hold)
    · rwa [List.mem_singleton.mp hnew]

/-- Loading a release of the model succeeds if the check of chains at the end of it does. -/
theorem loadWith_replays (hmodel : model.Idle) (hload : LoadsReleases bound load)
    (hreplays : ReplaysReleases model bound load) (hkey : key.release = key) (hs : s.Consistent)
    (hbounded : s.repository.disk.size < bound + 1 + s.roots.length) (h : Later s model)
    (hloaded : model.isLoaded key)
    (hcheck : ∀ names u, LoadsFresh load key s names u → Later u model →
      Replays model checkUnchecked u) :
    Replays model (loadWith load key) s := by
  unfold loadWith
  refine .get_bind ?_
  cases hroots : s.roots.lookup key with
  | some known => exact .pure h _
  | none =>
      have hfresh : ¬s.isLoaded key := by
        rw [isLoaded, hroots]
        exact Bool.false_ne_true
      obtain ⟨release, definitions, after, hafter, htypes, hdeclarable, hdistinct⟩ :=
        h.exists_document hkey hloaded
      have hdocument : document key s = .ok release { s with repository := after } := by
        rw [document, hafter]
      obtain ⟨⟨names, pending⟩, declared, hdeclare⟩ :=
        exists_declareAll definitions hdeclarable (hs.free hkey hfresh hdistinct)
      obtain ⟨rfl, rfl, hdeclares⟩ := declareAll_ok definitions hdeclare
      have hopens := hdeclares.opens hafter htypes rfl hdeclarable hkey hfresh hs hbounded
      have hopened := hdeclares.later h hloaded hafter hopens
      obtain ⟨_, resolved, hresolve, hlater⟩ := resolvePending_replays hmodel
        (lookupWith_settles hload) (lookupWith_replays hreplays) hopens.ready hopened hopens.pending
      have hwhile : whileResolving
          (resolvePending (lookupWith load) (pendingOf (entriesAll key [] definitions)))
          { declared with roots := declared.roots ++ [(key, memberNames key definitions)] } =
          .ok () { resolved with resolving := resolved.resolving - 1 } := by
        simp only [whileResolving, hresolve]
      refine .of_ok hdocument ?_
      rw [htypes]
      refine .of_ok hdeclare (.of_ok rfl (.of_ok hwhile (.of_ok rfl ?_)))
      refine (hcheck _ _ ⟨hfresh, release, definitions, after, declared, resolved, hafter, htypes,
        rfl, hdeclarable, hdeclares, hresolve, rfl⟩ (hlater.withCounts _ _)).bind ?_
      exact fun _ t _ ht => .pure ht _

theorem checkUnchecked_replays (h : Later s model)
    (hchains : s.resolving = 0 → ∀ q ∈ s.unchecked, s.catalog.ChainEnds q) :
    Replays model checkUnchecked s := by
  unfold checkUnchecked
  refine .get_bind ?_
  split
  · rename_i hidle
    rw [Catalog.checkChains_of_chainEnds (hchains hidle)]
    exact .of_ok rfl (.pure (h.withCounts _ _) _)
  · exact .pure h _

/-- Loading a release inside another leaves the check to the outermost one. -/
theorem loadInside_replays (hmodel : model.Idle) (depth : Nat) :
    ReplaysReleases model depth (loadInside depth) := by
  induction depth with
  | zero =>
      intro key s _ hs
      -- All files are in use by releases that are being loaded.
      have hroots := hs.consistent.length_roots_le
      have hbounded := hs.bounded
      omega
  | succ depth ih =>
      intro key s hkey hs h hloaded
      have hload := loadInside_loads depth
      refine Replays.bind ?_ fun _ t _ ht => .pure ht _
      rw [loadAt_eq]
      refine loadWith_replays hmodel hload ih hkey hs.consistent hs.bounded h hloaded ?_
      intro names u hfresh hu
      have hprogress := (hfresh.extended hload hkey hs.consistent hs.bounded).progress
      refine checkUnchecked_replays hu fun hidle => ?_
      rw [hprogress.resolving] at hidle
      exact absurd hidle (Nat.ne_of_gt hs.resolving)

theorem loadRelease_replays (hmodel : model.Idle) (hs : s.Idle) (h : Later s model)
    (hloaded : model.isLoaded q.release) : Replays model (loadRelease q) s := by
  have hload := loadInside_loads s.repository.disk.size
  rw [loadRelease]
  refine .get_bind ?_
  rw [loadAt_eq]
  refine loadWith_replays hmodel hload (loadInside_replays hmodel _) rfl hs.consistent (by omega) h
    hloaded ?_
  intro names u hfresh hu
  have hextended := hfresh.extended hload rfl hs.consistent (by omega)
  have hpart := hu.partOf hextended.consistent hmodel (hextended.finished_all hs)
  refine checkUnchecked_replays hu fun _ name _ => ?_
  by_cases hname : name ∈ model.catalog.names
  · exact (hmodel.chains name hname).of_partOf hpart
  · exact (Catalog.chainEnds_of_not_mem hname).of_partOf hpart

/-- Releases of the model are loaded in any order and as often as one likes. -/
theorem performAll_replays {releases : List QualifiedName} (hmodel : model.Idle) (hs : s.Idle)
    (h : Later s model) (hloaded : ∀ q ∈ releases, model.isLoaded q.release) :
    Replays model (performAll (releases.map .release)) s := by
  induction releases generalizing s with
  | nil => exact .pure h _
  | cons q rest ih =>
      rw [List.forall_mem_cons] at hloaded
      have hfirst : Replays model (perform (.release q)) s :=
        (loadRelease_replays hmodel hs h hloaded.1).bind fun _ t _ ht => .pure ht _
      refine hfirst.bind fun _ t hok ht => ?_
      exact ih (perform_ok hs hok).1 ht hloaded.2

/-! ### Two orders -/

theorem isLoaded_of_performAll {releases : List QualifiedName} (hs : s.Idle)
    (h : performAll (releases.map .release) s = .ok () t) :
    ∀ q ∈ releases, t.isLoaded q.release := by
  induction releases generalizing s with
  | nil => exact fun _ hq => absurd hq List.not_mem_nil
  | cons first rest ih =>
      obtain ⟨_, middle, hfirst, hrest⟩ := Outcome.bind_ok_iff.mp h
      obtain ⟨hmiddle, -⟩ := perform_ok hs hfirst
      obtain ⟨names, after, hload, hafter⟩ := Outcome.bind_ok_iff.mp hfirst
      obtain ⟨-, rfl⟩ := Outcome.pure_ok_iff.mp hafter
      obtain ⟨-, -, hroot⟩ := loadRelease_ok hs hload
      obtain ⟨-, hcontinues⟩ := performAll_ok hmiddle hrest
      rw [List.forall_mem_cons]
      refine ⟨?_, ih hmiddle hrest⟩
      exact isLoaded_of_isPrefix hcontinues.roots (isLoaded_of_mem hroot)

/-- The same releases are loaded, with the same top-level types, and each name stands for the same
declaration. -/
structure SameModel (s t : Resolver) : Prop where
  releases : ∀ key, t.isLoaded key = s.isLoaded key
  roots : ∀ key, t.roots.lookup key = s.roots.lookup key
  types : ∀ q, t.catalog.find? q = s.catalog.find? q

theorem exists_root_of_isLoaded (h : Accounted s) (hkey : s.isLoaded key) :
    ∃ release definitions, s.repository.read.lookup key = some release ∧
      release.types = some definitions ∧
      s.roots.lookup key = some (memberNames key definitions) := by
  obtain ⟨names, hnames⟩ := Option.isSome_iff_exists.mp hkey
  obtain ⟨front, back, hroots, -⟩ := List.lookup_eq_some_iff.mp hnames
  have hroot : (key, names) ∈ s.roots := by
    rw [hroots]
    exact List.mem_append_right _ List.mem_cons_self
  obtain ⟨-, release, definitions, hread, htypes, hmembers, -⟩ := h.documented _ hroot
  exact ⟨release, definitions, hread, htypes, hnames.trans (congrArg some hmembers)⟩

/-- If each of two idle states has all that the other has, they are the same model. -/
theorem Later.sameModel (h : Later s t) (h' : Later t s) (hs : s.Idle) (ht : t.Idle) :
    SameModel s t where
  releases := fun key => Bool.eq_iff_iff.mpr ⟨h'.loaded, h.loaded⟩
  roots := by
    intro key
    by_cases hkey : s.isLoaded key
    · obtain ⟨release, definitions, hread, htypes, hroot⟩ := exists_root_of_isLoaded h.before hkey
      obtain ⟨found, others, hfound, hothers, hroot'⟩ :=
        exists_root_of_isLoaded h.after (h.loaded hkey)
      rw [h.files.release_eq h.before.faithful h.after.faithful hread hfound, htypes] at hothers
      rw [hroot, hroot', Option.some.inj hothers]
    · have hkey' : ¬t.isLoaded key := fun hloaded => hkey (h'.loaded hloaded)
      rw [isLoaded, Option.not_isSome_iff_eq_none] at hkey hkey'
      rw [hkey, hkey']
  types := by
    intro q
    by_cases hq : q ∈ s.catalog.names
    · exact h.find_eq hs.consistent ht (hs.finished q hq)
    · have hq' : q ∉ t.catalog.names := by
        intro hmem
        have hloaded := h'.loaded (ht.consistent.mem_names_iff.mp hmem).1
        exact hq ((h.mem_names_iff hloaded).mp hmem)
      rw [← Catalog.contains_iff, Catalog.contains, Option.not_isSome_iff_eq_none] at hq hq'
      rw [hq, hq']

/-- **Order independence.** Two lists of releases with the same elements, in any order and with any
repetitions, lead to the same model: if loading the first list succeeds then so does loading the
second one in a resolver of its own over the same files. -/
theorem sameModel_of_any_order (repository other : Repository) (hread : repository.Faithful)
    (hother : other.Faithful) (hfiles : repository.SameFiles other)
    (first second : List QualifiedName) (hsame : ∀ q, q ∈ first ↔ q ∈ second) (s : Resolver)
    (h : performAll (first.map .release) { repository } = .ok () s) :
    ∃ t, performAll (second.map .release) { repository := other } = .ok () t ∧ SameModel s t := by
  have hs := performAll_ok (idle_fresh hread) h
  have hstart : Later { repository := other } s :=
    ⟨(idle_fresh hother).consistent.toAccounted, hs.1.consistent.toAccounted,
      hfiles.symm.trans hs.2.repository.toSameFiles, nofun⟩
  have hloaded := isLoaded_of_performAll (idle_fresh hread) h
  obtain ⟨_, t, hsecond, hlater⟩ := performAll_replays hs.1 (idle_fresh hother) hstart
    fun q hq => hloaded q ((hsame q).mpr hq)
  have ht := performAll_ok (idle_fresh hother) hsecond
  refine ⟨t, hsecond, ?_⟩
  -- Loading the first list again, with the second one as the model, ends in the same state.
  have hstart' : Later { repository } t :=
    ⟨(idle_fresh hread).consistent.toAccounted, ht.1.consistent.toAccounted,
      hfiles.trans ht.2.repository.toSameFiles, nofun⟩
  have hloaded' := isLoaded_of_performAll (idle_fresh hother) hsecond
  obtain ⟨_, s', hfirst, hlater'⟩ := performAll_replays ht.1 (idle_fresh hread) hstart'
    fun q hq => hloaded' q ((hsame q).mp hq)
  rw [h] at hfirst
  obtain ⟨-, rfl⟩ := EStateM.Result.ok.inj hfirst
  exact hlater'.sameModel hlater hs.1 ht.1

/-- Of two releases that refer to each other, either one may be loaded first. -/
theorem sameModel_mutualReleases :
    ∃ s t, performAll ([⟨"p", ⟨1, 0⟩, some "", []⟩, ⟨"q", ⟨1, 0⟩, some "", []⟩].map .release)
        { repository := mutualReleases } = .ok () s ∧
      performAll ([⟨"q", ⟨1, 0⟩, some "", []⟩, ⟨"p", ⟨1, 0⟩, some "", []⟩,
        ⟨"q", ⟨1, 0⟩, some "", []⟩].map .release) { repository := mutualReleases } = .ok () t ∧
      s.catalog.decls.length = 3 ∧ SameModel s t := by
  have hrun :
      (match performAll ([⟨"p", ⟨1, 0⟩, some "", []⟩, ⟨"q", ⟨1, 0⟩, some "", []⟩].map .release)
          { repository := mutualReleases } with
        | .ok _ s => some s.catalog.decls.length
        | .error _ _ => none) = some 3 := by
    decide +kernel
  cases h : performAll ([⟨"p", ⟨1, 0⟩, some "", []⟩, ⟨"q", ⟨1, 0⟩, some "", []⟩].map .release)
      { repository := mutualReleases } with
  | error fault s =>
      rw [h] at hrun
      cases hrun
  | ok _ s =>
      rw [h] at hrun
      have hread : mutualReleases.Faithful := Repository.faithful_of_read_eq_nil rfl
      obtain ⟨t, ht, hsame⟩ := sameModel_of_any_order mutualReleases mutualReleases hread hread
        ⟨rfl, rfl⟩ _ [⟨"q", ⟨1, 0⟩, some "", []⟩, ⟨"p", ⟨1, 0⟩, some "", []⟩,
          ⟨"q", ⟨1, 0⟩, some "", []⟩] (by simp) s h
      exact ⟨s, t, rfl, ht, Option.some.inj hrun, hsame⟩

end HalBridge.Resolver
