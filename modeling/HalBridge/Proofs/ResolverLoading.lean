import HalBridge.Proofs.ResolverReferences

/-!
# Loading keeps the invariant

Loading a release declares its types, resolves their references and leaves it to the outermost
release to check the chains. It uses the loading of other releases, so the proof goes by induction
on the depth. The number of places on the disk bounds the depth: each release that is being loaded
has a file of its own.
-/

namespace HalBridge.Resolver

open Document

variable {bound : Nat} {s t u : Resolver} {q : QualifiedName}
  {load : QualifiedName → Loading Unit} {ref : Ref}

theorem document_ok {key : QualifiedName} {release : Release}
    (h : document key s = .ok release t) :
    ∃ after, s.repository.load key = (.ok release, after) ∧
      t = { s with repository := after } := by
  unfold document at h
  split at h
  · rename_i found after hload
    obtain ⟨rfl, rfl⟩ := EStateM.Result.ok.inj h
    exact ⟨after, hload, rfl⟩
  · cases h

theorem whileResolving_ok {action : Loading Unit} (h : whileResolving action s = .ok () t) :
    ∃ u, action { s with resolving := s.resolving + 1 } = .ok () u ∧
      t = { u with resolving := u.resolving - 1 } := by
  unfold whileResolving at h
  split at h
  · rename_i after haction
    obtain ⟨-, rfl⟩ := EStateM.Result.ok.inj h
    exact ⟨after, haction, rfl⟩
  · cases h

/-- The steps in which a release is loaded that was not loaded before. -/
structure LoadsFresh (load : QualifiedName → Loading Unit) (key : QualifiedName) (s : Resolver)
    (names : List QualifiedName) (u : Resolver) : Prop where
  fresh : ¬s.isLoaded key
  steps : ∃ release definitions after declared resolved,
    s.repository.load key = (.ok release, after) ∧ release.types = some definitions ∧
    names = memberNames key definitions ∧ areDeclarable definitions ∧
    Declares { s with repository := after } ((entriesAll key [] definitions).map Prod.fst)
      declared ∧
    resolvePending (lookupWith load) (pendingOf (entriesAll key [] definitions))
      { declared with
        roots := declared.roots ++ [(key, names)], resolving := declared.resolving + 1 } =
      .ok () resolved ∧
    u = { resolved with
      resolving := resolved.resolving - 1
      unchecked := resolved.unchecked ++
        (pendingOf (entriesAll key [] definitions)).map Prod.fst }

theorem loadWith_cases {key : QualifiedName} {names : List QualifiedName}
    (h : loadWith load key s = .ok names t) :
    (s.roots.lookup key = some names ∧ s = t) ∨
      ∃ u, LoadsFresh load key s names u ∧ checkUnchecked u = .ok () t := by
  unfold loadWith at h
  rw [Outcome.get_bind] at h
  cases hroots : s.roots.lookup key with
  | some known =>
      rw [hroots] at h
      obtain ⟨rfl, rfl⟩ := Outcome.pure_ok_iff.mp h
      exact Or.inl ⟨rfl, rfl⟩
  | none =>
      rw [hroots] at h
      obtain ⟨release, read, hdocument, h⟩ := Outcome.bind_ok_iff.mp h
      cases htypes : release.types with
      | none =>
          rw [htypes] at h
          exact absurd h Outcome.throw_ne_ok
      | some definitions =>
          rw [htypes] at h
          obtain ⟨⟨roots, pending⟩, declared, hdeclare, h⟩ := Outcome.bind_ok_iff.mp h
          simp only [Outcome.modify_bind] at h
          obtain ⟨_, resolved, hresolve, h⟩ := Outcome.bind_ok_iff.mp h
          simp only [Outcome.modify_bind] at h
          obtain ⟨_, checked, hcheck, h⟩ := Outcome.bind_ok_iff.mp h
          obtain ⟨rfl, rfl⟩ := Outcome.pure_ok_iff.mp h
          obtain ⟨after, hafter, rfl⟩ := document_ok hdocument
          obtain ⟨rfl, rfl, hdeclares⟩ := declareAll_ok definitions hdeclare
          obtain ⟨final, hfinal, rfl⟩ := whileResolving_ok hresolve
          refine Or.inr ⟨_, ⟨?_, release, definitions, after, declared, final, hafter, htypes, rfl,
            areDeclarable_of_declareAll definitions hdeclare, hdeclares, hfinal, rfl⟩, hcheck⟩
          rw [isLoaded, hroots]
          exact Bool.false_ne_true

theorem map_fst_pendingOf (new : List (Decl × TypeDef)) :
    (pendingOf new).map Prod.fst = (new.map Prod.fst).map Decl.name := by
  simp only [pendingOf, List.map_map]
  rfl

/-- What loading a release has changed when its chains are still to be checked. -/
structure Extended (s : Resolver) (key : QualifiedName) (names : List QualifiedName)
    (u : Resolver) : Prop where
  consistent : u.Consistent
  progress : Progress [] s u
  loaded : (key, names) ∈ u.roots
  finished : ∀ q ∈ u.catalog.names, q ∉ s.catalog.names → u.Finished q

/-- The state in which the declarations of a release are resolved, just after they were entered. -/
structure Opens (bound : Nat) (entries : List (Decl × TypeDef)) (u : Resolver) : Prop where
  ready : Ready bound u
  pending : ∀ entry ∈ pendingOf entries, Pends u entry.1 entry.2
  distinct : ((pendingOf entries).map Prod.fst).Nodup

theorem Declares.opens {key : QualifiedName} {names : List QualifiedName} {release : Release}
    {definitions : List (Option TypeDef)} {after : Repository}
    (hdeclares : Declares { s with repository := after }
      ((entriesAll key [] definitions).map Prod.fst) t)
    (hafter : s.repository.load key = (.ok release, after))
    (htypes : release.types = some definitions) (hnames : names = memberNames key definitions)
    (hdeclarable : areDeclarable definitions) (hkey : key.release = key) (hfresh : ¬s.isLoaded key)
    (hs : s.Consistent) (hbounded : s.repository.disk.size < bound + 1 + s.roots.length) :
    Opens bound (entriesAll key [] definitions)
      { t with roots := t.roots ++ [(key, names)], resolving := t.resolving + 1 } := by
  have hloads := Repository.load_loads s.repository key
  rw [hafter, hkey] at hloads
  have hmore := hloads.readsMore
  have hread : Consistent { s with repository := after } :=
    hs.withRepository hmore (hloads.faithful hs.faithful)
  have hdeclared := hread.declare hkey hfresh hloads.read htypes hdeclarable hdeclares
  have hall := hdeclares.names
  have hdistinct := hdeclares.distinct
  rw [← map_fst_pendingOf] at hall hdistinct
  obtain rfl := hdeclares.state
  subst hnames
  refine ⟨⟨hdeclared.withCounts _ _, Nat.succ_pos _, ?_⟩, ?_, hdistinct⟩
  -- The release counts as loaded now, so that one release less may be loaded inside it.
  · rw [List.length_append, hmore.disk]
    simp only [List.length_singleton]
    omega
  · intro entry hentry
    refine ⟨?_, ?_⟩
    · rw [hall]
      exact List.mem_append_right _ (List.mem_map_of_mem hentry)
    · obtain ⟨defined, hdefined, rfl⟩ := List.mem_map.mp hentry
      refine ⟨defined, ?_, rfl, rfl⟩
      rwa [release_of_mem_entriesAll hkey hdefined, declared_of_read hloads.read htypes]

/-- Entering declarations and resolving them leaves older declarations as they were. -/
theorem Declares.progress {key : QualifiedName} {names : List QualifiedName}
    {entries : List (Decl × TypeDef)} {after : Repository}
    (hdeclares : Declares { s with repository := after } (entries.map Prod.fst) t)
    (hmore : s.repository.ReadsMore after)
    (h : Progress ((pendingOf entries).map Prod.fst)
      { t with roots := t.roots ++ [(key, names)], resolving := t.resolving + 1 } u) :
    Progress [] s { u with
      resolving := u.resolving - 1
      unchecked := u.unchecked ++ (pendingOf entries).map Prod.fst } := by
  have hold : ∀ q ∈ s.catalog.names, q ∉ (pendingOf entries).map Prod.fst := by
    intro q hq hnew
    rw [map_fst_pendingOf] at hnew
    obtain ⟨decl, hdecl, rfl⟩ := List.mem_map.mp hnew
    exact hdeclares.fresh decl hdecl hq
  have hfind : ∀ q ∈ s.catalog.names, t.catalog.find? q = s.catalog.find? q :=
    fun q hq => hdeclares.find_eq hq
  have hall := hdeclares.names
  rw [← map_fst_pendingOf] at hall
  obtain rfl := hdeclares.state
  refine ⟨?_, ?_, ?_, ?_, ?_, ?_, ?_⟩
  · exact hmore.trans h.repository
  · exact (List.prefix_append _ _).trans h.roots
  · intro kept hkept _
    refine h.decls kept (hkept.trans (List.prefix_append _ _)) ?_
    exact fun q hq hmem => hold q ((hkept.map Decl.name).subset hmem) hq
  · intro q hq _
    rw [← hfind q hq]
    exact h.unchanged q (mem_names_of_find_eq (hfind q hq) hq) (hold q hq)
  · simp only [h.resolving]
    rfl
  · exact h.unchecked.trans (List.prefix_append _ _)
  · intro q hq
    rcases h.added q hq with hq | hq
    · rw [hall] at hq
      rcases List.mem_append.mp hq with hq | hq
      · exact Or.inl hq
      · exact Or.inr (List.mem_append_right _ hq)
    · exact Or.inr (List.mem_append_left _ hq)

theorem LoadsFresh.extended {key : QualifiedName} {names : List QualifiedName}
    (h : LoadsFresh load key s names u) (hload : LoadsReleases bound load)
    (hkey : key.release = key) (hs : s.Consistent)
    (hbounded : s.repository.disk.size < bound + 1 + s.roots.length) :
    Extended s key names u := by
  obtain ⟨release, definitions, after, declared, resolved, hafter, htypes, hnames, hdeclarable,
    hdeclares, hresolve, rfl⟩ := h.steps
  have hmore : s.repository.ReadsMore after := by
    have hloads := Repository.load_loads s.repository key
    rw [hafter] at hloads
    exact hloads.readsMore
  have hopens := hdeclares.opens hafter htypes hnames hdeclarable hkey h.fresh hs hbounded
  obtain ⟨⟨hready, hprogress, -, hadded⟩, hfinished⟩ := resolvePending_ok
    (lookupWith_settles hload) hopens.ready hopens.pending hopens.distinct hresolve
  refine ⟨hready.consistent.withCounts _ _, hdeclares.progress hmore hprogress, ?_, ?_⟩
  · exact hprogress.roots.subset (List.mem_append_right _ (List.mem_singleton_self _))
  · intro q hq hnew
    by_cases hpresent : q ∈ (pendingOf (entriesAll key [] definitions)).map Prod.fst
    · exact hfinished q hpresent
    · refine hadded q hq ?_
      have hall := hdeclares.names
      rw [← map_fst_pendingOf] at hall
      rw [hall, List.mem_append, not_or]
      exact ⟨hnew, hpresent⟩

theorem checkUnchecked_ok (h : checkUnchecked s = .ok () t) :
    (s.resolving ≠ 0 ∧ s = t) ∨
      (s.resolving = 0 ∧ t = { s with unchecked := [] } ∧
        ∀ q ∈ s.unchecked, s.catalog.ChainEnds q) := by
  unfold checkUnchecked at h
  rw [Outcome.get_bind] at h
  split at h
  · rename_i hidle
    obtain ⟨_, after, hset, h⟩ := Outcome.bind_ok_iff.mp h
    obtain ⟨-, rfl⟩ := EStateM.Result.ok.inj hset
    cases hcheck : checkChains s.catalog s.unchecked with
    | error error =>
        rw [hcheck] at h
        exact absurd h Outcome.throw_ne_ok
    | ok _ =>
        rw [hcheck] at h
        obtain ⟨-, rfl⟩ := Outcome.pure_ok_iff.mp h
        exact Or.inr ⟨hidle, rfl, Catalog.chainEnds_of_checkChains hcheck⟩
  · rename_i hbusy
    obtain ⟨-, rfl⟩ := Outcome.pure_ok_iff.mp h
    exact Or.inl ⟨hbusy, rfl⟩

theorem isLoaded_of_mem {key : QualifiedName} {names : List QualifiedName}
    (h : (key, names) ∈ s.roots) : s.isLoaded key :=
  isLoaded_iff.mpr (List.mem_map_of_mem h)

/-- Loading a release inside another leaves the check to the outermost one. -/
theorem loadWith_loads (hload : LoadsReleases bound load) :
    LoadsReleases (bound + 1) (fun key => do let _ ← loadWith load key) := by
  intro key s t hkey hs h
  obtain ⟨names, after, hafter, h⟩ := Outcome.bind_ok_iff.mp h
  obtain ⟨-, rfl⟩ := Outcome.pure_ok_iff.mp h
  rcases loadWith_cases hafter with ⟨hknown, rfl⟩ | ⟨u, hfresh, hcheck⟩
  · refine ⟨.refl hs, ?_⟩
    rw [isLoaded, hknown]
    rfl
  · obtain ⟨hu, hprogress, hmem, hfinished⟩ :=
      hfresh.extended hload hkey hs.consistent hs.bounded
    rcases checkUnchecked_ok hcheck with ⟨-, rfl⟩ | ⟨hidle, -⟩
    · exact ⟨⟨hs.of_progress hu hprogress, hprogress, List.nil_subset _, hfinished⟩,
        isLoaded_of_mem hmem⟩
    · rw [hprogress.resolving] at hidle
      exact absurd hidle (Nat.ne_of_gt hs.resolving)

/-- How a release is loaded that one at this depth refers to. -/
def loadInside : Nat → QualifiedName → Loading Unit
  | 0 => fun _ => pure ()
  | depth + 1 => fun key => do
      let _ ← loadAt depth key

theorem loadAt_eq (depth : Nat) : loadAt depth = loadWith (loadInside depth) := by
  cases depth with
  | zero => rfl
  | succ depth => rfl

theorem loadInside_loads (depth : Nat) : LoadsReleases depth (loadInside depth) := by
  induction depth with
  | zero =>
      intro key s t _ hs _
      -- All files are in use by releases that are being loaded, so there is none left to load.
      have hroots := hs.consistent.length_roots_le
      have hbounded := hs.bounded
      omega
  | succ depth ih =>
      have hload := loadWith_loads ih
      rwa [← loadAt_eq] at hload

/-! ### Loading while nothing else is being loaded -/

/-- Nothing is being loaded, all declarations are finished and all chains end. -/
structure Idle (s : Resolver) : Prop where
  consistent : s.Consistent
  resolving : s.resolving = 0
  finished : ∀ q ∈ s.catalog.names, s.Finished q
  chains : ∀ q ∈ s.catalog.names, s.catalog.ChainEnds q

/-- The catalogue of one idle state continues that of another. -/
structure Continues (s t : Resolver) : Prop where
  repository : s.repository.ReadsMore t.repository
  roots : s.roots <+: t.roots
  decls : s.catalog.decls <+: t.catalog.decls

theorem Continues.refl (s : Resolver) : Continues s s :=
  ⟨.refl s.repository, List.prefix_refl _, List.prefix_refl _⟩

theorem Continues.trans (hst : Continues s t) (htu : Continues t u) : Continues s u :=
  ⟨hst.repository.trans htu.repository, hst.roots.trans htu.roots, hst.decls.trans htu.decls⟩

theorem Progress.continues (h : Progress [] s t) : Continues s t :=
  ⟨h.repository, h.roots, h.prefix_decls⟩

/-- If all was finished before a release is loaded, all is finished after it. -/
theorem Extended.finished_all {key : QualifiedName} {names : List QualifiedName} (hs : s.Idle)
    (h : Extended s key names u) : ∀ q ∈ u.catalog.names, u.Finished q := by
  intro q hq
  by_cases hold : q ∈ s.catalog.names
  · exact (hs.finished q hold).of_later hs.consistent
      (h.progress.later hs.consistent.toAccounted h.consistent.toAccounted)
      (h.progress.unchanged q hold List.not_mem_nil)
  · exact h.finished q hq hold

theorem loadRelease_ok {names : List QualifiedName} (hs : s.Idle)
    (h : loadRelease q s = .ok names t) :
    t.Idle ∧ Continues s t ∧ (q.release, names) ∈ t.roots := by
  have hload := loadInside_loads s.repository.disk.size
  rw [loadRelease, Outcome.get_bind, loadAt_eq] at h
  rcases loadWith_cases h with ⟨hknown, rfl⟩ | ⟨u, hfresh, hcheck⟩
  · refine ⟨hs, .refl s, ?_⟩
    obtain ⟨front, back, hroots, -⟩ := List.lookup_eq_some_iff.mp hknown
    rw [hroots]
    exact List.mem_append_right _ List.mem_cons_self
  · have hextended := hfresh.extended hload rfl hs.consistent (by omega)
    have hfinished := hextended.finished_all hs
    obtain ⟨hu, hprogress, hmem, -⟩ := hextended
    rcases checkUnchecked_ok hcheck with ⟨hbusy, -⟩ | ⟨hidle, rfl, hchecked⟩
    · rw [hprogress.resolving, hs.resolving] at hbusy
      exact absurd rfl hbusy
    · obtain ⟨hrepository, hroots, hdecls⟩ := hprogress.continues
      refine ⟨⟨hu.withCounts _ _, hidle, hfinished, ?_⟩, ⟨hrepository, hroots, hdecls⟩, hmem⟩
      intro name hname
      rcases hprogress.added name hname with hold | hnew
      · exact (hs.chains name hold).of_isPrefix hprogress.prefix_decls hs.consistent.covers
          (Catalog.contains_iff.mpr hold)
      · exact hchecked name hnew

theorem lookup_ok (hs : s.Idle) (h : lookup q s = .ok ref t) :
    t.Idle ∧ Continues s t ∧ t.Settled ref ∧ ref.name = q := by
  rcases lookupWith_cases h with ⟨rfl, hsettled⟩ | ⟨hload, rfl⟩
  · exact ⟨hs, .refl s, hsettled⟩
  · obtain ⟨names, after, hafter, h⟩ := Outcome.bind_ok_iff.mp hload
    obtain ⟨-, rfl⟩ := Outcome.pure_ok_iff.mp h
    obtain ⟨ht, hcontinues, hmem⟩ := loadRelease_ok hs hafter
    exact ⟨ht, hcontinues, settled_ref (isLoaded_of_mem hmem), name_ref _ q⟩

end HalBridge.Resolver
