import HalBridge.Proofs.DeclarationAttempts
import HalBridge.Proofs.ReleaseWindow
import HalBridge.Proofs.UnrelatedDocuments

/-!
# The releases of a run

A run covers the unbroken block of minor versions that ends at the requested one. It reads the
documents of the block in one pass, oldest first, and loads them only after that, so whatever else
it reads comes later. Loading never reads a document twice and never forgets a release, which is
shown for each step of loading.
-/

namespace HalBridge

open Document

/-! ### Documents that were read -/

namespace Repository

variable {repository before after last : Repository} {key q : QualifiedName}
  {releases first rest : List QualifiedName}

/-- The releases whose documents were read, in the order of reading. -/
def readKeys (repository : Repository) : List QualifiedName :=
  repository.read.map Prod.fst

/-- Those of the releases whose documents were not read yet. -/
def unread (repository : Repository) (releases : List QualifiedName) : List QualifiedName :=
  releases.filter (· ∉ repository.readKeys)

/-- After some documents others were read, none of them for a second time. -/
def ReadsOn (before after : Repository) : Prop :=
  ∃ new, after.readKeys = before.readKeys ++ new ∧ ∀ key ∈ new, key ∉ before.readKeys

theorem lookup_read_eq_none_iff :
    repository.read.lookup key = none ↔ key ∉ repository.readKeys := by
  rw [List.lookup_eq_none_iff, readKeys, List.mem_map]
  constructor
  · rintro hnone ⟨entry, hentry, rfl⟩
    exact absurd (hnone entry hentry) (by simp)
  · intro hkeys entry hentry
    rw [bne_iff_ne]
    exact fun heq => hkeys ⟨entry, hentry, heq.symm⟩

theorem ReadsOn.refl (repository : Repository) : repository.ReadsOn repository :=
  ⟨[], (List.append_nil _).symm, fun _ hkey => absurd hkey List.not_mem_nil⟩

theorem ReadsOn.trans (h : before.ReadsOn after) (h' : after.ReadsOn last) :
    before.ReadsOn last := by
  obtain ⟨new, hafter, hnew⟩ := h
  obtain ⟨newer, hlast, hnewer⟩ := h'
  refine ⟨new ++ newer, by rw [hlast, hafter, List.append_assoc], ?_⟩
  rw [List.forall_mem_append]
  refine ⟨hnew, fun key hkey hbefore => hnewer key hkey ?_⟩
  rw [hafter]
  exact List.mem_append_left _ hbefore

/-- A document that could be read is among those that were read. -/
theorem readKeys_load (repository : Repository) (q : QualifiedName) :
    ((∃ fault, (repository.load q).1 = .error fault) ∧ (repository.load q).2 = repository) ∨
      (repository.load q).2.readKeys = repository.readKeys ++ repository.unread [q.release] := by
  have hloads := load_loads repository q
  generalize repository.load q = loaded at hloads
  cases hloads with
  | known release hread =>
      have hmem : q.release ∈ repository.readKeys := by
        by_contra hnot
        rw [lookup_read_eq_none_iff.mpr hnot] at hread
        cases hread
      exact Or.inr (by simp [unread, hmem])
  | unasked fault | missing | refused fault => exact Or.inl ⟨⟨_, rfl⟩, rfl⟩
  | fresh release text hread =>
      rw [lookup_read_eq_none_iff] at hread
      refine Or.inr ?_
      rw [unread, List.filter_cons_of_pos (by simpa using hread)]
      simp [readKeys]

theorem readsOn_load (repository : Repository) (q : QualifiedName) :
    repository.ReadsOn (repository.load q).2 := by
  rcases repository.readKeys_load q with ⟨-, hsame⟩ | hkeys
  · rw [hsame]
    exact .refl repository
  · refine ⟨_, hkeys, fun key hkey => ?_⟩
    simpa using (List.mem_filter.mp hkey).2

theorem unread_append (repository : Repository) (first rest : List QualifiedName) :
    repository.unread (first ++ rest) = repository.unread first ++ repository.unread rest :=
  List.filter_append _ _

/-- Reading some releases does not change which of the others are unread. -/
theorem unread_eq_of_disjoint (hkeys : after.readKeys = before.readKeys ++ before.unread first)
    (hdisjoint : ∀ key ∈ first, key ∉ rest) : after.unread rest = before.unread rest := by
  refine List.filter_congr fun key hkey => ?_
  have hfirst : key ∉ before.unread first :=
    fun hmem => hdisjoint key (List.mem_filter.mp hmem).1 hkey
  rw [hkeys]
  simp [hfirst]

theorem mem_readKeys_of_unread (hkeys : after.readKeys = before.readKeys ++ before.unread releases)
    (hkey : key ∈ releases) : key ∈ after.readKeys := by
  rw [hkeys, List.mem_append]
  by_cases hread : key ∈ before.readKeys
  · exact Or.inl hread
  · exact Or.inr (List.mem_filter.mpr ⟨hkey, by simpa using hread⟩)

end Repository

/-! ### Loading reads on -/

namespace Resolver

open Repository

variable {α β : Type} {x : Loading α} {f : α → Loading β} {s t : Resolver}
  {key q : QualifiedName} {releases first rest : List QualifiedName}

/-- Whatever its outcome, all that an action does to the repository is to read documents. -/
def ReadsOnly (x : Loading α) : Prop :=
  ∀ s : Resolver, s.repository.ReadsOn (Outcome.state (x s)).repository

theorem readsOnly_pure (a : α) : ReadsOnly (pure a) :=
  fun s => .refl s.repository

theorem readsOnly_throw (fault : Fault) : ReadsOnly (throw fault : Loading α) :=
  fun s => .refl s.repository

theorem readsOnly_modifyCatalog (change : Catalog → Catalog) :
    ReadsOnly (modifyCatalog change) :=
  fun s => .refl s.repository

theorem ReadsOnly.bind (hx : ReadsOnly x) (hf : ∀ a, ReadsOnly (f a)) : ReadsOnly (x >>= f) := by
  intro s
  have hfirst := hx s
  cases hrun : x s with
  | ok a u =>
      rw [hrun] at hfirst
      rw [Outcome.bind_of_ok hrun]
      exact hfirst.trans (hf a u)
  | error fault u =>
      rw [hrun] at hfirst
      rw [Outcome.bind_of_error hrun]
      exact hfirst

theorem document_readsOnly (key : QualifiedName) : ReadsOnly (document key) := by
  intro s
  rw [(document_outcome key s).2]
  exact s.repository.readsOn_load key

theorem enter_readsOnly (scopes : List QualifiedName) (q : QualifiedName) (definition : TypeDef) :
    ReadsOnly (enter scopes q definition) := by
  intro s
  rcases enter_cases scopes q definition s with ⟨fault, hrun⟩ | ⟨decl, -, -, hrun⟩
  · rw [hrun]
    exact .refl s.repository
  · rw [hrun]
    exact .refl s.repository

mutual

theorem declare_readsOnly (key : QualifiedName) (scopes : List QualifiedName)
    (definition : TypeDef) : ReadsOnly (declare key scopes definition) := by
  obtain ⟨name, kind, fields, subTypes, storage, values, aliased, comment⟩ := definition
  unfold declare
  refine (enter_readsOnly _ _ _).bind fun _ => ?_
  cases subTypes with
  | none => exact readsOnly_throw _
  | some definitions =>
      refine (declareAll_readsOnly key _ definitions).bind fun _ => ?_
      exact (readsOnly_modifyCatalog _).bind fun _ => readsOnly_pure _

theorem declareAll_readsOnly (key : QualifiedName) (scopes : List QualifiedName)
    (definitions : List (Option TypeDef)) : ReadsOnly (declareAll key scopes definitions) := by
  cases definitions with
  | nil => exact readsOnly_pure _
  | cons definition rest =>
      cases definition with
      | none => exact readsOnly_throw _
      | some definition =>
          unfold declareAll
          exact (declare_readsOnly key scopes definition).bind fun _ =>
            (declareAll_readsOnly key scopes rest).bind fun _ => readsOnly_pure _

end

theorem declareDocument_readsOnly (key : QualifiedName) : ReadsOnly (declareDocument key) := by
  unfold declareDocument
  refine (document_readsOnly key).bind fun release => ?_
  cases release.types with
  | none => exact readsOnly_throw _
  | some definitions => exact declareAll_readsOnly key [] definitions

theorem Step.grows (h : Step s t) : s.repository.ReadsOn t.repository ∧ s.roots <+: t.roots := by
  cases h with
  | counts | body => exact ⟨.refl s.repository, List.prefix_refl _⟩
  | @opened u key names pending hkey hfresh hrun =>
      have hreads := declareDocument_readsOnly key s
      have hroots := (declareDocument_enters hkey s).roots
      rw [hrun] at hreads hroots
      refine ⟨hreads, ?_⟩
      rw [← hroots]
      exact List.prefix_append _ _
  | @refused _ key fault hkey hfresh hrun =>
      have hreads := declareDocument_readsOnly key s
      have hroots := (declareDocument_enters hkey s).roots
      rw [hrun] at hreads hroots
      exact ⟨hreads, hroots ▸ List.prefix_refl _⟩

theorem Steps.grows (h : Steps s t) : s.repository.ReadsOn t.repository ∧ s.roots <+: t.roots := by
  induction h with
  | refl => exact ⟨.refl s.repository, List.prefix_refl _⟩
  | tail _ hstep ih =>
      obtain ⟨hreads, hroots⟩ := hstep.grows
      exact ⟨ih.1.trans hreads, ih.2.trans hroots⟩

/-! ### Releases that are loaded -/

theorem isLoaded_of_loadRelease {names : List QualifiedName} (h : loadRelease q s = .ok names t) :
    t.isLoaded q.release := by
  rw [loadRelease_eq] at h
  cases hlookup : s.roots.lookup q.release with
  | some found =>
      rw [loadWith_of_loaded hlookup] at h
      cases h
      rw [isLoaded, hlookup]
      rfl
  | none =>
      cases hdeclare : declareDocument q.release s with
      | error fault u =>
          rw [loadWith_of_refused hlookup hdeclare] at h
          cases h
      | ok declared u =>
          rw [loadWith_of_opened hlookup hdeclare] at h
          have hsteps := resolveRelease_runs (loadInside_runs s.repository.disk.size) declared.1
            declared.2 { u with roots := u.roots ++ [(q.release, declared.1)] }
          rw [h] at hsteps
          refine isLoaded_of_isPrefix (Steps.grows hsteps).2 (isLoaded_iff.mpr ?_)
          simp

theorem collectReleases_runs (releases : List QualifiedName) (collection : Collection) :
    Runs (collectReleases releases collection) := by
  induction releases generalizing collection with
  | nil => exact runs_pure _
  | cons release rest ih =>
      unfold collectReleases
      refine (loadRelease_runs release).bind fun roots => runs_get_bind fun r => ?_
      cases r.catalog.collectFrom roots collection with
      | error fault => exact runs_throw _
      | ok after => exact ih after

theorem isLoaded_of_collectReleases {collection found : Collection}
    (h : collectReleases releases collection s = .ok found t) :
    ∀ release ∈ releases, t.isLoaded release.release := by
  induction releases generalizing s collection with
  | nil => exact fun _ hrelease => absurd hrelease List.not_mem_nil
  | cons release rest ih =>
      obtain ⟨roots, middle, hload, h⟩ := Outcome.bind_ok_iff.mp h
      rw [Outcome.get_bind] at h
      cases hcollect : middle.catalog.collectFrom roots collection with
      | error fault =>
          rw [hcollect] at h
          exact absurd h Outcome.throw_ne_ok
      | ok after =>
          rw [hcollect] at h
          have hsteps := collectReleases_runs rest after middle
          rw [List.forall_mem_cons]
          refine ⟨?_, ih h⟩
          simp only [h] at hsteps
          exact isLoaded_of_isPrefix (Steps.grows hsteps).2 (isLoaded_of_loadRelease hload)

/-! ### Reading in order -/

/-- An action from `s` has read of the releases those that were unread, in their order: all of them
if it returned, and otherwise the first ones. -/
def ReadsInOrder (releases : List QualifiedName) (s : Resolver)
    (result : EStateM.Result Fault Resolver α) : Prop :=
  ∃ loaded, (Outcome.state result).repository.readKeys = s.repository.readKeys ++ loaded ∧
    loaded <+: s.repository.unread releases ∧
    ∀ a t, result = .ok a t → loaded = s.repository.unread releases

theorem readsInOrder_error (releases : List QualifiedName) (s : Resolver) (fault : Fault) :
    ReadsInOrder releases s (.error fault s : EStateM.Result Fault Resolver α) :=
  ⟨[], (List.append_nil _).symm, List.nil_prefix, fun _ _ hok => by cases hok⟩

theorem ReadsInOrder.bind (hx : ReadsInOrder first s (x s))
    (hf : ∀ a t, x s = .ok a t → ReadsInOrder rest t (f a t))
    (hdisjoint : ∀ key ∈ first, key ∉ rest) :
    ReadsInOrder (first ++ rest) s ((x >>= f) s) := by
  obtain ⟨loaded, hkeys, hloaded, hall⟩ := hx
  unfold ReadsInOrder
  rw [unread_append]
  cases hrun : x s with
  | error fault u =>
      rw [hrun] at hkeys
      rw [Outcome.bind_of_error hrun]
      exact ⟨loaded, hkeys, hloaded.trans (List.prefix_append _ _), fun _ _ hok => by cases hok⟩
  | ok a u =>
      rw [hrun, Outcome.state] at hkeys
      obtain rfl := hall a u hrun
      obtain ⟨more, hmore, hprefix, hcomplete⟩ := hf a u hrun
      rw [unread_eq_of_disjoint hkeys hdisjoint] at hprefix hcomplete
      rw [Outcome.bind_of_ok hrun]
      refine ⟨s.repository.unread first ++ more, ?_, ?_, fun b t hok => ?_⟩
      · rw [hmore, hkeys, List.append_assoc]
      · exact (List.prefix_append_right_inj _).mpr hprefix
      · rw [hcomplete b t hok]

theorem document_readsInOrder (hkey : key.release = key) (s : Resolver) :
    ReadsInOrder [key] s (document key s) := by
  obtain ⟨hanswer, hstate⟩ := document_outcome key s
  rcases s.repository.readKeys_load key with ⟨⟨fault, hfault⟩, hsame⟩ | hkeys
  · rw [hfault] at hanswer
    refine ⟨[], ?_, List.nil_prefix, fun release t hok => ?_⟩
    · rw [hstate, hsame, List.append_nil]
    · rw [hok] at hanswer
      cases hanswer
  · rw [hkey] at hkeys
    exact ⟨_, by rw [hstate, hkeys], List.prefix_refl _, fun _ _ _ => rfl⟩

/-- From `s` the documents of some releases were read in their order, and other documents only
after all of them. An action that returned has read all. -/
def ReadsFirst (releases : List QualifiedName) (s : Resolver)
    (result : EStateM.Result Fault Resolver α) : Prop :=
  ∃ loaded others,
    (Outcome.state result).repository.readKeys = s.repository.readKeys ++ loaded ++ others ∧
    loaded <+: s.repository.unread releases ∧
    ((∃ a t, result = .ok a t) ∨ others ≠ [] → loaded = s.repository.unread releases) ∧
    ∀ key ∈ others, key ∉ releases

theorem ReadsInOrder.readsFirst (hx : ReadsInOrder releases s (x s)) (hf : ∀ a, Runs (f a)) :
    ReadsFirst releases s ((x >>= f) s) := by
  obtain ⟨loaded, hkeys, hloaded, hall⟩ := hx
  cases hrun : x s with
  | error fault u =>
      rw [hrun] at hkeys
      rw [Outcome.bind_of_error hrun]
      refine ⟨loaded, [], by rw [List.append_nil]; exact hkeys, hloaded, ?_, ?_⟩
      · rintro (⟨a, t, hok⟩ | hothers)
        · cases hok
        · exact absurd rfl hothers
      · exact fun _ hkey => absurd hkey List.not_mem_nil
  | ok a u =>
      rw [hrun, Outcome.state] at hkeys
      obtain rfl := hall a u hrun
      obtain ⟨⟨others, hothers, hnew⟩, -⟩ := Steps.grows (hf a u)
      rw [Outcome.bind_of_ok hrun]
      refine ⟨_, others, by rw [hothers, hkeys], hloaded, fun _ => rfl, fun key hkey hmem => ?_⟩
      exact hnew key hkey (mem_readKeys_of_unread hkeys hmem)

end Resolver

namespace Conversion

open Resolver Repository

variable {q : QualifiedName} {releases : List QualifiedName} {registry : Registry} {s t : Resolver}
  {repository : Repository}

theorem commentNotes_readsInOrder (hkeys : ∀ release ∈ releases, release.release = release)
    (hnodup : releases.Nodup) (notes : Notes) (s : Resolver) :
    ReadsInOrder releases s (commentNotes releases notes s) := by
  induction releases generalizing notes s with
  | nil => exact ⟨[], (List.append_nil _).symm, List.prefix_refl _, fun _ _ _ => rfl⟩
  | cons release rest ih =>
      rw [List.forall_mem_cons] at hkeys
      rw [List.nodup_cons] at hnodup
      have hdisjoint : ∀ key ∈ [release], key ∉ rest := by
        intro key hkey
        rw [List.mem_singleton.mp hkey]
        exact hnodup.1
      unfold commentNotes
      refine ReadsInOrder.bind (document_readsInOrder hkeys.1 s) (fun document t _ => ?_) hdisjoint
      cases document.unhandledComments with
      | none => exact readsInOrder_error rest t _
      | some comments => exact ih hkeys.2 hnodup.2 _ t

theorem convert_readsFirst (hkeys : ∀ release ∈ releases, release.release = release)
    (hnodup : releases.Nodup) (q : QualifiedName) (registry : Registry) (s : Resolver) :
    ReadsFirst releases s (convert q releases registry s) := by
  unfold convert
  refine (commentNotes_readsInOrder hkeys hnodup {} s).readsFirst fun notes => ?_
  unfold collectTypes
  refine Runs.bind ((collectReleases_runs releases {}).bind fun _ => ?_) fun types => ?_
  · exact runs_get_bind fun _ => runs_pure _
  · refine runs_get_bind fun r => ?_
    dsimp only
    split
    · exact runs_throw _
    · exact runs_pure _

/-- A run that gives a result has loaded all releases of the window. -/
theorem isLoaded_of_run {request : String} {force : Bool} {conversion : Conversion}
    (hchecked : repository.checkRequest request force = .ok q)
    (h : run request force registry { repository } = .ok conversion t) :
    ∀ release ∈ repository.window q, t.isLoaded release.release := by
  obtain ⟨hname, notes, read, -, htypes, -⟩ := run_phases h
  obtain rfl : conversion.name = q := Except.ok.inj (hname.symm.trans hchecked)
  obtain ⟨collection, collected, hreleases, htypes⟩ := Outcome.bind_ok_iff.mp htypes
  rw [Outcome.get_bind] at htypes
  obtain ⟨-, rfl⟩ := Outcome.pure_ok_iff.mp htypes
  exact isLoaded_of_collectReleases hreleases

/-- Stepping down from a release leads to the least minor version from which on all up to it are
there, and stepping up to the greatest one up to which all after it are there, if all releases on
the way can be asked for. Listing the releases between two others gives those that are there, oldest
first. A run for a release that is there covers the unbroken block that ends at it: it reads the
documents of the block oldest first and before any other, and if it returns it has loaded them
all. -/
theorem run_covers_unbroken_block (repository : Repository) (q : QualifiedName) :
    ∃ low high, IsLeast {low | repository.UnbrokenBelow q low} low ∧
      IsGreatest {high | repository.UnbrokenAbove q high} high ∧
      repository.lowest q = withMinor q low ∧ repository.highest q = withMinor q high ∧
      repository.Answers (fun key => repository.AsksBelow q key ∨ repository.AsksAbove q key)
        (repository.range q) (.ok (withMinor q low, withMinor q high)) ∧
      (∀ older newer : QualifiedName, older.version.major = newer.version.major →
        ∃ found, repository.ListsBetween older newer found ∧
          repository.Answers (AsksBetween older newer) (repository.listed older newer)
            (.ok found)) ∧
      (repository.contains q →
        repository.listed (withMinor q low) q = .ok (block q low) ∧
        ∀ request force registry, repository.checkRequest request force = .ok q →
          ReadsFirst (block q low) { repository }
            (run request force registry { repository }) ∧
          ∀ conversion t, run request force registry { repository } = .ok conversion t →
            ∀ release ∈ block q low, t.isLoaded release) := by
  refine ⟨_, _, repository.isLeast_lowest q, repository.isGreatest_highest q, rfl, rfl,
    repository.range_answers q, fun older newer hmajor => ?_, fun hq => ?_⟩
  · exact ⟨_, repository.listsBetween_between older newer, listed_answers repository hmajor⟩
  · refine ⟨covered_eq_window hq, fun request force registry hchecked => ?_⟩
    refine ⟨?_, fun conversion t hrun release hrelease => ?_⟩
    · rw [run_of_accepted hchecked]
      exact convert_readsFirst release_of_mem_block nodup_block q registry _
    · rw [← release_of_mem_block release hrelease]
      exact isLoaded_of_run hchecked hrun release hrelease

/-- With releases 1.0, 1.2 and 1.3 a run for 1.3 covers 1.2 and 1.3. -/
theorem run_covers_unbroken_block_gappedReleases :
    gappedReleases.range ⟨"p", ⟨1, 2⟩, some "", []⟩ =
      .ok (⟨"p", ⟨1, 2⟩, some "", []⟩, ⟨"p", ⟨1, 3⟩, some "", []⟩) ∧
    ∃ conversion t,
      run "p@1.3" false .default { repository := gappedReleases } = .ok conversion t ∧
      [⟨"p", ⟨1, 2⟩, some "", []⟩, ⟨"p", ⟨1, 3⟩, some "", []⟩] <+: t.repository.readKeys ∧
      t.isLoaded ⟨"p", ⟨1, 2⟩, some "", []⟩ ∧ t.isLoaded ⟨"p", ⟨1, 3⟩, some "", []⟩ := by
  constructor
  · obtain ⟨low, high, hlow, hhigh, -, -, hrange, -⟩ :=
      run_covers_unbroken_block gappedReleases ⟨"p", ⟨1, 2⟩, some "", []⟩
    rw [hrange.answered, hlow.unique (gappedReleases.isLeast_lowest _),
      hhigh.unique (gappedReleases.isGreatest_highest _)]
    · decide +kernel
    · rintro key (@⟨minor, hbelow⟩ | habove)
      · have hpaths : ∀ minor < 2, gappedReleases.checkPath
            (withMinor ⟨"p", ⟨1, 2⟩, some "", []⟩ minor) = .ok () := by
          decide +kernel
        exact hpaths minor hbelow.1
      · exact habove.checkPath_ok (by decide +kernel)
  · obtain ⟨low, high, hlow, -, -, -, -, -, hcovers⟩ :=
      run_covers_unbroken_block gappedReleases ⟨"p", ⟨1, 3⟩, some "", []⟩
    obtain rfl : low = 2 := by
      rw [hlow.unique (gappedReleases.isLeast_lowest _)]
      decide +kernel
    obtain ⟨-, hruns⟩ := hcovers (by decide +kernel)
    obtain ⟨hreads, hloaded⟩ := hruns "p@1.3" false .default (by decide +kernel)
    obtain ⟨conversion, t, hrun, -⟩ := Outcome.of_view (g := fun _ _ => ())
      (show Outcome.view (fun _ _ => ())
        (run "p@1.3" false .default { repository := gappedReleases }) = some () by decide +kernel)
    obtain ⟨loaded, others, hkeys, -, hall, -⟩ := hreads
    rw [hrun, hall (Or.inl ⟨conversion, t, hrun⟩)] at hkeys
    refine ⟨conversion, t, hrun, ⟨others, hkeys.symm⟩, ?_, ?_⟩
    · exact hloaded conversion t hrun _ (by decide)
    · exact hloaded conversion t hrun _ (by decide)

end Conversion

end HalBridge
