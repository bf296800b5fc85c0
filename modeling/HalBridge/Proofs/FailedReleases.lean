import HalBridge.Proofs.DeclarationAttempts
import HalBridge.Proofs.SampleDocuments

/-!
# Releases that failed to load

The first attempt to load a release fixes what the resolver has of it. If all types of the document
can be declared then the release counts as loaded from there on, also if resolving its references
fails later in the same call. If declaring fails then the types that come before the fault stay, and
every further attempt fails.
-/

namespace HalBridge

open Document

/-- All types of the document of a release can be declared. -/
structure Repository.Declarable (repository : Repository) (key : QualifiedName)
    (definitions : List (Option TypeDef)) : Prop where
  reading : ∃ release, repository.reading key = .ok release ∧ release.types = some definitions
  declarable : Resolver.areDeclarable definitions
  distinct : ((Resolver.entriesAll key [] definitions).map (·.1.name)).Nodup

/-- The types of a release that are declared where nothing else is: all types of its document, or
those that come before a fault. -/
def Repository.entered (repository : Repository) (key : QualifiedName) : List QualifiedName :=
  (Outcome.state (Resolver.declareDocument key { repository })).catalog.names

/-- The top-level types of a release, if all types of its document can be declared. -/
def Repository.topLevel? (repository : Repository) (key : QualifiedName) :
    Option (List QualifiedName) :=
  Outcome.view (fun declared _ => declared.1) (Resolver.declareDocument key { repository })

namespace Resolver

open Repository

variable {base : Repository} {key q : QualifiedName} {s t : Resolver}

/-! ### Standing of releases -/

/-- Nothing was done about a release yet. -/
structure Untouched (s : Resolver) (key : QualifiedName) : Prop where
  names : ∀ q, q.release = key → q ∉ s.catalog.names
  roots : s.roots.lookup key = none

/-- The state has of a release what its document gives where nothing else is declared. -/
structure Tried (base : Repository) (s : Resolver) (key : QualifiedName) : Prop where
  names : ∀ q, q.release = key → (q ∈ s.catalog.names ↔ q ∈ base.entered key)
  roots : s.roots.lookup key = base.topLevel? key

/-- Every release is untouched, or has what its document gives. -/
structure Orderly (base : Repository) (s : Resolver) : Prop extends Belongs base s where
  standing : ∀ key, Untouched s key ∨ Tried base s key

/-- Nothing that matters to a release has changed. -/
structure SameStanding (key : QualifiedName) (s t : Resolver) : Prop where
  names : SameTypes key s t
  roots : t.roots.lookup key = s.roots.lookup key

theorem Untouched.of_same (h : Untouched s key) (hsame : SameStanding key s t) :
    Untouched t key :=
  ⟨fun q hq hmem => h.names q hq ((hsame.names q hq).mpr hmem), hsame.roots.trans h.roots⟩

theorem Tried.of_same (h : Tried base s key) (hsame : SameStanding key s t) : Tried base t key :=
  ⟨fun q hq => (hsame.names q hq).symm.trans (h.names q hq), hsame.roots.trans h.roots⟩

theorem belongs_fresh (h : base.Faithful) : Belongs base { repository := base } :=
  ⟨⟨rfl, rfl⟩, h⟩

theorem orderly_fresh (h : base.Faithful) : Orderly base { repository := base } :=
  ⟨belongs_fresh h, fun _ => Or.inl ⟨fun _ _ => List.not_mem_nil, rfl⟩⟩

/-- A release that is not loaded is opened or refused in every state as in the empty one. -/
theorem Orderly.attempt (hbase : base.Faithful) (h : Orderly base s)
    (hkey : key.release = key) (hfresh : s.roots.lookup key = none) :
    Outcome.view (fun declared _ => declared.1) (declareDocument key s) = base.topLevel? key ∧
      ∀ q, q.release = key →
        (q ∈ (Outcome.state (declareDocument key s)).catalog.names ↔
          q ∈ base.entered key) := by
  by_cases hnone : ∀ q, q.release = key → q ∉ s.catalog.names
  · have hsame : SameTypes key s { repository := base } :=
      fun q hq => iff_of_false (hnone q hq) List.not_mem_nil
    obtain ⟨hanswer, hstates⟩ := (declareDocument_confined hkey).same s { repository := base }
      h.toBelongs (belongs_fresh hbase) hsame
    exact ⟨Outcome.view_of_answer hanswer, hstates⟩
  · -- Something was declared before, by an attempt that was refused.
    push Not at hnone
    obtain ⟨q, hq, hmem⟩ := hnone
    rcases h.standing key with huntouched | htried
    · exact absurd hmem (huntouched.names q hq)
    · obtain ⟨fault, u, hrun, hcatalog⟩ := declareDocument_again hkey (belongs_fresh hbase)
        h.toBelongs List.not_mem_nil ((htried.names q hq).mp hmem)
        fun r hr => (htried.names r hr).mpr
      rw [hrun, ← htried.roots, hfresh, Outcome.state, hcatalog]
      exact ⟨rfl, htried.names⟩

theorem Orderly.opened {names : List QualifiedName} {pending : Pending} (hbase : base.Faithful)
    (hs : Orderly base s) (hkey : key.release = key) (hfresh : s.roots.lookup key = none)
    (h : declareDocument key s = .ok (names, pending) t) :
    Tried base { t with roots := t.roots ++ [(key, names)] } key := by
  obtain ⟨hview, hnames⟩ := hs.attempt hbase hkey hfresh
  have hroots := (declareDocument_enters hkey s).roots
  rw [h] at hview hnames hroots
  refine ⟨hnames, ?_⟩
  rw [← hview, List.lookup_append, show t.roots = s.roots from hroots, hfresh, Option.none_or,
    List.lookup_cons_self]
  rfl

theorem Orderly.refused {fault : Fault} (hbase : base.Faithful) (hs : Orderly base s)
    (hkey : key.release = key) (hfresh : s.roots.lookup key = none)
    (h : declareDocument key s = .error fault t) : Tried base t key := by
  obtain ⟨hview, hnames⟩ := hs.attempt hbase hkey hfresh
  have hroots := (declareDocument_enters hkey s).roots
  rw [h] at hview hnames hroots
  refine ⟨hnames, ?_⟩
  rw [← hview, show t.roots = s.roots from hroots, hfresh]
  rfl

/-- An attempt at a release keeps the standing of all others. -/
theorem Belongs.others (hs : Belongs base s) (hkey : key.release = key)
    (ht : t = Outcome.state (declareDocument key s))
    {roots : List (QualifiedName × List QualifiedName)}
    (hroots : ∀ other, other ≠ key → roots.lookup other = t.roots.lookup other) :
    Belongs base { t with roots } ∧
      ∀ other, other ≠ key → SameStanding other s { t with roots } := by
  have hconfined : Confined base key (declareDocument key) := declareDocument_confined hkey
  have henters := hconfined.enters s
  rw [← ht] at henters
  have hbelongs := henters.belongs hs
  refine ⟨⟨hbelongs.files, hbelongs.faithful⟩, fun other hother => ⟨fun q hq => ?_, ?_⟩⟩
  · exact (henters.mem_names_iff (hq ▸ hother)).symm
  · exact (hroots other hother).trans (by rw [henters.roots])

/-- A step decides about one release at most, and keeps the standing of all others. -/
theorem Orderly.step (hbase : base.Faithful) (hs : Orderly base s) (h : Step s t) :
    Belongs base t ∧ ∀ key, Tried base t key ∨ SameStanding key s t := by
  cases h with
  | counts resolving unchecked =>
      exact ⟨⟨hs.files, hs.faithful⟩, fun _ => Or.inr ⟨fun _ _ => .rfl, rfl⟩⟩
  | body q body =>
      refine ⟨⟨hs.files, hs.faithful⟩, fun _ => Or.inr ⟨fun r _ => ?_, rfl⟩⟩
      rw [names_setBody]
  | @opened u key names pending hkey hfresh hrun =>
      have hroots : ∀ other, other ≠ key →
          (u.roots ++ [(key, names)]).lookup other = u.roots.lookup other := by
        intro other hother
        rw [List.lookup_append, List.lookup_cons, beq_false_of_ne hother]
        exact Option.or_none
      obtain ⟨hbelongs, hothers⟩ := hs.toBelongs.others hkey (by rw [hrun]; rfl) hroots
      refine ⟨hbelongs, fun other => ?_⟩
      by_cases hother : other = key
      · rw [hother]
        exact Or.inl (hs.opened hbase hkey hfresh hrun)
      · exact Or.inr (hothers other hother)
  | @refused _ key fault hkey hfresh hrun =>
      obtain ⟨hbelongs, hothers⟩ :=
        hs.toBelongs.others (t := t) hkey (by rw [hrun]; rfl) fun _ _ => rfl
      refine ⟨hbelongs, fun other => ?_⟩
      by_cases hother : other = key
      · rw [hother]
        exact Or.inl (hs.refused hbase hkey hfresh hrun)
      · exact Or.inr (hothers other hother)

/-- What was decided about releases stays, whatever is loaded later. -/
theorem Orderly.steps (hbase : base.Faithful) (hs : Orderly base s) (h : Steps s t) :
    Orderly base t ∧ ∀ key, Tried base s key → Tried base t key := by
  induction h with
  | refl => exact ⟨hs, fun _ htried => htried⟩
  | tail _ hstep ih =>
      obtain ⟨hmiddle, hkept⟩ := ih
      obtain ⟨hbelongs, hdecided⟩ := hmiddle.step hbase hstep
      refine ⟨⟨hbelongs, fun key => ?_⟩, fun key htried => ?_⟩
      · rcases hdecided key with htried | hsame
        · exact Or.inr htried
        · exact (hmiddle.standing key).imp (·.of_same hsame) (·.of_same hsame)
      · exact (hdecided key).elim id (hkept key htried).of_same

/-- Every attempt to load a release decides about it, whatever its outcome. -/
theorem Orderly.tried_of_loadRelease (hbase : base.Faithful) (hs : Orderly base s)
    (q : QualifiedName) : Tried base (Outcome.state (loadRelease q s)) q.release := by
  rw [loadRelease_eq]
  cases hlookup : s.roots.lookup q.release with
  | some names =>
      rw [loadWith_of_loaded hlookup]
      rcases hs.standing q.release with huntouched | htried
      · rw [huntouched.roots] at hlookup
        cases hlookup
      · exact htried
  | none =>
      cases hrun : declareDocument q.release s with
      | error fault t =>
          rw [loadWith_of_refused hlookup hrun]
          exact hs.refused hbase rfl hlookup hrun
      | ok declared t =>
          rw [loadWith_of_opened hlookup hrun]
          have hstep : Step s { t with roots := t.roots ++ [(q.release, declared.1)] } :=
            .opened rfl hlookup hrun
          have hopened := (hs.steps hbase (.single hstep)).1
          refine (hopened.steps hbase (resolveRelease_runs (loadInside_runs _) _ _ _)).2 _ ?_
          exact hs.opened hbase rfl hlookup hrun

/-! ### What is served -/

theorem declareDocument_of_declarable {definitions : List (Option TypeDef)}
    (hbase : base.Faithful) (hkey : key.release = key) (h : base.Declarable key definitions) :
    ∃ pending t, declareDocument key { repository := base } =
        .ok (memberNames key definitions, pending) t ∧
      t.catalog.names = (entriesAll key [] definitions).map (·.1.name) := by
  obtain ⟨release, hreading, htypes⟩ := h.reading
  rw [← hkey] at hreading
  rcases declareDocument_of_read (belongs_fresh hbase) hreading with
    ⟨hnone, -⟩ | ⟨found, hfound, hrun⟩
  · rw [htypes] at hnone
    cases hnone
  · obtain rfl : definitions = found := Option.some.inj (htypes.symm.trans hfound)
    have hfree : Free { repository := (base.load key).2 }
        ((entriesAll key [] definitions).map (·.1.name)) :=
      ⟨fun _ _ => List.not_mem_nil, h.distinct⟩
    obtain ⟨⟨names, pending⟩, t, hdeclared⟩ := exists_declareAll definitions h.declarable hfree
    obtain ⟨rfl, -, hdeclares⟩ := declareAll_ok definitions hdeclared
    refine ⟨pending, t, hrun.trans hdeclared, ?_⟩
    rw [hdeclares.names, List.map_map]
    rfl

theorem topLevel_of_declarable {definitions : List (Option TypeDef)} (hbase : base.Faithful)
    (hkey : key.release = key) (h : base.Declarable key definitions) :
    base.topLevel? key = some (memberNames key definitions) := by
  obtain ⟨pending, t, hrun, -⟩ := declareDocument_of_declarable hbase hkey h
  rw [topLevel?, hrun]
  rfl

theorem exists_declarable {names : List QualifiedName} (hbase : base.Faithful)
    (hkey : key.release = key) (h : base.topLevel? key = some names) :
    ∃ definitions, base.Declarable key definitions ∧ names = memberNames key definitions := by
  obtain ⟨⟨names, pending⟩, t, hrun, rfl⟩ := Outcome.of_view h
  cases hreading : base.reading key.release with
  | error fault =>
      rw [declareDocument_of_unread (belongs_fresh hbase) hreading] at hrun
      cases hrun
  | ok release =>
      rcases declareDocument_of_read (belongs_fresh hbase) hreading with
        ⟨-, hrun'⟩ | ⟨definitions, htypes, hrun'⟩
      · rw [hrun'] at hrun
        cases hrun
      · rw [hrun'] at hrun
        obtain ⟨hnames, -, hdeclares⟩ := declareAll_ok definitions hrun
        have hdistinct := hdeclares.distinct
        rw [List.map_map] at hdistinct
        exact ⟨definitions, ⟨⟨release, hkey ▸ hreading, htypes⟩,
          areDeclarable_of_declareAll definitions hrun, hdistinct⟩, hnames⟩

/-- A lookup gives a declared type just if an attempt at its release has declared the type. -/
theorem Orderly.lookup_declared_iff (hbase : base.Faithful) (hs : Orderly base s)
    (htried : Tried base s q.release) :
    (∃ t, lookup q s = .ok (.declared q) t) ↔ q ∈ base.entered q.release := by
  constructor
  · rintro ⟨t, h⟩
    rcases lookupWith_cases h with ⟨-, hsettled, -⟩ | ⟨hload, href⟩
    · exact (htried.names q rfl).mp hsettled
    · have hafter := hs.tried_of_loadRelease hbase q.release
      obtain ⟨names, after, hrun, hdone⟩ := Outcome.bind_ok_iff.mp hload
      obtain ⟨-, rfl⟩ := Outcome.pure_ok_iff.mp hdone
      rw [hrun] at hafter
      refine (hafter.names q rfl).mp ?_
      unfold Catalog.ref at href
      split at href
      · rename_i hcontains
        exact Catalog.contains_iff.mp hcontains
      · cases href
  · intro hq
    have hcontains : s.catalog.contains q :=
      Catalog.contains_iff.mpr ((htried.names q rfl).mpr hq)
    refine ⟨s, ?_⟩
    unfold lookup lookupWith
    rw [Outcome.get_bind, if_pos hcontains]
    rfl

/-- What is had of a release after an attempt to load it that failed. If all types of its document
can be declared then it is served from there on. If not then it cannot be loaded any more, but types
that come before the fault are served. -/
structure ServedAfterFailure (repository : Repository) (q : QualifiedName) (s : Resolver) :
    Prop where
  declarable : ∀ definitions, repository.Declarable q.release definitions →
    loadRelease q s = .ok (memberNames q.release definitions) s ∧
      ∀ r, r.release = q.release → ((∃ t, lookup r s = .ok (.declared r) t) ↔
        r ∈ (entriesAll q.release [] definitions).map (·.1.name))
  faulty : (∀ definitions, ¬repository.Declarable q.release definitions) →
    (∃ fault t, loadRelease q s = .error fault t) ∧
      ∀ r, r.release = q.release → ((∃ t, lookup r s = .ok (.declared r) t) ↔
        r ∈ repository.entered q.release)

theorem Orderly.served (hbase : base.Faithful) (hs : Orderly base s)
    (htried : Tried base s q.release) : ServedAfterFailure base q s := by
  have htypes : ∀ r, r.release = q.release →
      ((∃ t, lookup r s = .ok (.declared r) t) ↔ r ∈ base.entered q.release) := by
    intro r hr
    rw [← hr] at htried ⊢
    exact hs.lookup_declared_iff hbase htried
  refine ⟨fun definitions hdeclarable => ?_, fun hfaulty => ⟨?_, htypes⟩⟩
  · obtain ⟨pending, t, hrun, hnames⟩ := declareDocument_of_declarable hbase rfl hdeclarable
    have hlookup := htried.roots.trans (topLevel_of_declarable hbase rfl hdeclarable)
    rw [entered, hrun] at htypes
    refine ⟨?_, fun r hr => (htypes r hr).trans ?_⟩
    · rw [loadRelease_eq, loadWith_of_loaded hlookup]
    · rw [Outcome.state, hnames]
  · have hnone : base.topLevel? q.release = none := by
      cases htop : base.topLevel? q.release with
      | none => rfl
      | some names =>
          obtain ⟨definitions, hdeclarable, -⟩ := exists_declarable hbase rfl htop
          exact absurd hdeclarable (hfaulty definitions)
    have hfresh := htried.roots.trans hnone
    have hview := (hs.attempt hbase rfl hfresh).1.trans hnone
    obtain ⟨fault, t, hrun⟩ := Outcome.of_view_none hview
    exact ⟨fault, t, by rw [loadRelease_eq, loadWith_of_refused hfresh hrun]⟩

/-- A release that failed to load is served afterwards as far as it was declared, in every state
that further calls lead to, also if some of them fail. -/
theorem served_of_failed_load (repository : Repository) (hread : repository.Faithful)
    (before later : List Call) (q : QualifiedName) (fault : Fault) (t : Resolver)
    (h : loadRelease q (afterCalls before { repository }) = .error fault t) :
    ServedAfterFailure repository q (afterCalls later t) := by
  obtain ⟨hbefore, -⟩ := (orderly_fresh hread).steps hread (afterCalls_steps before _)
  have htried := hbefore.tried_of_loadRelease hread q
  obtain ⟨hfailed, -⟩ := hbefore.steps hread (loadRelease_runs q _)
  rw [h] at htried hfailed
  obtain ⟨hlater, hkept⟩ := hfailed.steps hread (afterCalls_steps later t)
  exact hlater.served hread (hkept _ htried)

/-- A release with a field of an unknown scalar, and one with a definition of an unknown kind. -/
def faultyReleases : Repository :=
  Sample.repository [
    Sample.release "p" "1.0" [Sample.struct "S" [("x", Sample.scalar "int")]],
    Sample.release "q" "1.0" [Sample.struct "A" [], Sample.declaration "bitfield" "B" []]]

/-- The first release is served after it failed, without its field. The second one is not, but its
first type is. -/
theorem served_of_failed_load_faultyReleases :
    (∃ fault t, loadRelease ⟨"p", ⟨1, 0⟩, some "", []⟩ { repository := faultyReleases } =
        .error fault t ∧
      loadRelease ⟨"p", ⟨1, 0⟩, some "", []⟩ t = .ok [⟨"p", ⟨1, 0⟩, some "S", []⟩] t) ∧
    ∃ fault t, loadRelease ⟨"q", ⟨1, 0⟩, some "", []⟩ { repository := faultyReleases } =
        .error fault t ∧
      (∃ fault u, loadRelease ⟨"q", ⟨1, 0⟩, some "", []⟩ t = .error fault u) ∧
      ∃ u, lookup ⟨"q", ⟨1, 0⟩, some "A", []⟩ t =
        .ok (.declared ⟨"q", ⟨1, 0⟩, some "A", []⟩) u := by
  have hread := faithful_of_read_eq_nil (show faultyReleases.read = [] from rfl)
  constructor
  · obtain ⟨fault, t, hfails⟩ : ∃ fault t, loadRelease ⟨"p", ⟨1, 0⟩, some "", []⟩
        { repository := faultyReleases } = .error fault t := by
      refine Outcome.of_view_none (g := fun names _ => names) ?_
      decide +kernel
    obtain ⟨definitions, hdeclarable, hnames⟩ := exists_declarable hread rfl
      (show faultyReleases.topLevel? ⟨"p", ⟨1, 0⟩, some "", []⟩ =
        some [⟨"p", ⟨1, 0⟩, some "S", []⟩] by decide +kernel)
    have hserved := served_of_failed_load faultyReleases hread [] [] _ fault t hfails
    refine ⟨fault, t, hfails, ?_⟩
    rw [hnames]
    exact (hserved.declarable definitions hdeclarable).1
  · obtain ⟨fault, t, hfails⟩ : ∃ fault t, loadRelease ⟨"q", ⟨1, 0⟩, some "", []⟩
        { repository := faultyReleases } = .error fault t := by
      refine Outcome.of_view_none (g := fun names _ => names) ?_
      decide +kernel
    have hfaulty : ∀ definitions,
        ¬faultyReleases.Declarable ⟨"q", ⟨1, 0⟩, some "", []⟩ definitions := by
      intro definitions hdeclarable
      have htop := topLevel_of_declarable hread rfl hdeclarable
      rw [show faultyReleases.topLevel? ⟨"q", ⟨1, 0⟩, some "", []⟩ = none by decide +kernel] at htop
      cases htop
    have hserved := served_of_failed_load faultyReleases hread [] [] _ fault t hfails
    obtain ⟨hrefuses, htypes⟩ := hserved.faulty hfaulty
    refine ⟨fault, t, hfails, hrefuses, (htypes ⟨"q", ⟨1, 0⟩, some "A", []⟩ rfl).mpr ?_⟩
    decide +kernel

end Resolver

end HalBridge
