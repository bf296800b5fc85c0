import HalBridge.Proofs.LoadingSteps

/-!
# Attempts to declare a release

How declaring a document ends depends on the document and on the types that are declared of the same
release, not on what else is loaded. The first thing that it enters is the first type of the
document, so that a second attempt at a document with types fails where the first one started.
-/

namespace HalBridge

open Document

namespace Resolver

open Repository

/-- The state belongs to the files of a repository. -/
structure Belongs (base : Repository) (s : Resolver) : Prop where
  files : base.SameFiles s.repository
  faithful : s.repository.Faithful

/-- Both states have the same types of a release. -/
def SameTypes (key : QualifiedName) (s t : Resolver) : Prop :=
  ∀ q, q.release = key → (q ∈ s.catalog.names ↔ q ∈ t.catalog.names)

/-- Types of one release were entered, and no release was opened. -/
structure Enters (key : QualifiedName) (s t : Resolver) : Prop where
  files : s.repository.SameFiles t.repository
  faithful : s.repository.Faithful → t.repository.Faithful
  roots : t.roots = s.roots
  resolving : t.resolving = s.resolving
  names : ∃ new, t.catalog.names = s.catalog.names ++ new ∧ ∀ q ∈ new, q.release = key

/-- An action enters types of one release, and how it ends depends on the types of this release
only. -/
structure Confined {α : Type} (base : Repository) (key : QualifiedName) (x : Loading α) :
    Prop where
  enters : ∀ s, Enters key s (Outcome.state (x s))
  same : ∀ s t, Belongs base s → Belongs base t → SameTypes key s t →
    Outcome.answer (x s) = Outcome.answer (x t) ∧
      SameTypes key (Outcome.state (x s)) (Outcome.state (x t))

/-- A confined action that enters `q` before anything else, which it can do once only. -/
structure Starts {α : Type} (base : Repository) (key q : QualifiedName) (x : Loading α) : Prop
    extends Confined base key x where
  starts : ∀ s, (∃ fault, x s = .error fault s) ∨
    q ∉ s.catalog.names ∧ q ∈ (Outcome.state (x s)).catalog.names

variable {α β : Type} {base : Repository} {key q : QualifiedName} {scopes : List QualifiedName}
  {s t u : Resolver} {x : Loading α} {f : α → Loading β}

/-! ### Declaring is confined to a release -/

/-- Only the catalogue differs. -/
theorem Enters.of_catalog {catalog : Catalog} (new : List QualifiedName)
    (hnames : catalog.names = s.catalog.names ++ new) (hnew : ∀ q ∈ new, q.release = key) :
    Enters key s { s with catalog } where
  files := ⟨rfl, rfl⟩
  faithful := id
  roots := rfl
  resolving := rfl
  names := ⟨new, hnames, hnew⟩

theorem Enters.refl (s : Resolver) : Enters key s s :=
  .of_catalog [] (List.append_nil _).symm (by simp)

theorem Enters.trans (hst : Enters key s t) (htu : Enters key t u) : Enters key s u where
  files := hst.files.trans htu.files
  faithful h := htu.faithful (hst.faithful h)
  roots := htu.roots.trans hst.roots
  resolving := htu.resolving.trans hst.resolving
  names := by
    obtain ⟨first, hfirst, hof⟩ := hst.names
    obtain ⟨second, hsecond, hof'⟩ := htu.names
    refine ⟨first ++ second, by rw [hsecond, hfirst, List.append_assoc], ?_⟩
    intro q hq
    rcases List.mem_append.mp hq with hq | hq
    · exact hof q hq
    · exact hof' q hq

theorem Enters.belongs (h : Enters key s t) (hs : Belongs base s) : Belongs base t :=
  ⟨hs.files.trans h.files, h.faithful hs.faithful⟩

theorem Enters.subset (h : Enters key s t) : s.catalog.names ⊆ t.catalog.names := by
  obtain ⟨new, hnames, -⟩ := h.names
  rw [hnames]
  exact List.subset_append_left _ _

/-- The types of other releases stay as they are. -/
theorem Enters.mem_names_iff (h : Enters key s t) (hq : q.release ≠ key) :
    q ∈ t.catalog.names ↔ q ∈ s.catalog.names := by
  obtain ⟨new, hnames, hof⟩ := h.names
  rw [hnames, List.mem_append, or_iff_left]
  exact fun hnew => hq (hof q hnew)

theorem confined_pure (a : α) : Confined base key (pure a) :=
  ⟨fun s => .refl s, fun _ _ _ _ hsame => ⟨rfl, hsame⟩⟩

theorem confined_throw (fault : Fault) : Confined base key (throw fault : Loading α) :=
  ⟨fun s => .refl s, fun _ _ _ _ hsame => ⟨rfl, hsame⟩⟩

theorem Confined.bind (hx : Confined base key x) (hf : ∀ a, Confined base key (f a)) :
    Confined base key (x >>= f) := by
  refine ⟨fun s => ?_, fun s t hs ht hsame => ?_⟩
  · have henters := hx.enters s
    cases hrun : x s with
    | ok a u =>
        rw [hrun] at henters
        rw [Outcome.bind_of_ok hrun]
        exact henters.trans ((hf a).enters u)
    | error fault u =>
        rw [hrun] at henters
        rw [Outcome.bind_of_error hrun]
        exact henters
  · have hafter := (hx.enters s).belongs hs
    have hafter' := (hx.enters t).belongs ht
    obtain ⟨hanswer, hstates⟩ := hx.same s t hs ht hsame
    cases hrun : x s with
    | ok a u =>
        cases hrun' : x t with
        | ok b v =>
            rw [hrun, hrun'] at hanswer hstates
            rw [hrun] at hafter
            rw [hrun'] at hafter'
            obtain rfl : a = b := Except.ok.inj hanswer
            rw [Outcome.bind_of_ok hrun, Outcome.bind_of_ok hrun']
            exact (hf a).same u v hafter hafter' hstates
        | error fault v =>
            rw [hrun, hrun'] at hanswer
            cases hanswer
    | error fault u =>
        cases hrun' : x t with
        | ok b v =>
            rw [hrun, hrun'] at hanswer
            cases hanswer
        | error fault' v =>
            rw [hrun, hrun'] at hanswer hstates
            obtain rfl : fault = fault' := Except.error.inj hanswer
            rw [Outcome.bind_of_error hrun, Outcome.bind_of_error hrun']
            exact ⟨rfl, hstates⟩

theorem confined_modifyCatalog {change : Catalog → Catalog}
    (h : ∀ catalog, (change catalog).names = catalog.names) :
    Confined base key (modifyCatalog change) := by
  refine ⟨fun s => .of_catalog [] (by simp [h]) (by simp), fun s t _ _ hsame => ⟨rfl, ?_⟩⟩
  intro q hq
  simp only [Outcome.modifyCatalog_eq, Outcome.state, h]
  exact hsame q hq

theorem Starts.bind (hx : Starts base key q x) (hf : ∀ a, Confined base key (f a)) :
    Starts base key q (x >>= f) := by
  refine ⟨hx.toConfined.bind hf, fun s => ?_⟩
  rcases hx.starts s with ⟨fault, hrun⟩ | ⟨hnew, hmem⟩
  · exact Or.inl ⟨fault, Outcome.bind_of_error hrun⟩
  · refine Or.inr ⟨hnew, ?_⟩
    cases hrun : x s with
    | ok a u =>
        rw [hrun] at hmem
        rw [Outcome.bind_of_ok hrun]
        exact ((hf a).enters u).subset hmem
    | error fault u =>
        rw [hrun] at hmem
        rw [Outcome.bind_of_error hrun]
        exact hmem

theorem names_add (catalog : Catalog) (decl : Decl) :
    (catalog.add decl).names = catalog.names ++ [decl.name] := by
  simp [Catalog.add, Catalog.names]

/-- How entering a declaration ends: nothing happens, or its name is new and is entered. -/
theorem enter_cases (scopes : List QualifiedName) (q : QualifiedName) (definition : TypeDef)
    (s : Resolver) :
    (∃ fault, enter scopes q definition s = .error fault s) ∨
      ∃ decl : Decl, decl.name = q ∧ q ∉ s.catalog.names ∧
        enter scopes q definition s = .ok () { s with catalog := s.catalog.add decl } := by
  unfold enter
  cases DeclKind.ofText? definition.kind with
  | none => exact Or.inl ⟨_, rfl⟩
  | some kind =>
      simp only [Outcome.get_bind]
      by_cases hcontains : s.catalog.contains q
      · rw [if_pos hcontains]
        exact Or.inl ⟨_, rfl⟩
      · rw [if_neg hcontains]
        cases placeholder kind definition.values with
        | error fault => exact Or.inl ⟨_, rfl⟩
        | ok body =>
            exact Or.inr ⟨_, rfl, fun hq => hcontains (Catalog.contains_iff.mpr hq), rfl⟩

theorem enter_confined {definition : TypeDef} (hq : q.release = key) :
    Confined base key (enter scopes q definition) := by
  refine ⟨fun s => ?_, fun s t _ _ hsame => ?_⟩
  · rcases enter_cases scopes q definition s with ⟨fault, hrun⟩ | ⟨decl, rfl, -, hrun⟩
    · rw [hrun]
      exact .refl s
    · rw [hrun]
      refine .of_catalog [decl.name] (names_add _ _) fun other hother => ?_
      rwa [List.mem_singleton.mp hother]
  · have hcontains : s.catalog.contains q = t.catalog.contains q := by
      rw [Bool.eq_iff_iff, Catalog.contains_iff, Catalog.contains_iff]
      exact hsame q hq
    unfold enter
    cases DeclKind.ofText? definition.kind with
    | none => exact ⟨rfl, hsame⟩
    | some kind =>
        simp only [Outcome.get_bind, hcontains]
        by_cases hknown : t.catalog.contains q
        · rw [if_pos hknown]
          exact ⟨rfl, hsame⟩
        · rw [if_neg hknown]
          cases placeholder kind definition.values with
          | error fault => exact ⟨rfl, hsame⟩
          | ok body =>
              refine ⟨rfl, fun other hother => ?_⟩
              simp only [Outcome.modifyCatalog_eq, Outcome.state, names_add, List.mem_append]
              exact or_congr_left (hsame other hother)

theorem enter_starts {definition : TypeDef} (hq : q.release = key) :
    Starts base key q (enter scopes q definition) := by
  refine ⟨enter_confined hq, fun s => ?_⟩
  rcases enter_cases scopes q definition s with hfails | ⟨decl, rfl, hnew, hrun⟩
  · exact Or.inl hfails
  · rw [hrun]
    refine Or.inr ⟨hnew, ?_⟩
    simp [Outcome.state, names_add]

mutual

theorem declare_starts {base : Repository} {key : QualifiedName} {scopes : List QualifiedName}
    (definition : TypeDef) (hscopes : (scopes.head?.getD key).release = key) :
    Starts base key (nameOf key scopes definition) (declare key scopes definition) := by
  obtain ⟨name, kind, fields, subTypes, storage, values, aliased, comment⟩ := definition
  have hname : ((scopes.head?.getD key).nested name).release = key := hscopes
  unfold declare
  refine (enter_starts hname).bind fun _ => ?_
  cases subTypes with
  | none => exact confined_throw _
  | some definitions =>
      have hmembers : Confined base key
          (declareAll key ((scopes.head?.getD key).nested name :: scopes) definitions) :=
        declareAll_confined definitions hname
      refine hmembers.bind fun _ => ?_
      refine (confined_modifyCatalog fun catalog => ?_).bind fun _ => confined_pure _
      exact Catalog.names_update fun _ => rfl

theorem declareAll_confined {base : Repository} {key : QualifiedName}
    {scopes : List QualifiedName} (definitions : List (Option TypeDef))
    (hscopes : (scopes.head?.getD key).release = key) :
    Confined base key (declareAll key scopes definitions) := by
  match definitions with
  | [] => exact confined_pure _
  | none :: rest => exact confined_throw _
  | some definition :: rest =>
      unfold declareAll
      exact (declare_starts definition hscopes).toConfined.bind fun _ =>
        (declareAll_confined rest hscopes).bind fun _ => confined_pure _

end

theorem declareAll_starts (definition : TypeDef) (rest : List (Option TypeDef))
    (hscopes : (scopes.head?.getD key).release = key) :
    Starts base key (nameOf key scopes definition)
      (declareAll key scopes (some definition :: rest)) := by
  unfold declareAll
  exact (declare_starts definition hscopes).bind fun _ =>
    (declareAll_confined rest hscopes).bind fun _ => confined_pure _

/-- Where something of these definitions was declared, declaring them again fails at once. -/
theorem declareAll_again {definitions : List (Option TypeDef)}
    (hscopes : (scopes.head?.getD key).release = key)
    (hq : q ∈ (Outcome.state (declareAll key scopes definitions s)).catalog.names)
    (hall : ∀ r, r.release = key →
      r ∈ (Outcome.state (declareAll key scopes definitions s)).catalog.names →
      r ∈ t.catalog.names) (hnew : q ∉ s.catalog.names) :
    ∃ fault, declareAll key scopes definitions t = .error fault t := by
  cases definitions with
  | nil => exact absurd hq hnew
  | cons first rest =>
      cases first with
      | none => exact absurd hq hnew
      | some definition =>
          have hstarts : Starts s.repository key (nameOf key scopes definition)
              (declareAll key scopes (some definition :: rest)) :=
            declareAll_starts definition rest hscopes
          rcases hstarts.starts s with ⟨fault, hrun⟩ | ⟨-, hmem⟩
          · rw [hrun] at hq
            exact absurd hq hnew
          · rcases hstarts.starts t with hfails | ⟨hfresh, -⟩
            · exact hfails
            · exact absurd (hall (nameOf key scopes definition) hscopes hmem) hfresh

theorem document_outcome (key : QualifiedName) (s : Resolver) :
    Outcome.answer (document key s) = (s.repository.load key).1 ∧
      Outcome.state (document key s) = { s with repository := (s.repository.load key).2 } := by
  unfold document
  rcases s.repository.load key with ⟨outcome, after⟩
  cases outcome with
  | ok release => exact ⟨rfl, rfl⟩
  | error fault => exact ⟨rfl, rfl⟩

theorem document_answer (hs : Belongs base s) (key : QualifiedName) :
    Outcome.answer (document key s) = base.reading key.release := by
  rw [(document_outcome key s).1, hs.faithful.load_eq, hs.files.reading_eq]

theorem document_confined (key : QualifiedName) : Confined base key (document key) := by
  refine ⟨fun s => ?_, fun s t hs ht hsame => ⟨?_, ?_⟩⟩
  · have hloads := Repository.load_loads s.repository key
    rw [(document_outcome key s).2]
    exact ⟨hloads.readsMore.toSameFiles, hloads.faithful, rfl, rfl, [], (List.append_nil _).symm,
      by simp⟩
  · rw [document_answer hs, document_answer ht]
  · rw [(document_outcome key s).2, (document_outcome key t).2]
    exact hsame

theorem declareDocument_confined (hkey : key.release = key) :
    Confined base key (declareDocument key) := by
  unfold declareDocument
  refine (document_confined key).bind fun release => ?_
  cases release.types with
  | none => exact confined_throw _
  | some definitions => exact declareAll_confined definitions hkey

theorem declareDocument_enters (hkey : key.release = key) (s : Resolver) :
    Enters key s (Outcome.state (declareDocument key s)) := by
  have hconfined : Confined s.repository key (declareDocument key) :=
    declareDocument_confined hkey
  exact hconfined.enters s

/-! ### Declaring a document -/

/-- A document that cannot be read is not declared. -/
theorem declareDocument_of_unread {fault : Fault} (hs : Belongs base s)
    (h : base.reading key.release = .error fault) :
    declareDocument key s = .error fault { s with repository := (s.repository.load key).2 } := by
  have hanswer := document_answer hs key
  have hstate := (document_outcome key s).2
  rw [h] at hanswer
  unfold declareDocument
  cases hrun : document key s with
  | ok release u =>
      rw [hrun] at hanswer
      cases hanswer
  | error fault' u =>
      rw [hrun] at hanswer hstate
      rw [Outcome.bind_of_error hrun, Except.error.inj hanswer, ← hstate]
      rfl

/-- A document that can be read is declared as far as it has types to declare. -/
theorem declareDocument_of_read {release : Release} (hs : Belongs base s)
    (h : base.reading key.release = .ok release) :
    (release.types = none ∧ declareDocument key s =
        .error .absentList { s with repository := (s.repository.load key).2 }) ∨
      ∃ definitions, release.types = some definitions ∧ declareDocument key s =
        declareAll key [] definitions { s with repository := (s.repository.load key).2 } := by
  have hanswer := document_answer hs key
  have hstate := (document_outcome key s).2
  rw [h] at hanswer
  unfold declareDocument
  cases hrun : document key s with
  | error fault u =>
      rw [hrun] at hanswer
      cases hanswer
  | ok found u =>
      rw [hrun] at hanswer hstate
      obtain rfl : found = release := Except.ok.inj hanswer
      rw [Outcome.bind_of_ok hrun, ← hstate]
      cases found.types with
      | none => exact Or.inl ⟨rfl, rfl⟩
      | some definitions => exact Or.inr ⟨definitions, rfl, rfl⟩

/-- Where something of a document was declared, declaring it again fails at once. -/
theorem declareDocument_again (hkey : key.release = key) (hs : Belongs base s)
    (ht : Belongs base t) (hnew : q ∉ s.catalog.names)
    (hq : q ∈ (Outcome.state (declareDocument key s)).catalog.names)
    (hall : ∀ r, r.release = key →
      r ∈ (Outcome.state (declareDocument key s)).catalog.names → r ∈ t.catalog.names) :
    ∃ fault u, declareDocument key t = .error fault u ∧ u.catalog = t.catalog := by
  cases hreading : base.reading key.release with
  | error fault => exact ⟨fault, _, declareDocument_of_unread ht hreading, rfl⟩
  | ok release =>
      rcases declareDocument_of_read hs hreading with ⟨-, hrun⟩ | ⟨definitions, htypes, hrun⟩
      · rw [hrun] at hq
        exact absurd hq hnew
      · rcases declareDocument_of_read ht hreading with ⟨hnone, -⟩ | ⟨found, hfound, hrun'⟩
        · rw [htypes] at hnone
          cases hnone
        · obtain rfl : definitions = found := Option.some.inj (htypes.symm.trans hfound)
          rw [hrun] at hq hall
          have hscopes : (([] : List QualifiedName).head?.getD key).release = key := hkey
          obtain ⟨fault, hfails⟩ :=
            declareAll_again (t := { t with repository := (t.repository.load key).2 })
              hscopes hq hall hnew
          exact ⟨fault, _, hrun'.trans hfails, rfl⟩

end Resolver

end HalBridge
