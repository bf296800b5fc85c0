import HalBridge.Proofs.ResolutionClosure
import HalBridge.Proofs.TwinRuns

/-!
# Loading from two repositories

Loading a release goes the same way in two repositories that agree on it, on the releases named in
its document, and so on. The steps are those of one run, in their order: reading and declaring, the
references, the lookup of names, and the release itself, which is where the releases it names begin
to matter. The two runs may be bounded differently in depth, as long as both bounds suffice.
-/

namespace HalBridge.Resolver

open Document Repository

variable {α β : Type} {pair : Pairing} {n m : Nat} {P : Prop} {s t : Resolver} {x : Loading α}
  {key q : QualifiedName}

/-! ### Reading and declaring -/

/-- What is being loaded is known in the end, so the repositories agree as they should. -/
theorem Pairing.Agrees.agreesOn (h : pair.Agrees key) (htwins : Twins pair n m s t)
    (hgrows : Grows x) (hknown : ∀ key, (Outcome.state (x s)).isLoaded key → pair.known key) :
    pair.first.AgreesOn pair.second key :=
  h fun home hhome => hknown home (hgrows s home (htwins.homes home hhome))

theorem document_follows (key : QualifiedName) :
    Follows pair n m (pair.Agrees key.release) (document key) (document key) := by
  have hgrows : Grows (document key) := by
    intro s other hother
    unfold document
    split <;> exact hother
  refine ⟨hgrows, ?_⟩
  intro hagrees s t htwins hknown
  have hsame : (t.repository.load key).1 = (s.repository.load key).1 := by
    rw [htwins.right.faithful.load_eq, htwins.left.faithful.load_eq,
      htwins.right.files.reading_eq, htwins.left.files.reading_eq]
    exact (hagrees.agreesOn htwins hgrows hknown).reading_eq
  have hloads := Repository.load_loads s.repository key
  have hloads' := Repository.load_loads t.repository key
  unfold document
  generalize s.repository.load key = left at hsame hloads
  generalize t.repository.load key = right at hsame hloads'
  obtain ⟨outcome, after⟩ := left
  obtain ⟨outcome', after'⟩ := right
  obtain rfl : outcome' = outcome := hsame
  cases outcome' with
  | error fault => exact .error
  | ok release =>
      refine .ok ⟨?_, ?_, ?_, htwins.homes⟩
      · rw [htwins.state]
      · exact htwins.left.withRepository hloads.readsMore (hloads.faithful htwins.left.faithful)
      · exact htwins.right.withRepository hloads'.readsMore
          (hloads'.faithful htwins.right.faithful)

theorem enter_follows (scopes : List QualifiedName) (q : QualifiedName) (definition : TypeDef) :
    Follows pair n m P (enter scopes q definition) (enter scopes q definition) := by
  unfold enter
  split
  · refine follows_get_bind fun r repository => ?_
    dsimp only
    split
    · exact follows_throw _
    · split
      · exact follows_throw _
      · exact follows_modifyCatalog _
  · exact follows_throw _

mutual

theorem declare_follows {pair : Pairing} {n m : Nat} {P : Prop} {key : QualifiedName}
    {scopes : List QualifiedName} (definition : TypeDef) :
    Follows pair n m P (declare key scopes definition) (declare key scopes definition) := by
  obtain ⟨name, kind, fields, subTypes, storage, values, aliased, comment⟩ := definition
  unfold declare
  refine (enter_follows _ _ _).bind fun _ => ?_
  cases subTypes with
  | none => exact follows_throw _
  | some definitions =>
      refine (declareAll_follows definitions).bind fun _ => ?_
      exact (follows_modifyCatalog _).bind fun _ => follows_pure _

theorem declareAll_follows {pair : Pairing} {n m : Nat} {P : Prop} {key : QualifiedName}
    {scopes : List QualifiedName} (definitions : List (Option TypeDef)) :
    Follows pair n m P (declareAll key scopes definitions) (declareAll key scopes definitions) := by
  match definitions with
  | [] => exact follows_pure _
  | none :: rest => exact follows_throw _
  | some definition :: rest =>
      unfold declareAll
      exact (declare_follows definition).bind fun _ =>
        (declareAll_follows rest).bind fun _ => follows_pure _

end

/-! ### Resolving references -/

/-- The two runs of an action are told apart by a truth value. -/
theorem follows_closed (pair : Pairing) (n m : Nat) (P : Prop) :
    Closed fun ⦃α⦄ (x : Bool → Loading α) => Follows pair n m P (x true) (x false) where
  pure := follows_pure
  throw := follows_throw
  bind := Follows.bind
  catalog hf hcatalog := follows_get_bind fun r repository => by
    rw [hcatalog { r with repository } r rfl]
    exact hf r
  setBody _ _ := follows_modifyCatalog _

theorem Pairing.agrees_of_asks {pending : Pending}
    (h : ∀ entry ∈ pending, pair.Meets entry.1.release entry.2.types) (hq : Asks pending q) :
    pair.Agrees q.release := by
  obtain ⟨entry, hentry, hown | ⟨written, hwritten, text, htext, hparse⟩⟩ := hq
  · rw [hown]
    exact (h entry hentry).1
  · exact (h entry hentry).2 written hwritten text q htext hparse

theorem resolvePending_follows {lookup lookup' : QualifiedName → Loading Ref}
    (hlookup : ∀ q, Follows pair n m (pair.Agrees q.release) (lookup q) (lookup' q))
    (pending : Pending) :
    Follows pair n m (∀ entry ∈ pending, pair.Meets entry.1.release entry.2.types)
      (resolvePending lookup pending) (resolvePending lookup' pending) := by
  have hclosed := follows_closed pair n m
    (∀ entry ∈ pending, pair.Meets entry.1.release entry.2.types)
  refine hclosed.resolvePending (fun side => bif side then lookup else lookup') pending ?_
  intro q hq
  exact (hlookup q).imp fun hmeets => Pairing.agrees_of_asks hmeets hq

/-! ### Loading releases -/

section Loads

variable {load load' : QualifiedName → Loading Unit}

theorem lookupWith_follows
    (hload : ∀ key, key.release = key →
      Follows pair n m (pair.Agrees key) (load key) (load' key)) (q : QualifiedName) :
    Follows pair n m (pair.Agrees q.release) (lookupWith load q) (lookupWith load' q) := by
  have hnext : Follows pair n m (pair.Agrees q.release)
      (load q.release >>= fun _ => get >>= fun r => pure (r.catalog.ref q))
      (load' q.release >>= fun _ => get >>= fun r => pure (r.catalog.ref q)) :=
    (hload q.release rfl).bind fun _ => follows_get_bind fun _ _ => follows_pure _
  have hgrows : Grows (lookupWith load q) := by
    intro s key hkey
    unfold lookupWith
    rw [Outcome.get_bind]
    split
    · exact hkey
    · rw [Outcome.get_bind]
      split
      · exact hkey
      · cases s.repository.holds q.release with
        | error fault => exact hkey
        | ok present =>
            cases present with
            | false => exact hkey
            | true => exact hnext.grows s key hkey
  refine ⟨hgrows, ?_⟩
  intro hagrees s t htwins hknown
  have hholds : t.repository.holds q.release = s.repository.holds q.release := by
    rw [htwins.right.files.holds_eq, htwins.left.files.holds_eq]
    exact (hagrees.agreesOn htwins hgrows hknown).holds_eq
  have hcatalog : t.catalog = s.catalog := by rw [htwins.state]
  have hloaded : t.isLoaded q.release = s.isLoaded q.release := by rw [htwins.state]; rfl
  unfold lookupWith at hknown ⊢
  rw [Outcome.get_bind] at hknown
  rw [Outcome.get_bind, Outcome.get_bind, hcatalog]
  split
  · exact .ok htwins
  · rename_i hcontains
    rw [if_neg hcontains, Outcome.get_bind] at hknown
    rw [Outcome.get_bind, Outcome.get_bind, hloaded, hholds]
    split
    · exact .ok htwins
    · rename_i hfresh
      rw [if_neg hfresh] at hknown
      cases hpresent : s.repository.holds q.release with
      | error fault => exact .error
      | ok present =>
          rw [hpresent] at hknown
          cases present with
          | false => exact .ok htwins
          | true => exact hnext.mirrors hagrees s t htwins hknown

theorem whileResolving_follows {x y : Loading Unit} (h : Follows pair n m P x y) :
    Follows pair n m P (whileResolving x) (whileResolving y) := by
  have hloaded : ∀ s key, (Outcome.state (whileResolving x s)).isLoaded key =
      (Outcome.state (x { s with resolving := s.resolving + 1 })).isLoaded key := by
    intro s key
    unfold whileResolving
    cases x { s with resolving := s.resolving + 1 } with
    | ok a u => rfl
    | error fault u => rfl
  refine ⟨fun s key hkey => ?_, ?_⟩
  · rw [hloaded]
    exact h.grows { s with resolving := s.resolving + 1 } key hkey
  · intro hP s t htwins hknown
    simp only [hloaded] at hknown
    obtain ⟨repository, rfl⟩ := htwins.exists_repository
    have hmirrors := h.mirrors hP _ _
      (htwins.withRest s.catalog (s.resolving + 1) s.unchecked) hknown
    unfold whileResolving
    dsimp only at hmirrors ⊢
    generalize x { s with resolving := s.resolving + 1 } = left at hmirrors ⊢
    generalize y { s with repository, resolving := s.resolving + 1 } = right at hmirrors ⊢
    cases hmirrors with
    | error => exact .error
    | @ok _ u v htwins' =>
        obtain ⟨after, rfl⟩ := htwins'.exists_repository
        exact .ok (htwins'.withRest u.catalog (u.resolving - 1) u.unchecked)

theorem checkUnchecked_follows : Follows pair n m P checkUnchecked checkUnchecked := by
  have heq : ∀ s, checkUnchecked s =
      if s.resolving = 0 then
        match checkChains s.catalog s.unchecked with
        | .error chain => .error (.input (.endlessChain chain)) { s with unchecked := [] }
        | .ok () => .ok () { s with unchecked := [] }
      else .ok () s := by
    intro s
    unfold checkUnchecked
    rw [Outcome.get_bind]
    split
    · cases checkChains s.catalog s.unchecked with
      | error chain => rfl
      | ok _ => rfl
    · rfl
  refine ⟨?_, ?_⟩
  · intro s key hkey
    rw [heq]
    split
    · split <;> exact hkey
    · exact hkey
  · intro _ s t htwins _
    obtain ⟨repository, rfl⟩ := htwins.exists_repository
    rw [heq, heq]
    dsimp only
    split
    · cases checkChains s.catalog s.unchecked with
      | error chain => exact .error
      | ok _ => exact .ok (htwins.withRest s.catalog s.resolving [])
    · exact .ok htwins

/-- The steps after the declarations of a release are entered and it counts as loaded. -/
def resolveRelease (load : QualifiedName → Loading Unit) (names : List QualifiedName)
    (pending : Pending) : Loading (List QualifiedName) := do
  whileResolving (resolvePending (lookupWith load) pending)
  modify fun resolver => { resolver with unchecked := resolver.unchecked ++ pending.map Prod.fst }
  checkUnchecked
  return names

/-- The steps after the document of a release is read. -/
def declareRelease (load : QualifiedName → Loading Unit) (key : QualifiedName)
    (release : Release) : Loading (List QualifiedName) :=
  match release.types with
  | none => throw .absentList
  | some definitions => do
      let (names, pending) ← declareAll key [] definitions
      modify fun resolver => { resolver with roots := resolver.roots ++ [(key, names)] }
      resolveRelease load names pending

theorem loadWith_eq (load : QualifiedName → Loading Unit) (key : QualifiedName) :
    loadWith load key = get >>= fun resolver =>
      match resolver.roots.lookup key with
      | some names => pure names
      | none => document key >>= declareRelease load key := by
  unfold loadWith
  congr 1
  funext resolver
  cases resolver.roots.lookup key with
  | some names => rfl
  | none => rfl

theorem resolveRelease_follows
    (hload : ∀ key, key.release = key →
      Follows pair n m (pair.Agrees key) (load key) (load' key))
    (names : List QualifiedName) (pending : Pending) :
    Follows pair n m (∀ entry ∈ pending, pair.Meets entry.1.release entry.2.types)
      (resolveRelease load names pending) (resolveRelease load' names pending) := by
  unfold resolveRelease
  refine (whileResolving_follows (resolvePending_follows (lookupWith_follows hload) pending)).bind
    fun _ => Follows.bind ⟨fun _ _ hkey => hkey, ?_⟩ fun _ =>
      checkUnchecked_follows.bind fun _ => follows_pure names
  intro _ s t htwins _
  obtain ⟨repository, rfl⟩ := htwins.exists_repository
  exact .ok (htwins.withRest s.catalog s.resolving (s.unchecked ++ pending.map Prod.fst))

theorem declareRelease_grows
    (hload : ∀ key, key.release = key →
      Follows pair n m (pair.Agrees key) (load key) (load' key))
    (release : Release) : Grows (declareRelease load key release) := by
  unfold declareRelease
  cases release.types with
  | none => exact fun _ _ hkey => hkey
  | some definitions =>
      have hdeclare : Follows pair n m True (declareAll key [] definitions)
        (declareAll key [] definitions) := declareAll_follows definitions
      refine hdeclare.grows.bind fun _ => Grows.bind ?_ fun _ =>
        (resolveRelease_follows hload _ _).grows
      intro s other hother
      exact isLoaded_of_isPrefix (List.prefix_append _ _) hother

/-! ### Entering and leaving a release -/

theorem Sound.opened {base : Repository} {depth : Nat} (h : Sound base (depth + 1) s)
    (hkey : key.release = key) (hfresh : ¬s.isLoaded key)
    (hread : (s.repository.read.lookup key).isSome) (names : List QualifiedName) :
    Sound base depth { s with roots := s.roots ++ [(key, names)] } := by
  refine ⟨h.files, h.faithful, ?_, ?_, ?_⟩
  · intro other hother
    rw [List.map_append, List.mem_append] at hother
    rcases hother with hother | hother
    · exact h.read other hother
    · obtain rfl : other = key := List.mem_singleton.mp hother
      exact ⟨hkey, hread⟩
  · rw [List.map_append]
    refine h.distinct.append (List.nodup_singleton _) ?_
    intro other hother hlast
    obtain rfl : other = key := List.mem_singleton.mp hlast
    exact hfresh (isLoaded_iff.mpr hother)
  · have hbounded := h.bounded
    rw [List.length_append, List.length_singleton]
    omega

/-- A release that counts as loaded from now on may be loaded inside of one depth less. -/
theorem Twins.opened (h : Twins pair (n + 1) (m + 1) s t) (hkey : key.release = key)
    (hfresh : ¬s.isLoaded key) (hread : (s.repository.read.lookup key).isSome)
    (hread' : (t.repository.read.lookup key).isSome) (names : List QualifiedName) :
    Twins (pair.enter key) n m { s with roots := s.roots ++ [(key, names)] }
      { t with roots := t.roots ++ [(key, names)] } := by
  have hfresh' : ¬t.isLoaded key := by
    rw [h.state]
    exact hfresh
  refine ⟨?_, h.left.opened hkey hfresh hread names, h.right.opened hkey hfresh' hread' names, ?_⟩
  · rw [h.state]
  · intro home hhome
    rcases List.mem_cons.mp hhome with rfl | hhome
    · exact isLoaded_of_mem (List.mem_append_right _ (List.mem_singleton_self _))
    · exact isLoaded_of_isPrefix (List.prefix_append _ _) (h.homes home hhome)

theorem Mirrored.leave {left right : EStateM.Result Fault Resolver α} (key : QualifiedName)
    (h : Mirrored (pair.enter key) n m left right) : Mirrored pair (n + 1) (m + 1) left right := by
  cases h with
  | error => exact .error
  | ok htwins =>
      refine .ok ⟨htwins.state, htwins.left.mono (Nat.le_succ n),
        htwins.right.mono (Nat.le_succ m), ?_⟩
      exact fun home hhome => htwins.homes home (List.mem_cons_of_mem _ hhome)

/-- While a release is being loaded, the repositories agree on it and on what its document names. -/
theorem Pairing.Covers.meets (hcovers : pair.Covers) (hagrees : pair.Agrees key)
    (hkey : key.release = key) {text : String} {release : Release}
    (hfile : pair.first.file? key = some text) (hdecode : decodeRelease key text = .ok release) :
    ∀ entry ∈ pendingOf (entriesAll key [] (release.types.getD [])),
      (pair.enter key).Meets entry.1.release entry.2.types := by
  intro entry hentry
  obtain ⟨defined, hdefined, rfl⟩ := List.mem_map.mp hentry
  refine ⟨?_, ?_⟩
  · rw [release_of_mem_entriesAll hkey hdefined]
    exact hagrees.enter key
  · intro written hwritten reference q hreference hq hknown
    have hentry : defined ∈ pair.first.definitions key :=
      mem_definitions_iff.mpr ⟨text, release, hfile, hdecode, hdefined⟩
    refine hcovers key (hknown key List.mem_cons_self) q.release (List.mem_filterMap.mpr ?_)
    refine ⟨written, List.mem_flatMap.mpr ⟨defined, hentry, hwritten⟩, ?_⟩
    rw [hreference, Option.bind_some, hq]
    rfl

theorem declareRelease_mirrors (hcovers : pair.Covers) (hkey : key.release = key)
    (hload : ∀ other, other.release = other →
      Follows (pair.enter key) n m ((pair.enter key).Agrees other) (load other) (load' other))
    (hagrees : pair.Agrees key) {release : Release} (htwins : Twins pair (n + 1) (m + 1) s t)
    (hfresh : ¬s.isLoaded key) (hread : s.repository.read.lookup key = some release)
    (hread' : t.repository.read.lookup key = some release)
    (hknown : ∀ other, (Outcome.state (declareRelease load key release s)).isLoaded other →
      pair.known other) :
    Mirrored pair (n + 1) (m + 1) (declareRelease load key release s)
      (declareRelease load' key release t) := by
  obtain ⟨text, hfile, hdecode⟩ := htwins.left.faithful key release hread
  rw [htwins.left.files.file_eq] at hfile
  have hmeets := hcovers.meets hagrees hkey hfile hdecode
  unfold declareRelease at hknown ⊢
  cases htypes : release.types with
  | none => exact .error
  | some definitions =>
      rw [htypes, Option.getD_some] at hmeets
      rw [htypes] at hknown
      dsimp only at hknown ⊢
      have hdeclare : Follows pair (n + 1) (m + 1) True (declareAll key [] definitions)
        (declareAll key [] definitions) := declareAll_follows definitions
      refine (hdeclare.mirrors trivial s t htwins ?_).bind ?_
      · intro other hother
        refine hknown other (isLoaded_bind ?_ hother)
        intro declared
        refine Grows.bind ?_ fun _ => (resolveRelease_follows hload _ _).grows
        exact fun _ _ hloaded => isLoaded_of_isPrefix (List.prefix_append _ _) hloaded
      · rintro ⟨names, pending⟩ u v hu hv htwins'
        rw [Outcome.bind_of_ok hu] at hknown
        obtain ⟨-, rfl, hdeclares⟩ := declareAll_ok definitions hu
        obtain ⟨-, -, hdeclares'⟩ := declareAll_ok definitions hv
        dsimp only at hknown ⊢
        rw [Outcome.modify_bind] at hknown
        rw [Outcome.modify_bind, Outcome.modify_bind]
        have hopened : Twins (pair.enter key) n m { u with roots := u.roots ++ [(key, names)] }
            { v with roots := v.roots ++ [(key, names)] } := by
          apply htwins'.opened hkey
          · rw [hdeclares.state]
            exact hfresh
          · rw [hdeclares.state, hread]
            rfl
          · rw [hdeclares'.state, hread']
            rfl
        exact ((resolveRelease_follows hload _ _).mirrors hmeets _ _ hopened hknown).leave key

theorem loadWith_follows (hcovers : pair.Covers) (hkey : key.release = key)
    (hload : ∀ other, other.release = other →
      Follows (pair.enter key) n m ((pair.enter key).Agrees other) (load other) (load' other)) :
    Follows pair (n + 1) (m + 1) (pair.Agrees key) (loadWith load key) (loadWith load' key) := by
  have hdeclares : ∀ release, Grows (declareRelease load key release) :=
    declareRelease_grows hload
  have hdocument : Follows pair (n + 1) (m + 1) (pair.Agrees key.release) (document key)
    (document key) := document_follows key
  rw [hkey] at hdocument
  refine ⟨?_, ?_⟩
  · intro s other hother
    rw [loadWith_eq, Outcome.get_bind]
    cases s.roots.lookup key with
    | some names => exact hother
    | none => exact hdocument.grows.bind hdeclares s other hother
  · intro hagrees s t htwins hknown
    rw [loadWith_eq, Outcome.get_bind] at hknown ⊢
    rw [loadWith_eq, Outcome.get_bind]
    have hroots : t.roots = s.roots := by rw [htwins.state]
    rw [hroots]
    cases hlookup : s.roots.lookup key with
    | some names => exact .ok htwins
    | none =>
        rw [hlookup] at hknown
        dsimp only at hknown ⊢
        refine (hdocument.mirrors hagrees s t htwins ?_).bind ?_
        · exact fun other hother => hknown other (isLoaded_bind hdeclares hother)
        · intro release u v hu hv htwins'
          rw [Outcome.bind_of_ok hu] at hknown
          have hfresh : ¬s.isLoaded key := by
            rw [isLoaded, hlookup]
            exact Bool.false_ne_true
          have hread : ∀ {before after : Resolver}, document key before = .ok release after →
              after.repository.read.lookup key = some release ∧ after.roots = before.roots := by
            intro before after hdone
            obtain ⟨repository, hafter, rfl⟩ := document_ok hdone
            have hloads := load_loads before.repository key
            rw [hafter, hkey] at hloads
            exact ⟨hloads.read, rfl⟩
          refine declareRelease_mirrors hcovers hkey hload hagrees htwins' ?_ (hread hu).1
            (hread hv).1 hknown
          rw [isLoaded, (hread hu).2]
          exact hfresh

end Loads

/-- How deep releases may be loaded makes no difference, if both bounds suffice. -/
theorem loadInside_follows (hcovers : pair.Covers) (hkey : key.release = key) :
    Follows pair n m (pair.Agrees key) (loadInside n key) (loadInside m key) := by
  induction n generalizing m pair key with
  | zero =>
      refine ⟨fun _ _ hloaded => hloaded, ?_⟩
      intro _ s t htwins _
      exact absurd htwins.left.depth_pos (Nat.lt_irrefl 0)
  | succ n ih =>
      have hload : ∀ m, Follows pair (n + 1) (m + 1) (pair.Agrees key)
          (loadWith (loadInside n) key >>= fun _ => pure ())
          (loadWith (loadInside m) key >>= fun _ => pure ()) := by
        intro m
        have hinside : (pair.enter key).Covers := hcovers
        exact (loadWith_follows hcovers hkey fun other hother => ih hinside hother).bind
          fun _ => follows_pure ()
      have hstep : ∀ depth, loadInside (depth + 1) key =
          loadWith (loadInside depth) key >>= fun _ => pure () := by
        intro depth
        rw [loadInside, loadAt_eq]
      rw [hstep]
      cases m with
      | zero =>
          refine ⟨(hload 0).grows, ?_⟩
          intro _ s t htwins _
          exact absurd htwins.right.depth_pos (Nat.lt_irrefl 0)
      | succ m =>
          rw [hstep]
          exact hload m

/-- Loading while nothing is being loaded, from the depths that the disks allow. -/
theorem loadRelease_follows (hcovers : pair.Covers) (q : QualifiedName) :
    Follows pair (pair.first.disk.size + 1) (pair.second.disk.size + 1) (pair.Agrees q.release)
      (loadRelease q) (loadRelease q) := by
  have hload : ∀ n m, Follows pair (n + 1) (m + 1) (pair.Agrees q.release)
      (loadAt n q.release) (loadAt m q.release) := by
    intro n m
    have hinside : (pair.enter q.release).Covers := hcovers
    rw [loadAt_eq, loadAt_eq]
    exact loadWith_follows hcovers rfl fun other hother => loadInside_follows hinside hother
  refine ⟨?_, ?_⟩
  · intro s key hkey
    rw [loadRelease, Outcome.get_bind]
    exact (hload s.repository.disk.size 0).grows s key hkey
  · intro hagrees s t htwins hknown
    rw [loadRelease, Outcome.get_bind, htwins.left.files.disk] at hknown ⊢
    rw [Outcome.get_bind, htwins.right.files.disk]
    exact (hload _ _).mirrors hagrees s t htwins hknown

end HalBridge.Resolver
