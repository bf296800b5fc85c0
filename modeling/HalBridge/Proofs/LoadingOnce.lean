import HalBridge.Proofs.DeclarationAttempts
import HalBridge.Proofs.NameTexts
import HalBridge.Proofs.ResolutionClosure
import Mathlib.Data.Set.Card

/-!
# Loading ends, with each release declared once

Loading calls itself for the releases that a document names, and these may name the first one again.
`Evaluates` says what such a call does with no bound on its depth: a derivation is a finite tree of
calls, and it lists the releases whose documents are declared. `DeclaringSteps` lists the same from
the changes of the state. A call is made for a release that has a file and is not loaded, and its
own release is loaded before it makes further calls. So the number of releases with files that are
not loaded bounds the depth, and no release occurs twice in the list.
-/

namespace HalBridge

open Document

/-! ### Releases with files -/

namespace Text

theorem split_of_not_mem {separator : Char} {text : String} (h : separator ∉ text.toList) :
    split separator text = [text] := by
  have hchars : ∀ cs : List Char, separator ∉ cs → splitChars separator cs = [cs] := by
    intro cs hcs
    induction cs with
    | nil => rfl
    | cons c rest ih =>
        have hc : c ≠ separator := (List.ne_of_not_mem_cons hcs).symm
        rw [splitChars, if_neg hc, ih (List.not_mem_of_not_mem_cons hcs)]
  rw [split, hchars text.toList h, List.map_singleton, String.ofList_toList]

end Text

theorem QualifiedName.Regular.release {q : QualifiedName} (h : q.Regular) : q.release.Regular :=
  ⟨h.package, Or.inl ⟨rfl, rfl⟩⟩

theorem Repository.fileName_eq {key : QualifiedName} (hregular : key.Regular)
    (hkey : key.release = key) : fileName key = key.toText ++ ".json" := by
  obtain ⟨names, -, hnames, hpackage⟩ := hregular.package
  have hslash : '/' ∉ key.package.toList := by
    intro hmem
    rw [hpackage] at hmem
    exact absurd (QualifiedName.isNameMark_of_mem_dotted hnames hmem) (by decide)
  have hrelease : key.namesType = false := by
    rw [← hkey]
    rfl
  rw [fileName, Text.split_of_not_mem hslash, QualifiedName.toText, hrelease]
  simp

namespace Resolver

/-- The releases that a reference can make the resolver load. -/
def loadable (s : Resolver) : Set QualifiedName :=
  {key | key.Regular ∧ key.release = key ∧ s.repository.contains key ∧ ¬s.isLoaded key}

/-- Releases that can be loaded have places of their own. -/
theorem encard_loadable_le (s : Resolver) : s.loadable.encard ≤ s.repository.disk.size := by
  classical
  let places := (s.repository.disk.nodes.map fun entry => entry.1.getLast?).toFinset
  have hmaps : Set.MapsTo (fun key => some (Repository.fileName key)) s.loadable places := by
    rintro key ⟨-, -, hcontains, -⟩
    obtain ⟨entry, hentry, hlast⟩ := Repository.place_of_contains hcontains
    rw [Finset.mem_coe, List.mem_toFinset]
    exact List.mem_map.mpr ⟨entry, hentry, hlast⟩
  have hinj : Set.InjOn (fun key => some (Repository.fileName key)) s.loadable := by
    rintro key ⟨hregular, hkey, -⟩ other ⟨hregular', hother, -⟩ hsame
    have hnames := Option.some.inj hsame
    rw [Repository.fileName_eq hregular hkey, Repository.fileName_eq hregular' hother,
      String.append_left_inj] at hnames
    exact hregular.toText_inj hregular' hnames
  calc
    s.loadable.encard ≤ (places : Set (Option String)).encard :=
      Set.encard_le_encard_of_injOn hmaps hinj
    _ = places.card := Set.encard_coe_eq_coe_finsetCard places
    _ ≤ s.repository.disk.size := by
      have hle := List.toFinset_card_le (s.repository.disk.nodes.map fun entry => entry.1.getLast?)
      rw [List.length_map] at hle
      exact_mod_cast hle

/-! ### Evaluating without a bound -/

abbrev Loader := QualifiedName → Loading (List QualifiedName)

/-- A loader as it is called for a release that another one refers to: the names that it returns
are not needed. -/
def Loader.nested (load : Loader) (key : QualifiedName) : Loading Unit := do
  let _ ← load key

/-- The documents that a call for `key` declares before it resolves any reference: none if the
release is loaded, and its own otherwise, once. -/
inductive DeclaresOwn (key : QualifiedName) (s : Resolver) : List QualifiedName → Prop
  | known {names : List QualifiedName} (h : ∀ load, loadWith load key s = .ok names s) :
      DeclaresOwn key s []
  | refused {fault : Fault} {t : Resolver} (hdeclare : declareDocument key s = .error fault t)
      (h : ∀ load, loadWith load key s = .error fault t) : DeclaresOwn key s [key]
  | opened {names : List QualifiedName} {pending : Pending} {t : Resolver}
      (hdeclare : declareDocument key s = .ok (names, pending) t)
      (h : ∀ load, loadWith load key s =
        resolveRelease load names pending { t with roots := t.roots ++ [(key, names)] }) :
      DeclaresOwn key s [key]

/-- What `run` makes of a loader is `outcome` when all its calls of the loader load releases, and
`declared` lists the releases whose documents are declared, in order. What comes after a call fails
where the call does, so that no call can be listed which is not made. -/
inductive Evaluates : {α : Type} → (Loader → EStateM.Result Fault Resolver α) →
    List QualifiedName → EStateM.Result Fault Resolver α → Prop
  | done {α : Type} {run : Loader → EStateM.Result Fault Resolver α}
      {outcome : EStateM.Result Fault Resolver α} (h : ∀ load, run load = outcome) :
      Evaluates run [] outcome
  | call {α : Type} {run : Loader → EStateM.Result Fault Resolver α}
      (next : Loader → EStateM.Result Fault Resolver (List QualifiedName) →
        EStateM.Result Fault Resolver α)
      {key : QualifiedName} {s : Resolver} {own inner more : List QualifiedName}
      {loaded : EStateM.Result Fault Resolver (List QualifiedName)}
      {outcome : EStateM.Result Fault Resolver α}
      (hcalls : ∀ load, run load = next load (load key s))
      (hstrict : ∀ load fault t, ∃ u, next load (.error fault t) = .error fault u)
      (hown : DeclaresOwn key s own)
      (hload : Evaluates (fun load => loadWith load.nested key s) inner loaded)
      (hnext : Evaluates (fun load => next load loaded) more outcome) :
      Evaluates run (own ++ inner ++ more) outcome

section Evaluation

variable {α β : Type} {run : Loader → EStateM.Result Fault Resolver α}
  {outcome : EStateM.Result Fault Resolver α} {final : EStateM.Result Fault Resolver β}
  {declared later : List QualifiedName}

/-- An evaluation goes on where another one has ended. -/
theorem Evaluates.andThen (h : Evaluates run declared outcome)
    (next : Loader → EStateM.Result Fault Resolver α → EStateM.Result Fault Resolver β)
    (hstrict : ∀ load fault t, ∃ u, next load (.error fault t) = .error fault u)
    (hnext : Evaluates (fun load => next load outcome) later final) :
    Evaluates (fun load => next load (run load)) (declared ++ later) final := by
  induction h with
  | @done _ run outcome h =>
      have hsame : (fun load => next load (run load)) = fun load => next load outcome := by
        funext load
        rw [h load]
      rw [hsame]
      exact hnext
  | @call _ _ first key s own inner more _ _ hcalls hfirst hown hload _ _ ih =>
      rw [List.append_assoc]
      refine .call (fun load result => next load (first load result)) (fun load => ?_)
        (fun load fault t => ?_) hown hload (ih next hstrict hnext)
      · rw [hcalls load]
      · obtain ⟨u, hu⟩ := hfirst load fault t
        rw [hu]
        exact hstrict load fault u

/-- Loading that is bounded in depth; what lies deeper is not loaded. -/
def loaderAt : Nat → Loader
  | 0 => fun _ => pure []
  | depth + 1 => loadAt depth

theorem nested_loaderAt (depth : Nat) : (loaderAt depth).nested = loadInside depth := by
  cases depth with
  | zero => rfl
  | succ depth => rfl

/-- A bound that is large enough makes no difference. -/
theorem Evaluates.exists_depth (h : Evaluates run declared outcome) :
    ∃ depth, ∀ n, depth ≤ n → run (loaderAt n) = outcome := by
  induction h with
  | done h => exact ⟨0, fun n _ => h (loaderAt n)⟩
  | @call _ _ next key s _ _ _ loaded _ hcalls _ _ _ _ ihload ihnext =>
      obtain ⟨depth, hdepth⟩ := ihload
      obtain ⟨rest, hrest⟩ := ihnext
      refine ⟨max (depth + 1) rest, fun n hn => ?_⟩
      obtain ⟨m, rfl⟩ : ∃ m, n = m + 1 := ⟨n - 1, by omega⟩
      have hloaded : loaderAt (m + 1) key s = loaded := by
        rw [loaderAt, loadAt_eq, ← nested_loaderAt]
        exact hdepth m (by omega)
      rw [hcalls, hloaded]
      exact hrest (m + 1) (by omega)

end Evaluation

/-! ### What an evaluation does to a state -/

/-- A sequence of steps in which the documents of these releases are declared, in order. -/
inductive DeclaringSteps (s : Resolver) : List QualifiedName → Resolver → Prop
  | refl : DeclaringSteps s [] s
  | counts {declared : List QualifiedName} {t : Resolver} (resolving : Nat)
      (unchecked : List QualifiedName) (h : DeclaringSteps s declared t) :
      DeclaringSteps s declared { t with resolving, unchecked }
  | body {declared : List QualifiedName} {t : Resolver} (q : QualifiedName) (body : Body)
      (h : DeclaringSteps s declared t) :
      DeclaringSteps s declared
        { t with catalog := t.catalog.update q fun decl => { decl with body } }
  | opened {declared names : List QualifiedName} {pending : Pending} {key : QualifiedName}
      {t u : Resolver} (h : DeclaringSteps s declared t)
      (hdeclare : declareDocument key t = .ok (names, pending) u) :
      DeclaringSteps s (declared ++ [key]) { u with roots := u.roots ++ [(key, names)] }
  | refused {declared : List QualifiedName} {fault : Fault} {key : QualifiedName}
      {t u : Resolver} (h : DeclaringSteps s declared t)
      (hdeclare : declareDocument key t = .error fault u) :
      DeclaringSteps s (declared ++ [key]) u

theorem DeclaringSteps.trans {s t u : Resolver} {first second : List QualifiedName}
    (h : DeclaringSteps s first t) (hnext : DeclaringSteps t second u) :
    DeclaringSteps s (first ++ second) u := by
  induction hnext with
  | refl =>
      rw [List.append_nil]
      exact h
  | counts resolving unchecked _ ih => exact .counts resolving unchecked ih
  | body q body _ ih => exact .body q body ih
  | opened _ hdeclare ih =>
      rw [← List.append_assoc]
      exact .opened ih hdeclare
  | refused _ hdeclare ih =>
      rw [← List.append_assoc]
      exact .refused ih hdeclare

/-- The state after an outcome has the files and the nesting of the state before it, and no loaded
release is lost. The releases declared in between are distinct and new. Those loaded since are among
them, and all are loaded if nothing failed. -/
structure Tracks {α : Type} (s : Resolver) (declared : List QualifiedName)
    (outcome : EStateM.Result Fault Resolver α) : Prop where
  steps : DeclaringSteps s declared (Outcome.state outcome)
  files : s.repository.SameFiles (Outcome.state outcome).repository
  grows : ∀ key, s.isLoaded key → (Outcome.state outcome).isLoaded key
  resolving : (Outcome.state outcome).resolving = s.resolving
  nodup : declared.Nodup
  fresh : ∀ key ∈ declared, ¬s.isLoaded key
  since : ∀ key, (Outcome.state outcome).isLoaded key → s.isLoaded key ∨ key ∈ declared
  loaded : ∀ a u, outcome = .ok a u → ∀ key ∈ declared, u.isLoaded key

section Tracking

variable {α β : Type} {s t u : Resolver} {declared later : List QualifiedName}
  {outcome : EStateM.Result Fault Resolver α}

theorem Tracks.of_unchanged (hsteps : DeclaringSteps s [] (Outcome.state outcome))
    (hrepository : (Outcome.state outcome).repository = s.repository)
    (hroots : (Outcome.state outcome).roots = s.roots)
    (hresolving : (Outcome.state outcome).resolving = s.resolving) : Tracks s [] outcome where
  steps := hsteps
  files := by
    rw [hrepository]
    exact ⟨rfl, rfl⟩
  grows key hkey := by rwa [isLoaded, hroots]
  resolving := hresolving
  nodup := List.nodup_nil
  fresh := by simp
  since key hkey := Or.inl (by rwa [isLoaded, hroots] at hkey)
  loaded := by simp

/-- A failure may count as the outcome of something else. -/
theorem Tracks.error {fault : Fault}
    (h : Tracks s declared (.error fault t : EStateM.Result Fault Resolver α)) :
    Tracks s declared (.error fault t : EStateM.Result Fault Resolver β) where
  steps := h.steps
  files := h.files
  grows := h.grows
  resolving := h.resolving
  nodup := h.nodup
  fresh := h.fresh
  since := h.since
  loaded _ _ hok := by cases hok

theorem Tracks.trans {a : α} {final : EStateM.Result Fault Resolver β}
    (h : Tracks s declared (.ok a u)) (hnext : Tracks u later final) :
    Tracks s (declared ++ later) final where
  steps := h.steps.trans hnext.steps
  files := h.files.trans hnext.files
  grows key hkey := hnext.grows key (h.grows key hkey)
  resolving := hnext.resolving.trans h.resolving
  nodup := by
    refine h.nodup.append hnext.nodup ?_
    intro key hkey hlater
    exact hnext.fresh key hlater (h.loaded a u rfl key hkey)
  fresh key hkey := by
    rcases List.mem_append.mp hkey with hkey | hkey
    · exact h.fresh key hkey
    · exact fun hloaded => hnext.fresh key hkey (h.grows key hloaded)
  since key hkey := by
    rw [List.mem_append, ← or_assoc]
    exact (hnext.since key hkey).imp_left (h.since key)
  loaded b v hok key hkey := by
    rcases List.mem_append.mp hkey with hkey | hkey
    · have hkept := hnext.grows key (h.loaded a u rfl key hkey)
      rwa [hok] at hkept
    · exact hnext.loaded b v hok key hkey

theorem Tracks.loadable_subset (h : Tracks s declared outcome) :
    (Outcome.state outcome).loadable ⊆ s.loadable := by
  rintro key ⟨hregular, hkey, hcontains, hfresh⟩
  rw [h.files.contains_eq] at hcontains
  exact ⟨hregular, hkey, hcontains, fun hloaded => hfresh (h.grows key hloaded)⟩

end Tracking

/-- An action has an evaluation from a state, with the outcome of the same action bounded in
depth. -/
def TracedAt {α : Type} (depth : Nat) (x : Loader → Loading α) (s : Resolver) : Prop :=
  ∃ declared, Evaluates (fun load => x load s) declared (x (loaderAt depth) s) ∧
    Tracks s declared (x (loaderAt depth) s)

/-- The depth that an action needs is at most the number of releases that can be loaded, as long as
`home` is. -/
def Traced (home : QualifiedName) (depth : Nat) ⦃α : Type⦄ (x : Loader → Loading α) : Prop :=
  ∀ s : Resolver, s.loadable.encard ≤ depth → s.isLoaded home → TracedAt depth x s

section Tracing

variable {depth : Nat} {home key q : QualifiedName} {α β : Type} {s : Resolver}

theorem tracedAt_of_unchanged {x : Loader → Loading α} {outcome : EStateM.Result Fault Resolver α}
    (hrun : ∀ load, x load s = outcome) (hsteps : DeclaringSteps s [] (Outcome.state outcome))
    (hrepository : (Outcome.state outcome).repository = s.repository)
    (hroots : (Outcome.state outcome).roots = s.roots)
    (hresolving : (Outcome.state outcome).resolving = s.resolving) : TracedAt depth x s := by
  unfold TracedAt
  simp only [hrun]
  exact ⟨[], .done fun _ => rfl, .of_unchanged hsteps hrepository hroots hresolving⟩

theorem TracedAt.bind {x : Loader → Loading α} {f : α → Loader → Loading β}
    (hx : TracedAt depth x s)
    (hf : ∀ a u, x (loaderAt depth) s = .ok a u → TracedAt depth (f a) u) :
    TracedAt depth (fun load => x load >>= fun a => f a load) s := by
  obtain ⟨declared, heval, htracks⟩ := hx
  -- What follows sees the outcome of `x` only, here as an action that ignores the state.
  have hafter : ∀ later final,
      Evaluates (fun load => EStateM.bind (fun _ => x (loaderAt depth) s) (fun a => f a load) s)
        later final →
      Evaluates (fun load => (x load >>= fun a => f a load) s) (declared ++ later) final :=
    fun later final => heval.andThen
      (fun load result => EStateM.bind (fun _ => result) (fun a => f a load) s)
      fun _ fault t => ⟨t, rfl⟩
  simp only [TracedAt]
  cases hrun : x (loaderAt depth) s with
  | error fault u =>
      rw [hrun] at htracks hafter
      rw [Outcome.bind_of_error hrun]
      refine ⟨declared ++ [], hafter [] _ (.done fun _ => rfl), ?_⟩
      rw [List.append_nil]
      exact htracks.error
  | ok a u =>
      rw [hrun] at htracks hafter
      obtain ⟨later, hlater, htracks'⟩ := hf a u hrun
      rw [Outcome.bind_of_ok hrun]
      exact ⟨declared ++ later, hafter later _ hlater, htracks.trans htracks'⟩

theorem Traced.bind {x : Loader → Loading α} {f : α → Loader → Loading β}
    (hx : Traced home depth x) (hf : ∀ a, Traced home depth (f a)) :
    Traced home depth fun load => x load >>= fun a => f a load := by
  intro s hroom hhome
  have htraced := hx s hroom hhome
  refine htraced.bind fun a u hrun => ?_
  obtain ⟨declared, -, htracks⟩ := htraced
  rw [hrun] at htracks
  exact hf a u ((Set.encard_le_encard htracks.loadable_subset).trans hroom)
    (htracks.grows home hhome)

theorem traced_closed (home : QualifiedName) (depth : Nat) : Closed (Traced home depth) where
  pure _ _ _ _ := tracedAt_of_unchanged (fun _ => rfl) .refl rfl rfl rfl
  throw _ _ _ _ := tracedAt_of_unchanged (fun _ => rfl) .refl rfl rfl rfl
  bind hx hf := hx.bind hf
  catalog hf _ s := hf s s
  setBody q body _ _ _ :=
    tracedAt_of_unchanged (fun _ => rfl) (.body q body .refl) rfl rfl rfl

/-! ### References -/

/-- Calling the loader for a release needs one level more than there are other releases that can
be loaded. -/
def LoadsWithin (depth : Nat) : Prop :=
  ∀ (key : QualifiedName) (s : Resolver), key.release = key →
    (s.loadable \ {key}).encard ≤ depth → TracedAt (depth + 1) (fun load => load key) s

/-- A lookup is settled by the state, or it loads a release that has a file and is not loaded. -/
theorem lookupWith_settled_or_loads (q : QualifiedName) (s : Resolver) :
    (∃ result, Outcome.state result = s ∧ ∀ load, lookupWith load q s = result) ∨
      ¬s.isLoaded q.release ∧ s.repository.contains q.release ∧ ∀ load, lookupWith load q s =
        (load q.release >>= fun _ => get >>= fun r => pure (r.catalog.ref q)) s := by
  unfold lookupWith
  simp only [Outcome.get_bind]
  by_cases hcontains : s.catalog.contains q
  · simp only [if_pos hcontains]
    exact Or.inl ⟨_, rfl, fun _ => rfl⟩
  by_cases hloaded : s.isLoaded q.release
  · simp only [if_neg hcontains, Outcome.get_bind, if_pos hloaded]
    exact Or.inl ⟨_, rfl, fun _ => rfl⟩
  simp only [if_neg hcontains, Outcome.get_bind, if_neg hloaded]
  cases hholds : s.repository.holds q.release with
  | error fault => exact Or.inl ⟨_, rfl, fun _ => rfl⟩
  | ok present =>
      cases present with
      | false => exact Or.inl ⟨_, rfl, fun _ => rfl⟩
      | true => exact Or.inr ⟨hloaded, (Repository.holds_eq_ok_iff.mp hholds).2, fun _ => rfl⟩

theorem lookupWith_traced (hloads : ∀ n, depth = n + 1 → LoadsWithin n)
    (hq : q.release = home ∨ q.Regular) :
    Traced home depth fun load => lookupWith load.nested q := by
  intro s hroom hhome
  rcases lookupWith_settled_or_loads q s with ⟨result, hstate, hrun⟩ | ⟨hfresh, hcontains, hrun⟩
  · have hsteps : DeclaringSteps s [] (Outcome.state result) := by
      rw [hstate]
      exact .refl
    exact tracedAt_of_unchanged (fun load => hrun load.nested) hsteps (by rw [hstate])
      (by rw [hstate]) (by rw [hstate])
  · have hregular : q.Regular := by
      refine hq.resolve_left fun heq => hfresh ?_
      rw [heq]
      exact hhome
    have hmem : q.release ∈ s.loadable := ⟨hregular.release, rfl, hcontains, hfresh⟩
    have hcount := Set.encard_sdiff_singleton_add_one hmem
    obtain ⟨n, rfl⟩ : ∃ n, depth = n + 1 := by
      refine Nat.exists_eq_succ_of_ne_zero fun hzero => ?_
      rw [← hcount, hzero] at hroom
      simp at hroom
    have hothers : (s.loadable \ {q.release}).encard ≤ n := by
      rw [← hcount, Nat.cast_add, Nat.cast_one] at hroom
      exact (ENat.add_le_add_iff_right ENat.one_ne_top).mp hroom
    have hnested : TracedAt (n + 1) (fun load => load.nested q.release) s :=
      (hloads n rfl q.release s rfl hothers).bind fun _ _ _ =>
        tracedAt_of_unchanged (fun _ => rfl) .refl rfl rfl rfl
    have hwhole := hnested.bind (f := fun _ _ => get >>= fun r => pure (r.catalog.ref q))
      fun _ _ _ => tracedAt_of_unchanged (fun _ => rfl) .refl rfl rfl rfl
    unfold TracedAt at hwhole ⊢
    simp only [hrun]
    exact hwhole

theorem whileResolving_traced {x : Loader → Loading Unit} (hx : Traced home depth x) :
    Traced home depth fun load => whileResolving (x load) := by
  intro s hroom hhome
  obtain ⟨declared, heval, htracks⟩ := hx { s with resolving := s.resolving + 1 } hroom hhome
  refine ⟨declared ++ [], heval.andThen (fun _ result => whileResolving (fun _ => result) s)
    (fun _ _ _ => ⟨_, rfl⟩) (.done fun _ => rfl), ?_⟩
  rw [List.append_nil]
  have hstart : DeclaringSteps s [] { s with resolving := s.resolving + 1 } :=
    .counts (s.resolving + 1) s.unchecked .refl
  simp only [whileResolving]
  cases hrun : x (loaderAt depth) { s with resolving := s.resolving + 1 } with
  | ok _ u =>
      rw [hrun] at htracks
      have hresolving : u.resolving - 1 = s.resolving := by
        rw [show u.resolving = s.resolving + 1 from htracks.resolving]
        rfl
      refine ⟨.counts (u.resolving - 1) u.unchecked (hstart.trans htracks.steps), htracks.files,
        htracks.grows, hresolving, htracks.nodup, htracks.fresh, htracks.since, ?_⟩
      rintro _ _ ⟨⟩
      exact htracks.loaded () u rfl
  | error fault u =>
      rw [hrun] at htracks
      have hresolving : u.resolving - 1 = s.resolving := by
        rw [show u.resolving = s.resolving + 1 from htracks.resolving]
        rfl
      refine ⟨.counts (u.resolving - 1) u.unchecked (hstart.trans htracks.steps), htracks.files,
        htracks.grows, hresolving, htracks.nodup, htracks.fresh, htracks.since, ?_⟩
      rintro _ _ ⟨⟩

theorem checkUnchecked_traced : Traced home depth fun _ => checkUnchecked := by
  intro s _ _
  have hstate : ∃ unchecked, Outcome.state (checkUnchecked s) = { s with unchecked } := by
    unfold checkUnchecked
    rw [Outcome.get_bind]
    by_cases hresolving : s.resolving = 0
    · refine ⟨[], ?_⟩
      rw [if_pos hresolving]
      cases checkChains s.catalog s.unchecked with
      | error chain => rfl
      | ok _ => rfl
    · rw [if_neg hresolving]
      exact ⟨s.unchecked, rfl⟩
  obtain ⟨unchecked, hstate⟩ := hstate
  have hsteps : DeclaringSteps s [] (Outcome.state (checkUnchecked s)) := by
    rw [hstate]
    exact .counts s.resolving unchecked .refl
  exact tracedAt_of_unchanged (fun _ => rfl) hsteps (by rw [hstate]) (by rw [hstate])
    (by rw [hstate])

/-! ### Releases -/

theorem resolveRelease_traced {pending : Pending} (names : List QualifiedName)
    (hloads : ∀ n, depth = n + 1 → LoadsWithin n)
    (hpending : ∀ entry ∈ pending, entry.1.release = home) :
    Traced home depth fun load => resolveRelease load.nested names pending := by
  have hclosed := traced_closed home depth
  have hasked : ∀ q, Asks pending q → q.release = home ∨ q.Regular := by
    rintro q ⟨entry, hentry, hrelease | ⟨written, -, text, -, hparse⟩⟩
    · exact Or.inl (hrelease.trans (hpending entry hentry))
    · exact Or.inr (QualifiedName.regular_of_parse hparse)
  have hresolve : Traced home depth fun load =>
      resolvePending (lookupWith load.nested) pending :=
    hclosed.resolvePending _ pending fun q hq => lookupWith_traced hloads (hasked q hq)
  unfold resolveRelease
  refine (whileResolving_traced hresolve).bind fun _ => ?_
  refine Traced.bind ?_ fun _ => checkUnchecked_traced.bind fun _ => hclosed.pure names
  exact fun s _ _ => tracedAt_of_unchanged (fun _ => rfl)
    (.counts s.resolving (s.unchecked ++ pending.map Prod.fst) .refl) rfl rfl rfl

/-- What is pending of a declared document belongs to its release. -/
theorem release_of_mem_pending {names : List QualifiedName} {pending : Pending} {t : Resolver}
    (hkey : key.release = key) (h : declareDocument key s = .ok (names, pending) t) :
    ∀ entry ∈ pending, entry.1.release = key := by
  obtain ⟨release, u, -, h⟩ := Outcome.bind_ok_iff.mp h
  cases htypes : release.types with
  | none =>
      rw [htypes] at h
      exact absurd h Outcome.throw_ne_ok
  | some definitions =>
      rw [htypes] at h
      obtain ⟨-, rfl, -⟩ := declareAll_ok definitions h
      intro entry hentry
      obtain ⟨inner, hinner, rfl⟩ := List.mem_map.mp hentry
      exact release_of_mem_entriesAll hkey hinner

/-- A call of the loader is an evaluation of what loading the release does. -/
theorem tracedAt_load {own : List QualifiedName} (hown : DeclaresOwn key s own)
    (inner : List QualifiedName)
    (heval : Evaluates (fun load => loadWith load.nested key s) inner
      (loadWith (loaderAt depth).nested key s))
    (htracks : Tracks s (own ++ inner) (loadWith (loaderAt depth).nested key s)) :
    TracedAt (depth + 1) (fun load => load key) s := by
  have hbounded : loaderAt (depth + 1) key s = loadWith (loaderAt depth).nested key s := by
    rw [loaderAt, loadAt_eq, nested_loaderAt]
  refine ⟨own ++ inner ++ [], .call (fun _ result => result) (fun _ => rfl)
    (fun _ _ t => ⟨t, rfl⟩) hown heval (.done fun _ => ?_), ?_⟩
  · exact hbounded.symm
  · rw [List.append_nil]
    dsimp only
    rw [hbounded]
    exact htracks

/-- A release whose declaration was started is loaded once it is opened. -/
theorem Enters.tracks_opened {t : Resolver} {names : List QualifiedName} {pending : Pending}
    (h : Enters key s t) (hfresh : ¬s.isLoaded key)
    (hdeclare : declareDocument key s = .ok (names, pending) t) :
    Tracks s [key] (.ok () { t with roots := t.roots ++ [(key, names)] } :
      EStateM.Result Fault Resolver Unit) where
  steps := .opened .refl hdeclare
  files := h.files
  grows other hother := by
    rw [isLoaded_iff] at hother ⊢
    simp only [Outcome.state, h.roots, List.map_append]
    exact List.mem_append_left _ hother
  resolving := h.resolving
  nodup := List.nodup_singleton key
  fresh other hother := by rwa [List.mem_singleton.mp hother]
  since other hother := by
    rw [isLoaded_iff] at hother ⊢
    simpa only [Outcome.state, h.roots, List.map_append, List.map_singleton, List.mem_append]
      using hother
  loaded _ u hok other hother := by
    cases hok
    rw [List.mem_singleton.mp hother, isLoaded_iff, List.map_append]
    exact List.mem_append_right _ (List.mem_singleton_self key)

theorem Enters.tracks_refused {t : Resolver} {fault : Fault} (h : Enters key s t)
    (hfresh : ¬s.isLoaded key) (hdeclare : declareDocument key s = .error fault t) :
    Tracks s [key] (.error fault t : EStateM.Result Fault Resolver α) where
  steps := .refused .refl hdeclare
  files := h.files
  grows other hother := by rwa [Outcome.state, isLoaded, h.roots]
  resolving := h.resolving
  nodup := List.nodup_singleton key
  fresh other hother := by rwa [List.mem_singleton.mp hother]
  since other hother := Or.inl (by rwa [Outcome.state, isLoaded, h.roots] at hother)
  loaded _ _ hok := by cases hok

theorem loadsWithin_of_smaller (hloads : ∀ n, depth = n + 1 → LoadsWithin n) :
    LoadsWithin depth := by
  intro key s hkey hroom
  cases hlookup : s.roots.lookup key with
  | some names =>
      have hrun : ∀ load, loadWith load key s = .ok names s := fun _ => loadWith_of_loaded hlookup
      refine tracedAt_load (.known hrun) [] (.done fun load => ?_) ?_
      · rw [hrun, hrun]
      · rw [hrun]
        exact .of_unchanged .refl rfl rfl rfl
  | none =>
      have hfresh : ¬s.isLoaded key := by simp [isLoaded, hlookup]
      have henters := declareDocument_enters hkey s
      cases hdeclare : declareDocument key s with
      | error fault t =>
          have hrun : ∀ load, loadWith load key s = .error fault t :=
            fun _ => loadWith_of_refused hlookup hdeclare
          rw [hdeclare] at henters
          refine tracedAt_load (.refused hdeclare hrun) [] (.done fun load => ?_) ?_
          · rw [hrun, hrun]
          · rw [hrun]
            exact henters.tracks_refused hfresh hdeclare
      | ok found t =>
          obtain ⟨names, pending⟩ := found
          have hrun : ∀ load, loadWith load key s = resolveRelease load names pending
              { t with roots := t.roots ++ [(key, names)] } :=
            fun _ => loadWith_of_opened hlookup hdeclare
          rw [hdeclare] at henters
          have hopened := henters.tracks_opened hfresh hdeclare
          have hhome := hopened.loaded _ _ rfl key (List.mem_singleton_self key)
          -- The release itself can no longer be loaded, so the bound on the others is enough.
          have hsubset := Set.subset_sdiff_singleton hopened.loadable_subset
            fun hmem => hmem.2.2.2 hhome
          obtain ⟨inner, heval, htracks⟩ := resolveRelease_traced names hloads
            (release_of_mem_pending hkey hdeclare) _ ((Set.encard_le_encard hsubset).trans hroom)
            hhome
          refine tracedAt_load (.opened hdeclare hrun) inner ?_ ?_
          · simp only [hrun]
            exact heval
          · rw [hrun]
            exact hopened.trans htracks

theorem loadsWithin (depth : Nat) : LoadsWithin depth := by
  induction depth with
  | zero => exact loadsWithin_of_smaller fun n hn => absurd hn.symm n.succ_ne_zero
  | succ depth ih =>
      refine loadsWithin_of_smaller fun n hn => ?_
      rwa [← Nat.succ.inj hn]

end Tracing

/-- Loading a release ends from every state, in which other releases may be loaded or half loaded,
also where releases name each other: it has an evaluation without a bound on the depth, and no
evaluation has another outcome. The evaluation declares the documents of the listed releases, and so
do the steps from the state before it to the state after it. No release is listed twice, and none
that was loaded; what is loaded since is listed, and if nothing failed then all that is listed is
loaded. The count of releases being resolved is what it was, also after a failure. -/
theorem loadRelease_terminates_declaring_once (s : Resolver) (q : QualifiedName) :
    (∃ declared, Evaluates (fun load => load q.release s) declared (loadRelease q s) ∧
      DeclaringSteps s declared (Outcome.state (loadRelease q s)) ∧
      declared.Nodup ∧ (∀ key ∈ declared, ¬s.isLoaded key) ∧
      (∀ key, (Outcome.state (loadRelease q s)).isLoaded key → s.isLoaded key ∨ key ∈ declared) ∧
      ∀ names t, loadRelease q s = .ok names t → ∀ key ∈ declared, t.isLoaded key) ∧
    (∀ declared outcome, Evaluates (fun load => load q.release s) declared outcome →
      outcome = loadRelease q s) ∧
    (Outcome.state (loadRelease q s)).resolving = s.resolving := by
  have hroom : (s.loadable \ {q.release}).encard ≤ s.repository.disk.size :=
    (Set.encard_le_encard Set.sdiff_subset).trans s.encard_loadable_le
  have hrun : loaderAt (s.repository.disk.size + 1) q.release s = loadRelease q s := by
    rw [loaderAt, loadRelease, Outcome.get_bind]
  obtain ⟨declared, heval, htracks⟩ := loadsWithin _ q.release s rfl hroom
  dsimp only at heval htracks
  rw [hrun] at heval htracks
  refine ⟨⟨declared, heval, htracks.steps, htracks.nodup, htracks.fresh, htracks.since,
    htracks.loaded⟩, fun others outcome hother => ?_, htracks.resolving⟩
  obtain ⟨depth, hdepth⟩ := heval.exists_depth
  obtain ⟨depth', hdepth'⟩ := hother.exists_depth
  rw [← hdepth (max depth depth') (le_max_left _ _), hdepth' _ (le_max_right _ _)]

/-- Two releases that name each other are both declared, once each, by loading one of them. -/
theorem loadRelease_declares_mutualReleases :
    ∃ declared, DeclaringSteps { repository := mutualReleases } declared
        (Outcome.state (loadRelease ⟨"p", ⟨1, 0⟩, some "T", []⟩ { repository := mutualReleases })) ∧
      declared.Perm [⟨"p", ⟨1, 0⟩, some "", []⟩, ⟨"q", ⟨1, 0⟩, some "", []⟩] := by
  obtain ⟨⟨declared, -, hsteps, hnodup, -, hsince, hloaded⟩, -, -⟩ :=
    loadRelease_terminates_declaring_once { repository := mutualReleases }
      ⟨"p", ⟨1, 0⟩, some "T", []⟩
  refine ⟨declared, hsteps, (List.perm_ext_iff_of_nodup hnodup (by decide)).mpr fun key => ?_⟩
  have hrun : Outcome.view (fun _ t => t.roots.map Prod.fst)
      (loadRelease ⟨"p", ⟨1, 0⟩, some "T", []⟩ { repository := mutualReleases }) =
      some [⟨"p", ⟨1, 0⟩, some "", []⟩, ⟨"q", ⟨1, 0⟩, some "", []⟩] := by
    decide +kernel
  obtain ⟨names, t, hresult, hroots⟩ := Outcome.of_view hrun
  rw [← hroots, ← isLoaded_iff]
  constructor
  · exact hloaded names t hresult key
  · intro hkey
    rw [hresult] at hsince
    exact (hsince key hkey).resolve_left (by simp [isLoaded])

end Resolver

end HalBridge
