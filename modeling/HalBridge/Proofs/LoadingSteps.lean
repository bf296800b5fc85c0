import HalBridge.Proofs.ResolverWellFormed
import HalBridge.Proofs.TwinLoading
import Mathlib.Logic.Relation

/-!
# The steps of loading

What loading does to a state, said once for all outcomes. A release is opened when all types of its
document are declared, or refused where declaring them fails, which leaves those that were declared
before. Apart from this only bodies of declarations and the counts change. Every call is a sequence
of such steps, also a call that fails, so that what every step keeps is kept by all calls.
-/

namespace HalBridge.Resolver

open Document

/-- Reads the document of a release and declares its types. -/
def declareDocument (key : QualifiedName) : Loading (List QualifiedName × Pending) := do
  let release ← document key
  match release.types with
  | none => throw .absentList
  | some definitions => declareAll key [] definitions

/-- What can happen to a state while releases are loaded. -/
inductive Step : Resolver → Resolver → Prop
  | counts (s : Resolver) (resolving : Nat) (unchecked : List QualifiedName) :
      Step s { s with resolving, unchecked }
  | body (s : Resolver) (q : QualifiedName) (body : Body) :
      Step s { s with catalog := s.catalog.update q fun decl => { decl with body } }
  | opened {s t : Resolver} {key : QualifiedName} {names : List QualifiedName} {pending : Pending}
      (hkey : key.release = key) (hfresh : s.roots.lookup key = none)
      (h : declareDocument key s = .ok (names, pending) t) :
      Step s { t with roots := t.roots ++ [(key, names)] }
  | refused {s t : Resolver} {key : QualifiedName} {fault : Fault}
      (hkey : key.release = key) (hfresh : s.roots.lookup key = none)
      (h : declareDocument key s = .error fault t) : Step s t

abbrev Steps : Resolver → Resolver → Prop :=
  Relation.ReflTransGen Step

/-- An action is a sequence of steps, whatever its outcome. -/
def Runs {α : Type} (x : Loading α) : Prop :=
  ∀ s, Steps s (Outcome.state (x s))

variable {α β : Type} {x : Loading α} {f : α → Loading β} {s t : Resolver}
  {key q : QualifiedName}

theorem runs_pure (a : α) : Runs (pure a) :=
  fun _ => .refl

theorem runs_throw (fault : Fault) : Runs (throw fault : Loading α) :=
  fun _ => .refl

theorem runs_get_bind {f : Resolver → Loading β} (h : ∀ r, Runs (f r)) : Runs (get >>= f) :=
  fun s => h s s

/-- The first part of a sequence is a sequence of steps from one state, and the rest from all. -/
theorem steps_bind (hx : Steps s (Outcome.state (x s))) (hf : ∀ a, Runs (f a)) :
    Steps s (Outcome.state ((x >>= f) s)) := by
  cases hrun : x s with
  | ok a u =>
      rw [hrun] at hx
      rw [Outcome.bind_of_ok hrun]
      exact hx.trans (hf a u)
  | error fault u =>
      rw [hrun] at hx
      rw [Outcome.bind_of_error hrun]
      exact hx

theorem Runs.bind (hx : Runs x) (hf : ∀ a, Runs (f a)) : Runs (x >>= f) :=
  fun s => steps_bind (hx s) hf

theorem runs_closed : Closed fun ⦃α⦄ (x : Unit → Loading α) => Runs (x ()) where
  pure := runs_pure
  throw := runs_throw
  bind := Runs.bind
  catalog hf _ := runs_get_bind hf
  setBody q body s := .single (.body s q body)

/-! ### Releases -/

section Releases

variable {load : QualifiedName → Loading Unit} (hload : ∀ q : QualifiedName, Runs (load q.release))

include hload in
theorem lookupWith_runs (q : QualifiedName) : Runs (lookupWith load q) := by
  unfold lookupWith
  refine runs_get_bind fun r => ?_
  split
  · exact runs_pure _
  · refine runs_get_bind fun r => ?_
    split
    · exact runs_pure _
    · split
      · exact runs_throw _
      · exact runs_pure _
      · exact (hload q).bind fun _ => runs_get_bind fun _ => runs_pure _

theorem whileResolving_runs {x : Loading Unit} (hx : Runs x) : Runs (whileResolving x) := by
  intro s
  have hsteps := hx { s with resolving := s.resolving + 1 }
  have hfirst : Steps s { s with resolving := s.resolving + 1 } :=
    .single (.counts s (s.resolving + 1) s.unchecked)
  unfold whileResolving
  cases hrun : x { s with resolving := s.resolving + 1 } with
  | ok _ u =>
      rw [hrun] at hsteps
      exact (hfirst.trans hsteps).tail (.counts u (u.resolving - 1) u.unchecked)
  | error fault u =>
      rw [hrun] at hsteps
      exact (hfirst.trans hsteps).tail (.counts u (u.resolving - 1) u.unchecked)

theorem checkUnchecked_runs : Runs checkUnchecked := by
  intro s
  unfold checkUnchecked
  rw [Outcome.get_bind]
  split
  · refine steps_bind (.single (.counts s s.resolving [])) fun _ => ?_
    split
    · exact runs_throw _
    · exact runs_pure _
  · exact .refl

include hload in
theorem resolveRelease_runs (names : List QualifiedName) (pending : Pending) :
    Runs (resolveRelease load names pending) := by
  unfold resolveRelease
  have hpending : Runs (resolvePending (lookupWith load) pending) :=
    runs_closed.resolvePending (fun _ => lookupWith load) pending fun q _ => lookupWith_runs hload q
  refine (whileResolving_runs hpending).bind fun _ => ?_
  refine Runs.bind ?_ fun _ => checkUnchecked_runs.bind fun _ => runs_pure _
  exact fun s => .single (.counts s s.resolving (s.unchecked ++ pending.map Prod.fst))

theorem loadWith_of_loaded {names : List QualifiedName} (h : s.roots.lookup key = some names) :
    loadWith load key s = .ok names s := by
  rw [loadWith_eq, Outcome.get_bind, h]
  rfl

theorem loadWith_of_fresh (h : s.roots.lookup key = none) :
    loadWith load key s = (declareDocument key >>= fun declared => do
      modify fun resolver => { resolver with roots := resolver.roots ++ [(key, declared.1)] }
      resolveRelease load declared.1 declared.2) s := by
  rw [loadWith_eq, Outcome.get_bind, h, declareDocument, bind_assoc]
  refine congrArg (fun next => (document key >>= next) s) ?_
  funext release
  unfold declareRelease
  cases release.types with
  | none => rfl
  | some definitions => rfl

theorem loadWith_of_refused {fault : Fault} (hfresh : s.roots.lookup key = none)
    (h : declareDocument key s = .error fault t) : loadWith load key s = .error fault t := by
  rw [loadWith_of_fresh hfresh, Outcome.bind_of_error h]

theorem loadWith_of_opened {names : List QualifiedName} {pending : Pending}
    (hfresh : s.roots.lookup key = none) (h : declareDocument key s = .ok (names, pending) t) :
    loadWith load key s =
      resolveRelease load names pending { t with roots := t.roots ++ [(key, names)] } := by
  rw [loadWith_of_fresh hfresh, Outcome.bind_of_ok h, Outcome.modify_bind]

include hload in
theorem loadWith_runs (q : QualifiedName) : Runs (loadWith load q.release) := by
  intro s
  cases hlookup : s.roots.lookup q.release with
  | some names =>
      rw [loadWith_of_loaded hlookup]
      exact .refl
  | none =>
      cases hdeclare : declareDocument q.release s with
      | error fault t =>
          rw [loadWith_of_refused hlookup hdeclare]
          exact .single (.refused rfl hlookup hdeclare)
      | ok declared t =>
          rw [loadWith_of_opened hlookup hdeclare]
          exact .head (.opened rfl hlookup hdeclare) (resolveRelease_runs hload _ _ _)

end Releases

theorem loadInside_runs (depth : Nat) (q : QualifiedName) : Runs (loadInside depth q.release) := by
  induction depth generalizing q with
  | zero => exact runs_pure ()
  | succ depth ih =>
      rw [loadInside, loadAt_eq]
      exact (loadWith_runs ih q).bind fun _ => runs_pure ()

theorem loadRelease_eq (q : QualifiedName) (s : Resolver) :
    loadRelease q s = loadWith (loadInside s.repository.disk.size) q.release s := by
  rw [loadRelease, Outcome.get_bind, loadAt_eq]

theorem loadRelease_runs (q : QualifiedName) : Runs (loadRelease q) := by
  intro s
  rw [loadRelease_eq]
  exact loadWith_runs (loadInside_runs _) q s

theorem lookup_runs (q : QualifiedName) : Runs (lookup q) :=
  lookupWith_runs (fun key => (loadRelease_runs key.release).bind fun _ => runs_pure ()) q

/-! ### Calls -/

theorem perform_runs (call : Call) : Runs (perform call) := by
  cases call with
  | release q => exact (loadRelease_runs q).bind fun _ => runs_pure ()
  | type q => exact (lookup_runs q).bind fun _ => runs_pure ()

/-- The state after some calls. A call that fails leaves what it has done, and the calls after it
are still made. -/
def afterCalls (calls : List Call) (s : Resolver) : Resolver :=
  calls.foldl (fun s call => Outcome.state (perform call s)) s

theorem afterCalls_steps (calls : List Call) (s : Resolver) : Steps s (afterCalls calls s) := by
  induction calls generalizing s with
  | nil => exact .refl
  | cons call rest ih => exact (perform_runs call s).trans (ih _)

end HalBridge.Resolver
