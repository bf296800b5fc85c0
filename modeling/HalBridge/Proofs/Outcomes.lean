import HalBridge.Resolver.Loading
import Mathlib.Data.List.Forall2

/-!
# Outcomes of actions

An action that keeps a state ends with a value or with a fault, and with a state in both cases.
These lemmas take an outcome of a sequence apart into the outcomes of its parts, so that no proof
about loading has to open the definition of a sequence.
-/

namespace HalBridge.Outcome

variable {ε σ α β : Type} {x : EStateM ε σ α} {f : α → EStateM ε σ β} {s t : σ}

/-- The state that an action ends in, with a value or with a fault. -/
def state : EStateM.Result ε σ α → σ
  | .ok _ s => s
  | .error _ s => s

/-- The value or the fault that an action ends with. -/
def answer : EStateM.Result ε σ α → Except ε α
  | .ok a _ => .ok a
  | .error e _ => .error e

/-- What is seen of the value and of the state of an action that returns. -/
def view (g : α → σ → β) : EStateM.Result ε σ α → Option β
  | .ok a s => some (g a s)
  | .error _ _ => none

theorem of_view {result : EStateM.Result ε σ α} {g : α → σ → β} {b : β}
    (h : view g result = some b) : ∃ a u, result = .ok a u ∧ g a u = b := by
  cases result with
  | ok a u => exact ⟨a, u, rfl, Option.some.inj h⟩
  | error e u => cases h

theorem of_view_none {result : EStateM.Result ε σ α} {g : α → σ → β} (h : view g result = none) :
    ∃ e u, result = .error e u := by
  cases result with
  | ok a u => cases h
  | error e u => exact ⟨e, u, rfl⟩

theorem view_of_answer {result other : EStateM.Result ε σ α} {g : α → β}
    (h : answer result = answer other) :
    view (fun a _ => g a) result = view (fun a _ => g a) other := by
  cases result with
  | ok a u =>
      cases other with
      | ok b v => rw [view, view, Except.ok.inj h]
      | error e v => cases h
  | error e u =>
      cases other with
      | ok b v => cases h
      | error e' v => rfl

theorem bind_ok_iff {b : β} :
    (x >>= f) s = .ok b t ↔ ∃ a u, x s = .ok a u ∧ f a u = .ok b t := by
  change EStateM.bind x f s = _ ↔ _
  unfold EStateM.bind
  cases x s with
  | ok a u => simp [and_assoc]
  | error e u => simp

theorem bind_error_iff {e : ε} :
    (x >>= f) s = .error e t ↔ x s = .error e t ∨ ∃ a u, x s = .ok a u ∧ f a u = .error e t := by
  change EStateM.bind x f s = _ ↔ _
  unfold EStateM.bind
  cases x s with
  | ok a u => simp [and_assoc]
  | error e u => simp

theorem bind_of_ok {a : α} {u : σ} (h : x s = .ok a u) : (x >>= f) s = f a u := by
  change EStateM.bind x f s = _
  unfold EStateM.bind
  rw [h]

theorem bind_of_error {e : ε} {u : σ} (h : x s = .error e u) : (x >>= f) s = .error e u :=
  bind_error_iff.mpr (Or.inl h)

theorem bind_returns {a : α} {u : σ} (hx : x s = .ok a u) (hf : ∃ b t, f a u = .ok b t) :
    ∃ b t, (x >>= f) s = .ok b t := by
  obtain ⟨b, t, hf⟩ := hf
  exact ⟨b, t, bind_ok_iff.mpr ⟨a, u, hx, hf⟩⟩

theorem pure_ok_iff {a b : α} :
    (pure a : EStateM ε σ α) s = .ok b t ↔ a = b ∧ s = t := by
  change EStateM.Result.ok a s = _ ↔ _
  simp

theorem pure_ne_error {a : α} {e : ε} : (pure a : EStateM ε σ α) s ≠ .error e t := by
  change EStateM.Result.ok a s ≠ _
  simp

theorem throw_ne_ok {e : ε} {a : α} : (throw e : EStateM ε σ α) s ≠ .ok a t := by
  change EStateM.Result.error e s ≠ _
  simp

theorem throw_error_iff {e e' : ε} :
    (throw e : EStateM ε σ α) s = .error e' t ↔ e = e' ∧ s = t := by
  change EStateM.Result.error e s = _ ↔ _
  simp

theorem get_bind {g : σ → EStateM ε σ β} : (get >>= g) s = g s s := rfl

theorem modify_bind {change : σ → σ} {g : PUnit → EStateM ε σ β} :
    (modify change >>= g) s = g ⟨⟩ (change s) := rfl

theorem modifyCatalog_eq {change : Catalog → Catalog} {resolver : Resolver} :
    Resolver.modifyCatalog change resolver =
      .ok () { resolver with catalog := change resolver.catalog } := rfl

/-! ### Actions without a state -/

theorem except_bind_ok_iff {y : Except ε α} {g : α → Except ε β} {b : β} :
    y >>= g = .ok b ↔ ∃ a, y = .ok a ∧ g a = .ok b := by
  cases y with
  | ok a => simp [bind, Except.bind]
  | error e => simp [bind, Except.bind]

theorem except_bind_error_iff {y : Except ε α} {g : α → Except ε β} {e : ε} :
    y >>= g = .error e ↔ y = .error e ∨ ∃ a, y = .ok a ∧ g a = .error e := by
  cases y with
  | ok a => simp [bind, Except.bind]
  | error e' => simp [bind, Except.bind]

theorem except_map_ok_iff {y : Except ε α} {g : α → β} {b : β} :
    y.map g = .ok b ↔ ∃ a, y = .ok a ∧ g a = b := by
  cases y with
  | ok a => simp [Except.map]
  | error e => simp [Except.map]

theorem mapM_ok {g : α → Except ε β} {list : List α} (h : ∀ a ∈ list, ∃ b, g a = .ok b) :
    ∃ found, list.mapM g = .ok found := by
  induction list with
  | nil => exact ⟨[], rfl⟩
  | cons a rest ih =>
      obtain ⟨b, hb⟩ := h a List.mem_cons_self
      obtain ⟨others, hothers⟩ := ih fun other hother => h other (List.mem_cons_of_mem _ hother)
      rw [List.mapM_cons, hb, hothers]
      exact ⟨_, rfl⟩

theorem forall₂_of_mapM {g : α → Except ε β} {list : List α} {found : List β}
    (h : list.mapM g = .ok found) : List.Forall₂ (fun a b => g a = .ok b) list found := by
  induction list generalizing found with
  | nil =>
      obtain rfl : [] = found := Except.ok.inj h
      exact .nil
  | cons a rest ih =>
      rw [List.mapM_cons] at h
      obtain ⟨b, hb, h⟩ := except_bind_ok_iff.mp h
      obtain ⟨others, hothers, h⟩ := except_bind_ok_iff.mp h
      obtain rfl : b :: others = found := Except.ok.inj h
      exact .cons hb (ih hothers)

theorem mapM_of_forall₂ {g : α → Except ε β} {list : List α} {found : List β}
    (h : List.Forall₂ (fun a b => g a = .ok b) list found) : list.mapM g = .ok found := by
  induction h with
  | nil => rfl
  | cons hfirst _ ih =>
      rw [List.mapM_cons, hfirst, ih]
      rfl

theorem error_of_mapM {g : α → Except ε β} {list : List α} {e : ε}
    (h : list.mapM g = .error e) : ∃ a ∈ list, g a = .error e := by
  induction list with
  | nil => cases h
  | cons a rest ih =>
      rw [List.mapM_cons] at h
      rcases except_bind_error_iff.mp h with hfirst | ⟨b, -, h⟩
      · exact ⟨a, List.mem_cons_self, hfirst⟩
      · rcases except_bind_error_iff.mp h with hrest | ⟨others, -, h⟩
        · obtain ⟨other, hother, herror⟩ := ih hrest
          exact ⟨other, List.mem_cons_of_mem _ hother, herror⟩
        · cases h

theorem exists_of_forall₂ {R : α → β → Prop} {list : List α} {found : List β} {a : α}
    (h : List.Forall₂ R list found) (ha : a ∈ list) : ∃ b ∈ found, R a b := by
  induction h with
  | nil => exact absurd ha List.not_mem_nil
  | cons hfirst _ ih =>
      rcases List.mem_cons.mp ha with rfl | ha
      · exact ⟨_, List.mem_cons_self, hfirst⟩
      · obtain ⟨b, hb, hrelated⟩ := ih ha
        exact ⟨b, List.mem_cons_of_mem _ hb, hrelated⟩

theorem mem_of_forall₂ {R : α → β → Prop} {list : List α} {found : List β} {b : β}
    (h : List.Forall₂ R list found) (hb : b ∈ found) : ∃ a ∈ list, R a b :=
  exists_of_forall₂ (R := fun b a => R a b) (List.Forall₂.flip h) hb

theorem mem_of_mapM {g : α → Except ε β} {list : List α} {found : List β} {b : β}
    (h : list.mapM g = .ok found) (hb : b ∈ found) : ∃ a ∈ list, g a = .ok b :=
  mem_of_forall₂ (R := fun a b => g a = .ok b) (forall₂_of_mapM h) hb

theorem mapM_mem {g : α → Except ε β} {list : List α} {found : List β} {a : α}
    (h : list.mapM g = .ok found) (ha : a ∈ list) : ∃ b ∈ found, g a = .ok b :=
  exists_of_forall₂ (R := fun a b => g a = .ok b) (forall₂_of_mapM h) ha

theorem foldlM_ok {g : β → α → Except ε β} {list : List α} {start : β}
    (h : ∀ b a, ∃ next, g b a = .ok next) : ∃ final, list.foldlM g start = .ok final := by
  induction list generalizing start with
  | nil => exact ⟨start, rfl⟩
  | cons a rest ih =>
      obtain ⟨next, hnext⟩ := h start a
      rw [List.foldlM_cons, hnext]
      exact ih

end HalBridge.Outcome
