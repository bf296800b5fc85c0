import HalBridge.Proofs.FirstOccurrences
import HalBridge.Version
import Mathlib.Data.List.Nodup

/-!
# The newest of each key

Fields of one name and types of one lineage are kept in the same way: the first of a key is added
at the end, and a later one takes the place of the kept one unless it is older. `Keeps` says what
one offer does, and `KeptNewest`, which every offer preserves, what is left of all of them.
-/

namespace HalBridge

variable {α κ : Type}

/-- `x` is the newest of its key among `offered`, and the last of them if several are. -/
def LastNewest (key : α → κ) (version : α → Version) (offered : List α) (x : α) : Prop :=
  ∃ before after, offered = before ++ x :: after ∧
    (∀ y ∈ before, key y = key x → version y ≤ version x) ∧
    (∀ y ∈ after, key y = key x → ¬version x ≤ version y)

/-- What the offer of `x` makes of `kept`. -/
inductive Keeps (key : α → κ) (version : α → Version) (x : α) (kept : List α) : List α → Prop
  | added (hnew : key x ∉ kept.map key) : Keeps key version x kept (kept ++ [x])
  | replaced {front back : List α} {old : α} (hkept : kept = front ++ old :: back)
      (hkey : key x = key old) (hle : version old ≤ version x) :
      Keeps key version x kept (front ++ x :: back)
  | refused {old : α} (hold : old ∈ kept) (hkey : key x = key old)
      (hle : ¬version old ≤ version x) : Keeps key version x kept kept

/-- `kept` has the newest of each key among `offered`, in the order in which the keys came up. -/
structure KeptNewest [DecidableEq κ] (key : α → κ) (version : α → Version)
    (offered kept : List α) : Prop where
  keys : FirstOccurrences (offered.map key) (kept.map key)
  newest : ∀ x ∈ kept, LastNewest key version offered x

variable {key : α → κ} {version : α → Version} {offered kept kept' : List α} {x y : α}

namespace LastNewest

theorem mem (h : LastNewest key version offered x) : x ∈ offered := by
  obtain ⟨before, after, rfl, -⟩ := h
  exact List.mem_append_right _ List.mem_cons_self

theorem version_le (h : LastNewest key version offered x) (hy : y ∈ offered)
    (hkey : key y = key x) : version y ≤ version x := by
  obtain ⟨before, after, rfl, hbefore, hafter⟩ := h
  rcases List.mem_append.mp hy with hmem | hmem
  · exact hbefore y hmem hkey
  · rcases List.mem_cons.mp hmem with rfl | hmem
    · exact Version.le_refl _
    · exact Version.le_of_not_le (hafter y hmem hkey)

theorem append_of_older (h : LastNewest key version offered x)
    (hy : key y = key x → ¬version x ≤ version y) :
    LastNewest key version (offered ++ [y]) x := by
  obtain ⟨before, after, rfl, hbefore, hafter⟩ := h
  refine ⟨before, after ++ [y], by simp, hbefore, ?_⟩
  intro later hlater
  rcases List.mem_append.mp hlater with hmem | hmem
  · exact hafter later hmem
  · rw [List.mem_singleton.mp hmem]
    exact hy

theorem append_last (h : ∀ y ∈ offered, key y = key x → version y ≤ version x) :
    LastNewest key version (offered ++ [x]) x :=
  ⟨offered, [], rfl, h, by simp⟩

/-- Of one key there is one such entry. -/
theorem unique (h : LastNewest key version offered x) (h' : LastNewest key version offered y)
    (hkey : key x = key y) : x = y := by
  have hxy := h'.version_le h.mem hkey
  have hyx := h.version_le h'.mem hkey.symm
  obtain ⟨before, after, hoffered, -, hafter⟩ := h
  obtain ⟨before', after', hoffered', -, hafter'⟩ := h'
  rcases List.append_eq_append_iff.mp (hoffered.symm.trans hoffered') with
    ⟨between, -, hrest⟩ | ⟨between, -, hrest⟩
  · cases between with
    | nil => exact (List.cons.inj hrest).1
    | cons first between =>
        have hy : y ∈ after := by
          rw [(List.cons.inj hrest).2]
          exact List.mem_append_right _ List.mem_cons_self
        exact absurd hxy (hafter y hy hkey.symm)
  · cases between with
    | nil => exact (List.cons.inj hrest).1.symm
    | cons first between =>
        have hx : x ∈ after' := by
          rw [(List.cons.inj hrest).2]
          exact List.mem_append_right _ List.mem_cons_self
        exact absurd hyx (hafter' x hx hkey)

end LastNewest

namespace KeptNewest

variable [DecidableEq κ]

theorem nil : KeptNewest key version [] [] :=
  ⟨.nil, by simp⟩

/-- What is kept of other keys stays the newest of its key. -/
theorem newest_of_ne (h : KeptNewest key version offered kept) (hy : y ∈ kept)
    (hkey : key x ≠ key y) : LastNewest key version (offered ++ [x]) y :=
  (h.newest y hy).append_of_older fun hsame => absurd hsame hkey

/-- The first of its key is added. -/
theorem add (h : KeptNewest key version offered kept) (hnew : key x ∉ kept.map key) :
    KeptNewest key version (offered ++ [x]) (kept ++ [x]) := by
  constructor
  · rw [List.map_append, List.map_append, List.map_singleton]
    exact h.keys.append_of_not_mem hnew
  · intro y hy
    rcases List.mem_append.mp hy with hy | hy
    · exact h.newest_of_ne hy fun hsame => hnew (hsame ▸ List.mem_map_of_mem hy)
    · rw [List.mem_singleton.mp hy]
      refine .append_last fun other hother hsame => absurd ?_ hnew
      rw [h.keys.mem_iff, ← hsame]
      exact List.mem_map_of_mem hother

/-- One that is not older takes the place of the kept one. -/
theorem replace {front back : List α} {old : α}
    (h : KeptNewest key version offered (front ++ old :: back)) (hkey : key x = key old)
    (hle : version old ≤ version x) :
    KeptNewest key version (offered ++ [x]) (front ++ x :: back) := by
  have hkeys : (front ++ x :: back).map key = (front ++ old :: back).map key := by
    simp [hkey]
  have hold : old ∈ front ++ old :: back := List.mem_append_right _ List.mem_cons_self
  constructor
  · rw [hkeys, List.map_append, List.map_singleton, hkey]
    exact h.keys.append_of_mem (List.mem_map_of_mem hold)
  · intro y hy
    rcases List.mem_cons.mp (List.perm_middle.mem_iff.mp hy) with rfl | hy
    · refine .append_last fun other hother hsame => ?_
      exact Version.le_trans ((h.newest old hold).version_le hother (hsame.trans hkey)) hle
    · -- No other entry has the key, since each key is kept once.
      have hnodup := h.keys.nodup
      rw [List.map_append, List.map_cons, List.nodup_middle, List.nodup_cons,
        ← List.map_append] at hnodup
      refine h.newest_of_ne (List.perm_middle.mem_iff.mpr (List.mem_cons_of_mem _ hy)) ?_
      intro hsame
      exact hnodup.1 (hkey ▸ hsame ▸ List.mem_map_of_mem hy)

/-- One that is older leaves the kept ones as they are. -/
theorem refuse {old : α} (h : KeptNewest key version offered kept) (hold : old ∈ kept)
    (hkey : key x = key old) (hle : ¬version old ≤ version x) :
    KeptNewest key version (offered ++ [x]) kept := by
  constructor
  · rw [List.map_append, List.map_singleton, hkey]
    exact h.keys.append_of_mem (List.mem_map_of_mem hold)
  · intro y hy
    by_cases hsame : key x = key y
    · have heq : old = y := List.inj_on_of_nodup_map h.keys.nodup hold hy (hkey.symm.trans hsame)
      exact (h.newest y hy).append_of_older fun _ => heq ▸ hle
    · exact h.newest_of_ne hy hsame

theorem offer (h : KeptNewest key version offered kept) (hx : Keeps key version x kept kept') :
    KeptNewest key version (offered ++ [x]) kept' := by
  cases hx with
  | added hnew => exact h.add hnew
  | replaced hkept hkey hle =>
      subst hkept
      exact h.replace hkey hle
  | refused hold hkey hle => exact h.refuse hold hkey hle

theorem mem_iff (h : KeptNewest key version offered kept) :
    x ∈ kept ↔ LastNewest key version offered x := by
  constructor
  · exact h.newest x
  · intro hx
    have hkey := (h.keys.mem_iff (key x)).mpr (List.mem_map_of_mem hx.mem)
    obtain ⟨y, hy, hsame⟩ := List.mem_map.mp hkey
    rwa [← (h.newest y hy).unique hx hsame]

end KeptNewest

end HalBridge
