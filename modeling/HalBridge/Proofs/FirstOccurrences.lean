import HalBridge.Merge
import Mathlib.Data.List.Basic
import Mathlib.Data.List.Induction

/-!
# First occurrences

Merged fields, nested types and notes are kept once for each key, in the order in which the keys
first came up. `FirstOccurrences offered kept` says so of two lists without a word about how the
second one is computed; the lemmas tell what one more offer does.
-/

namespace HalBridge

/-- `kept` holds each member of `offered` once, in the order of their first occurrences. -/
structure FirstOccurrences {α : Type} [DecidableEq α] (offered kept : List α) : Prop where
  mem_iff : ∀ x, x ∈ kept ↔ x ∈ offered
  ordered : kept.Pairwise fun x y => offered.idxOf x < offered.idxOf y

namespace FirstOccurrences

variable {α : Type} [DecidableEq α] {offered kept : List α} {x : α}

theorem nil : FirstOccurrences ([] : List α) [] :=
  ⟨fun _ => Iff.rfl, List.Pairwise.nil⟩

theorem nodup (h : FirstOccurrences offered kept) : kept.Nodup := by
  refine h.ordered.imp ?_
  intro x y hlt heq
  rw [heq] at hlt
  exact Nat.lt_irrefl _ hlt

/-- The first occurrences stay where they are when more is offered. -/
theorem ordered_append (h : FirstOccurrences offered kept) (more : List α) :
    kept.Pairwise fun x y => (offered ++ more).idxOf x < (offered ++ more).idxOf y := by
  refine h.ordered.imp_of_mem ?_
  intro x y hx hy hlt
  rw [List.idxOf_append_of_mem ((h.mem_iff x).mp hx),
    List.idxOf_append_of_mem ((h.mem_iff y).mp hy)]
  exact hlt

theorem append_of_mem (h : FirstOccurrences offered kept) (hx : x ∈ kept) :
    FirstOccurrences (offered ++ [x]) kept := by
  refine ⟨fun y => ?_, h.ordered_append [x]⟩
  rw [h.mem_iff, List.mem_append, List.mem_singleton]
  constructor
  · exact Or.inl
  · rintro (hy | rfl)
    · exact hy
    · exact (h.mem_iff y).mp hx

theorem append_of_not_mem (h : FirstOccurrences offered kept) (hx : x ∉ kept) :
    FirstOccurrences (offered ++ [x]) (kept ++ [x]) := by
  have hoffered : x ∉ offered := fun hmem => hx ((h.mem_iff x).mpr hmem)
  refine ⟨fun y => ?_, ?_⟩
  · rw [List.mem_append, List.mem_append, h.mem_iff]
  · rw [List.pairwise_append]
    refine ⟨h.ordered_append [x], List.pairwise_singleton _ _, ?_⟩
    intro y hy z hz
    have hbefore : offered.idxOf y < offered.length :=
      List.idxOf_lt_length_iff.mpr ((h.mem_iff y).mp hy)
    rw [List.mem_singleton.mp hz, List.idxOf_append_of_mem ((h.mem_iff y).mp hy),
      List.idxOf_append_of_notMem hoffered]
    omega

/-- Where nothing is offered twice, everything is kept as it is. -/
theorem eq_of_nodup (h : FirstOccurrences offered kept) (hoffered : offered.Nodup) :
    kept = offered := by
  have hperm : kept.Perm offered :=
    (List.perm_ext_iff_of_nodup h.nodup hoffered).mpr h.mem_iff
  have hordered : offered.Pairwise fun x y => offered.idxOf x < offered.idxOf y := by
    rw [List.pairwise_iff_getElem]
    intro i j hi hj hlt
    rw [hoffered.idxOf_getElem, hoffered.idxOf_getElem]
    exact hlt
  refine hperm.eq_of_pairwise ?_ h.ordered hordered
  intro x y _ _ hxy hyx
  exact absurd hxy (Nat.lt_asymm hyx)

end FirstOccurrences

theorem Catalog.firstOccurrences_distinct (names : List QualifiedName) :
    FirstOccurrences names (Catalog.distinct names) := by
  induction names using List.reverseRecOn with
  | nil => exact .nil
  | append_singleton names q ih =>
      unfold distinct at ih ⊢
      rw [List.foldl_append, List.foldl_cons, List.foldl_nil]
      split
      · exact ih.append_of_mem ‹_›
      · exact ih.append_of_not_mem ‹_›

end HalBridge
