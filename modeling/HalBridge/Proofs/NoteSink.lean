import HalBridge.Proofs.FirstOccurrences
import HalBridge.Proofs.Outcomes

/-!
# Sinks of notes

What a sink keeps of the notes it is offered are their first occurrences. Notes that are all new and
all different are added as they are, and those that are known already change nothing. An action
that leaves notes does no more with the sink than to offer notes to it.
-/

namespace HalBridge

namespace Notes

variable {notes : Notes} {note : Note} {offered more : List Note}

theorem extend_append (notes : Notes) (first second : List Note) :
    notes.extend (first ++ second) = (notes.extend first).extend second :=
  List.foldl_append

/-- One more note is the step of the sink. -/
theorem firstOccurrences_add (h : FirstOccurrences offered notes.entries) :
    FirstOccurrences (offered ++ [note]) (notes.add note).entries := by
  unfold add
  split
  · exact h.append_of_mem ‹_›
  · exact h.append_of_not_mem ‹_›

theorem firstOccurrences_extend (h : FirstOccurrences offered notes.entries) (more : List Note) :
    FirstOccurrences (offered ++ more) (notes.extend more).entries := by
  induction more using List.reverseRecOn with
  | nil => rwa [List.append_nil]
  | append_singleton more note ih =>
      rw [extend_append, ← List.append_assoc]
      exact firstOccurrences_add ih

theorem firstOccurrences_of_empty (more : List Note) :
    FirstOccurrences more (({} : Notes).extend more).entries :=
  firstOccurrences_extend .nil more

theorem add_of_mem (h : note ∈ notes.entries) : notes.add note = notes :=
  if_pos h

theorem isPrefix_add (notes : Notes) (note : Note) :
    notes.entries <+: (notes.add note).entries := by
  unfold add
  split
  · exact List.prefix_rfl
  · exact List.prefix_append _ _

theorem isPrefix_extend (notes : Notes) (more : List Note) :
    notes.entries <+: (notes.extend more).entries := by
  induction more using List.reverseRecOn with
  | nil => exact List.prefix_rfl
  | append_singleton more note ih =>
      rw [extend_append]
      exact ih.trans (isPrefix_add _ note)

theorem extend_of_subset (h : ∀ note ∈ more, note ∈ notes.entries) : notes.extend more = notes := by
  induction more with
  | nil => rfl
  | cons first rest ih =>
      have hfirst : notes.add first = notes := add_of_mem (h first List.mem_cons_self)
      have hstep : notes.extend (first :: rest) = (notes.add first).extend rest := rfl
      rw [hstep, hfirst]
      exact ih fun note hnote => h note (List.mem_cons_of_mem _ hnote)

theorem entries_extend_of_fresh (hmore : more.Nodup)
    (hfresh : ∀ note ∈ more, note ∉ notes.entries) :
    (notes.extend more).entries = notes.entries ++ more := by
  induction more generalizing notes with
  | nil => exact (List.append_nil _).symm
  | cons first rest ih =>
      obtain ⟨hfirst, hrest⟩ := List.nodup_cons.mp hmore
      have hadd : notes.add first = ⟨notes.entries ++ [first]⟩ :=
        if_neg (hfresh first List.mem_cons_self)
      have hstep : notes.extend (first :: rest) = (notes.add first).extend rest := rfl
      rw [hstep, hadd, ih hrest, List.append_assoc, List.singleton_append]
      intro note hnote hmem
      rcases List.mem_append.mp hmem with hold | hnew
      · exact hfresh note (List.mem_cons_of_mem _ hnote) hold
      · rw [List.mem_singleton.mp hnew] at hnote
        exact hfirst hnote

theorem mem_extend_iff :
    note ∈ (notes.extend more).entries ↔ note ∈ notes.entries ∨ note ∈ more := by
  induction more generalizing notes with
  | nil => simp [extend]
  | cons first rest ih =>
      have hadd : note ∈ (notes.add first).entries ↔ note ∈ notes.entries ∨ note = first := by
        unfold add
        split
        · rename_i hmem
          refine ⟨Or.inl, ?_⟩
          rintro (hold | rfl)
          · exact hold
          · exact hmem
        · simp
      have hstep : notes.extend (first :: rest) = (notes.add first).extend rest := rfl
      rw [hstep, ih, hadd, List.mem_cons, or_assoc]

theorem extend_extend_self (notes : Notes) (more : List Note) :
    (notes.extend more).extend more = notes.extend more :=
  extend_of_subset fun _ hnote => mem_extend_iff.mpr (Or.inr hnote)

end Notes

/-- Whatever the action does, it offers to the sink only notes with this property. -/
def Offers {α : Type} (action : Noting α) (P : Note → Prop) : Prop :=
  ∀ notes result after, action notes = .ok result after →
    ∃ more, after = notes.extend more ∧ ∀ note ∈ more, P note

section Offers

variable {α β : Type} {P : Note → Prop} {action : Noting α}

theorem offers_pure (a : α) : Offers (pure a) P := by
  intro notes result after h
  obtain ⟨-, rfl⟩ := Outcome.pure_ok_iff.mp h
  exact ⟨[], rfl, fun _ hnote => absurd hnote List.not_mem_nil⟩

theorem offers_throw (fault : Fault) : Offers (throw fault : Noting α) P := by
  intro notes result after h
  exact absurd h Outcome.throw_ne_ok

theorem offers_extend {more : List Note} (h : ∀ note ∈ more, P note) :
    Offers (modify (·.extend more)) P := by
  intro notes result after hmodify
  obtain ⟨-, rfl⟩ := EStateM.Result.ok.inj hmodify
  exact ⟨more, rfl, h⟩

theorem offers_leaveNote {kind : NoteKind} {message : String} (h : P ⟨kind, message⟩) :
    Offers (leaveNote kind message) P := by
  intro notes result after hmodify
  obtain ⟨-, rfl⟩ := EStateM.Result.ok.inj hmodify
  exact ⟨[⟨kind, message⟩], rfl, List.forall_mem_singleton.mpr h⟩

theorem Offers.bind {next : α → Noting β} (h : Offers action P) (hnext : ∀ a, Offers (next a) P) :
    Offers (action >>= next) P := by
  intro notes result after hbind
  obtain ⟨a, middle, haction, hrest⟩ := Outcome.bind_ok_iff.mp hbind
  obtain ⟨first, rfl, hfirst⟩ := h notes a middle haction
  obtain ⟨second, rfl, hsecond⟩ := hnext a _ result after hrest
  refine ⟨first ++ second, (Notes.extend_append _ _ _).symm, ?_⟩
  rw [List.forall_mem_append]
  exact ⟨hfirst, hsecond⟩

end Offers

end HalBridge
