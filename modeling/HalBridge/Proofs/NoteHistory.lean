import HalBridge.Proofs.NoteSink
import Mathlib.Data.Finset.Insert

/-!
# The history of a sink

A sink is offered notes one by one, in lists, from other sinks and from itself. Whatever the
sequence of these offers, it holds the first occurrences of all the notes offered: each offer adds
those of its notes that are new, at the end, and nothing else ever changes. A sink that looks notes
up in a set beside its list goes through the same states, since the two always agree.
-/

namespace HalBridge

namespace Notes

variable {notes : Notes} {note : Note}

/-- Offers to a sink its own notes from `position` on, reading each one after the offers of those
before it. -/
def offerOwnFrom (notes : Notes) (position : Nat) : Notes :=
  if h : position < notes.entries.length then
    (notes.add notes.entries[position]).offerOwnFrom (position + 1)
  else notes
termination_by notes.entries.length - position
decreasing_by
  rw [add_of_mem (List.getElem_mem h)]
  omega

/-- A sink learns nothing from itself. -/
theorem offerOwnFrom_eq (notes : Notes) (position : Nat) : notes.offerOwnFrom position = notes := by
  fun_induction offerOwnFrom notes position with
  | case1 notes position h ih => rw [ih, add_of_mem (List.getElem_mem h)]
  | case2 => rfl

/-! ### Offers -/

/-- A call that offers notes to a sink. -/
inductive Offer where
  | add (note : Note)
  | extend (more : List Note)
  | extendBy (other : Notes)
  | extendByItself

namespace Offer

/-- The notes that are offered to a sink. -/
def offered (notes : Notes) : Offer → List Note
  | .add note => [note]
  | .extend more => more
  | .extendBy other => other.entries
  | .extendByItself => notes.entries

/-- The sink after the call. -/
def apply (notes : Notes) : Offer → Notes
  | .add note => notes.add note
  | .extend more => notes.extend more
  | .extendBy other => notes.extend other.entries
  | .extendByItself => notes.offerOwnFrom 0

/-- Every call extends the sink by what it offers. -/
theorem apply_eq_extend (notes : Notes) (offer : Offer) :
    offer.apply notes = notes.extend (offer.offered notes) := by
  cases offer with
  | add note => rfl
  | extend more => rfl
  | extendBy other => rfl
  | extendByItself =>
      calc notes.offerOwnFrom 0 = notes := offerOwnFrom_eq notes 0
        _ = notes.extend notes.entries := (extend_of_subset fun _ hnote => hnote).symm

/-- What a call offers is known to the sink afterwards. -/
theorem mem_apply_iff (notes : Notes) (offer : Offer) :
    note ∈ (offer.apply notes).entries ↔ note ∈ notes.entries ∨ note ∈ offer.offered notes := by
  rw [apply_eq_extend, mem_extend_iff]

/-- A call offers the same notes to all sinks, but for those that a sink has itself. -/
theorem mem_offered_or (offer : Offer) (other : Notes) (h : note ∈ offer.offered notes) :
    note ∈ notes.entries ∨ note ∈ offer.offered other := by
  cases offer with
  | add | extend | extendBy => exact Or.inr h
  | extendByItself => exact Or.inl h

theorem mem_apply_apply_iff (notes : Notes) (first second : Offer) :
    note ∈ (second.apply (first.apply notes)).entries ↔
      note ∈ notes.entries ∨ note ∈ first.offered notes ∨ note ∈ second.offered notes := by
  rw [mem_apply_iff, mem_apply_iff, or_assoc]
  constructor
  · rintro (hold | hfirst | hsecond)
    · exact Or.inl hold
    · exact Or.inr (Or.inl hfirst)
    · rcases second.mem_offered_or notes hsecond with hknown | hsecond
      · rcases (mem_apply_iff notes first).mp hknown with hold | hfirst
        · exact Or.inl hold
        · exact Or.inr (Or.inl hfirst)
      · exact Or.inr (Or.inr hsecond)
  · rintro (hold | hfirst | hsecond)
    · exact Or.inl hold
    · exact Or.inr (Or.inl hfirst)
    · rcases second.mem_offered_or (first.apply notes) hsecond with hold | hsecond
      · exact Or.inl hold
      · exact Or.inr (Or.inr hsecond)

end Offer

/-- The sink after a sequence of calls. -/
def after (notes : Notes) (offers : List Offer) : Notes :=
  offers.foldl Offer.apply notes

/-- All notes that a sequence of calls offers, in order. -/
def offeredBy (notes : Notes) : List Offer → List Note
  | [] => []
  | offer :: rest => offer.offered notes ++ (offer.apply notes).offeredBy rest

theorem after_append (notes : Notes) (offers more : List Offer) :
    notes.after (offers ++ more) = (notes.after offers).after more :=
  List.foldl_append

/-- A sequence of calls extends the sink by all that they offer. -/
theorem after_eq_extend (notes : Notes) (offers : List Offer) :
    notes.after offers = notes.extend (notes.offeredBy offers) := by
  induction offers generalizing notes with
  | nil => rfl
  | cons offer rest ih =>
      calc notes.after (offer :: rest)
          = (offer.apply notes).after rest := rfl
        _ = (offer.apply notes).extend ((offer.apply notes).offeredBy rest) := ih _
        _ = (notes.extend (offer.offered notes)).extend ((offer.apply notes).offeredBy rest) := by
            rw [Offer.apply_eq_extend notes offer]
        _ = notes.extend (notes.offeredBy (offer :: rest)) := (extend_append _ _ _).symm

theorem isPrefix_after (notes : Notes) (offers : List Offer) :
    notes.entries <+: (notes.after offers).entries := by
  rw [after_eq_extend]
  exact isPrefix_extend notes _

/-- A call that was made before changes nothing when it is made again. -/
theorem apply_after_apply (notes : Notes) (offer : Offer) (more : List Offer) :
    offer.apply ((offer.apply notes).after more) = (offer.apply notes).after more := by
  rw [Offer.apply_eq_extend ((offer.apply notes).after more)]
  refine extend_of_subset fun note hnote => ?_
  rcases offer.mem_offered_or notes hnote with hknown | hoffered
  · exact hknown
  · have hlearnt := (Offer.mem_apply_iff notes offer).mpr (Or.inr hoffered)
    exact (isPrefix_after (offer.apply notes) more).subset hlearnt

theorem firstOccurrences_after (start : List Note) (offers : List Offer) :
    FirstOccurrences (start ++ (({} : Notes).extend start).offeredBy offers)
      ((({} : Notes).extend start).after offers).entries := by
  rw [after_eq_extend]
  exact firstOccurrences_extend (firstOccurrences_of_empty start) _

end Notes

/-! ### Sinks with an index -/

/-- A sink that has its notes in a list, for their order, and in a set, to tell which it has. -/
structure IndexedNotes where
  entries : List Note
  seen : Finset Note
  agree : ∀ note, note ∈ seen ↔ note ∈ entries

namespace IndexedNotes

/-- The sink without its index. -/
def toNotes (sink : IndexedNotes) : Notes :=
  ⟨sink.entries⟩

theorem agree_empty : ∀ note : Note, note ∈ (∅ : Finset Note) ↔ note ∈ ([] : List Note) := by
  simp

def empty : IndexedNotes :=
  ⟨[], ∅, agree_empty⟩

theorem agree_append (sink : IndexedNotes) (added : Note) :
    ∀ note, note ∈ insert added sink.seen ↔ note ∈ sink.entries ++ [added] := by
  intro note
  rw [Finset.mem_insert, List.mem_append, List.mem_singleton, sink.agree, or_comm]

def add (sink : IndexedNotes) (note : Note) : IndexedNotes :=
  if note ∈ sink.seen then sink
  else ⟨sink.entries ++ [note], insert note sink.seen, sink.agree_append note⟩

def extend (sink : IndexedNotes) (more : List Note) : IndexedNotes :=
  more.foldl add sink

theorem toNotes_add (sink : IndexedNotes) (note : Note) :
    (sink.add note).toNotes = sink.toNotes.add note := by
  have hagree : note ∈ sink.seen ↔ note ∈ sink.toNotes.entries := sink.agree note
  unfold add Notes.add
  by_cases hseen : note ∈ sink.seen
  · rw [if_pos hseen, if_pos (hagree.mp hseen)]
  · rw [if_neg hseen, if_neg (hagree.not.mp hseen)]
    rfl

theorem toNotes_extend (sink : IndexedNotes) (more : List Note) :
    (sink.extend more).toNotes = sink.toNotes.extend more := by
  induction more generalizing sink with
  | nil => rfl
  | cons first rest ih =>
      calc (sink.extend (first :: rest)).toNotes
          = ((sink.add first).extend rest).toNotes := rfl
        _ = (sink.add first).toNotes.extend rest := ih _
        _ = sink.toNotes.extend (first :: rest) := by
            rw [toNotes_add]
            rfl

theorem add_of_mem {sink : IndexedNotes} {note : Note} (h : note ∈ sink.entries) :
    sink.add note = sink :=
  if_pos ((sink.agree note).mpr h)

/-- Offers to a sink its own notes from `position` on. It comes to an end only because the set has
all that is in the list. -/
def offerOwnFrom (sink : IndexedNotes) (position : Nat) : IndexedNotes :=
  if h : position < sink.entries.length then
    (sink.add sink.entries[position]).offerOwnFrom (position + 1)
  else sink
termination_by sink.entries.length - position
decreasing_by
  rw [add_of_mem (List.getElem_mem h)]
  omega

theorem offerOwnFrom_eq (sink : IndexedNotes) (position : Nat) :
    sink.offerOwnFrom position = sink := by
  fun_induction offerOwnFrom sink position with
  | case1 sink position h ih => rw [ih, add_of_mem (List.getElem_mem h)]
  | case2 => rfl

/-- The sink after a call. -/
def apply (sink : IndexedNotes) : Notes.Offer → IndexedNotes
  | .add note => sink.add note
  | .extend more => sink.extend more
  | .extendBy other => sink.extend other.entries
  | .extendByItself => sink.offerOwnFrom 0

theorem toNotes_apply (sink : IndexedNotes) (offer : Notes.Offer) :
    (sink.apply offer).toNotes = offer.apply sink.toNotes := by
  cases offer with
  | add note => exact sink.toNotes_add note
  | extend more => exact sink.toNotes_extend more
  | extendBy other => exact sink.toNotes_extend other.entries
  | extendByItself =>
      calc (sink.offerOwnFrom 0).toNotes = sink.toNotes := by rw [offerOwnFrom_eq]
        _ = sink.toNotes.offerOwnFrom 0 := (Notes.offerOwnFrom_eq _ 0).symm

/-- The index makes no difference to what a sequence of calls leaves. -/
theorem toNotes_after (sink : IndexedNotes) (offers : List Notes.Offer) :
    (offers.foldl apply sink).toNotes = sink.toNotes.after offers := by
  induction offers generalizing sink with
  | nil => rfl
  | cons offer rest ih =>
      calc ((offer :: rest).foldl apply sink).toNotes
          = (rest.foldl apply (sink.apply offer)).toNotes := rfl
        _ = (offer.apply sink.toNotes).after rest := by rw [ih, toNotes_apply]
        _ = sink.toNotes.after (offer :: rest) := rfl

end IndexedNotes

namespace Notes

/-- **A sink holds first occurrences.** After any sequence of calls a sink that started with some
notes has each note that was offered once, in the order of the first offers. What it has stays in
its place whatever is offered later. A call that was made before changes nothing when it is made
again, and two calls leave the same notes in either order. A sink with an index has the same notes
after the same calls. -/
theorem entries_first_occurrences (start : List Note) (offers more : List Offer)
    (offer other : Offer) :
    let sink := ({} : Notes).extend start
    FirstOccurrences (start ++ sink.offeredBy offers) (sink.after offers).entries ∧
    (sink.after offers).entries <+: (sink.after (offers ++ more)).entries ∧
    sink.after (offers ++ offer :: more ++ [offer]) = sink.after (offers ++ offer :: more) ∧
    (sink.after (offers ++ [offer, other])).entries.Perm
      (sink.after (offers ++ [other, offer])).entries ∧
    (offers.foldl IndexedNotes.apply (IndexedNotes.empty.extend start)).toNotes =
      sink.after offers := by
  intro sink
  refine ⟨firstOccurrences_after start offers, ?_, ?_, ?_, ?_⟩
  · rw [after_append]
    exact isPrefix_after _ more
  · rw [after_append, after_append]
    exact apply_after_apply (sink.after offers) offer more
  · have hone := (firstOccurrences_after start (offers ++ [offer, other])).nodup
    have hother := (firstOccurrences_after start (offers ++ [other, offer])).nodup
    refine (List.perm_ext_iff_of_nodup hone hother).mpr fun note => ?_
    calc note ∈ (sink.after (offers ++ [offer, other])).entries
        ↔ note ∈ (other.apply (offer.apply (sink.after offers))).entries := by
          rw [after_append]
          rfl
      _ ↔ note ∈ (offer.apply (other.apply (sink.after offers))).entries := by
          rw [Offer.mem_apply_apply_iff, Offer.mem_apply_apply_iff,
            or_comm (a := note ∈ offer.offered _)]
      _ ↔ note ∈ (sink.after (offers ++ [other, offer])).entries := by
          rw [after_append]
          rfl
  · rw [IndexedNotes.toNotes_after, IndexedNotes.toNotes_extend]
    rfl

end Notes

end HalBridge
