import HalBridge.Conversion.Collection
import HalBridge.Proofs.MergeGrowth

/-!
# The walk that collects types

Collecting goes through the types in pre-order: a type comes before those nested in it, and these
before the types that follow it. `Visits` gives this walk by rules, with no bound on its depth, and
`InScope` the types that it is meant to come to. The walk that runs follows the rules, since every
type it visits is a declaration of its own, and it visits exactly the types in scope.
-/

namespace HalBridge.Catalog

/-- The types in scope: the roots, what is nested in a type in scope, and what is nested in the
versions that merging one takes together. -/
inductive InScope (catalog : Catalog) (roots : List QualifiedName) : QualifiedName → Prop
  | root {q : QualifiedName} (h : q ∈ roots) : InScope catalog roots q
  | nested {outer q : QualifiedName} (houter : InScope catalog roots outer)
      (h : q ∈ catalog.subTypesOf outer) : InScope catalog roots q
  | merged {outer q : QualifiedName} {schema : MergedSchema} {notes : Notes}
      (houter : InScope catalog roots outer) (hmerge : catalog.merge outer {} = .ok (schema, notes))
      (h : q ∈ schema.subTypes) : InScope catalog roots q

/-- The pre-order walk through the types that wait, after the types `seen` were visited. -/
inductive Visits (catalog : Catalog) :
    List QualifiedName → List QualifiedName → List QualifiedName → Prop
  | done {seen : List QualifiedName} : Visits catalog seen [] []
  | again {seen waiting visits : List QualifiedName} {q : QualifiedName} (h : q ∈ seen)
      (rest : Visits catalog seen waiting visits) : Visits catalog seen (q :: waiting) visits
  | visit {seen waiting nested visits : List QualifiedName} {q : QualifiedName} (h : q ∉ seen)
      (hnested : catalog.nestedTypes q = .ok nested)
      (rest : Visits catalog (q :: seen) (nested ++ waiting) visits) :
      Visits catalog seen (q :: waiting) (q :: visits)

variable {catalog larger : Catalog} {q r : QualifiedName} {roots : List QualifiedName}

/-! ### What is nested in a type -/

/-- The types nested in the versions that merging takes together. -/
def mergedSubTypes (catalog : Catalog) (q : QualifiedName) : List QualifiedName :=
  distinct ((catalog.walk q).entered.flatMap catalog.subTypesOf)

theorem subTypes_of_merge {notes notes' : Notes} {schema : MergedSchema}
    (h : catalog.merge q notes = .ok (schema, notes')) :
    schema.subTypes = catalog.mergedSubTypes q := by
  unfold merge at h
  split at h
  · cases h
  · cases hrecord : catalog.recordSteps (catalog.walk q).steps [] notes with
    | error fault =>
        simp only [hrecord] at h
        cases h
    | ok recorded =>
        simp only [hrecord] at h
        obtain ⟨rfl, -⟩ := Prod.mk.inj (Except.ok.inj h)
        rfl

/-- Every way in which finding the types nested in `q` can end. -/
inductive Nests (catalog : Catalog) (q : QualifiedName) : Except Fault (List QualifiedName) → Prop
  | plain (hq : catalog.compound? q = none) : Nests catalog q (.ok (catalog.subTypesOf q))
  | merged {schema : MergedSchema} {notes : Notes} (hq : (catalog.compound? q).isSome)
      (hnamed : ∀ field ∈ (catalog.walk q).fields, field.name ≠ none)
      (hmerge : catalog.merge q {} = .ok (schema, notes)) :
      Nests catalog q (.ok (catalog.subTypesOf q ++
        (catalog.mergedSubTypes q).filter fun nested => !(catalog.subTypesOf q).contains nested))
  | nameless (hq : (catalog.compound? q).isSome)
      (hnone : ∃ field ∈ (catalog.walk q).fields, field.name = none) :
      Nests catalog q (.error .absentText)

theorem nests_nestedTypes (catalog : Catalog) (q : QualifiedName) :
    catalog.Nests q (catalog.nestedTypes q) := by
  unfold nestedTypes
  cases hq : catalog.compound? q with
  | none => exact .plain hq
  | some found =>
      have hsome : (catalog.compound? q).isSome := Option.isSome_iff_exists.mpr ⟨found, hq⟩
      by_cases hnone : ∃ field ∈ (catalog.walk q).fields, field.name = none
      · simp only [merge_eq_error hsome {} hnone]
        exact .nameless hsome hnone
      · have hnamed : ∀ field ∈ (catalog.walk q).fields, field.name ≠ none :=
          fun field hfield hname => hnone ⟨field, hfield, hname⟩
        obtain ⟨schema, notes, hmerge, -⟩ := merge_eq_ok hsome {} hnamed
        simp only [hmerge, Except.map, subTypes_of_merge hmerge]
        exact .merged hsome hnamed hmerge

theorem Nests.eq {result : Except Fault (List QualifiedName)} (h : catalog.Nests q result) :
    catalog.nestedTypes q = result := by
  unfold nestedTypes
  cases h with
  | plain hq => rw [hq]
  | merged hq _ hmerge =>
      obtain ⟨found, hfound⟩ := Option.isSome_iff_exists.mp hq
      simp only [hfound, hmerge, Except.map, subTypes_of_merge hmerge]
  | nameless hq hnone =>
      obtain ⟨found, hfound⟩ := Option.isSome_iff_exists.mp hq
      simp only [hfound, merge_eq_error hq {} hnone, Except.map]

theorem mem_nestedTypes_iff {nested : List QualifiedName} (h : catalog.nestedTypes q = .ok nested) :
    r ∈ nested ↔ r ∈ catalog.subTypesOf q ∨
      ∃ schema notes, catalog.merge q {} = .ok (schema, notes) ∧ r ∈ schema.subTypes := by
  have hnests := catalog.nests_nestedTypes q
  rw [h] at hnests
  cases hnests with
  | plain hq =>
      have hmerge : ∀ schema notes, catalog.merge q {} ≠ .ok (schema, notes) := by
        intro schema notes hok
        rw [merge, hq] at hok
        cases hok
      simp [hmerge]
  | merged hq hnamed hmerge =>
      rw [List.mem_append, List.mem_filter, ← subTypes_of_merge hmerge]
      constructor
      · rintro (hown | ⟨hmerged, -⟩)
        · exact Or.inl hown
        · exact Or.inr ⟨_, _, hmerge, hmerged⟩
      · rintro (hown | ⟨other, notes, hother, hmerged⟩)
        · exact Or.inl hown
        · obtain ⟨rfl, -⟩ := Prod.mk.inj (Except.ok.inj (hmerge.symm.trans hother))
          by_cases hown : r ∈ catalog.subTypesOf q
          · exact Or.inl hown
          · exact Or.inr ⟨hmerged, by simpa using hown⟩

theorem exists_nestedTypes
    (hnamed : ∀ r, catalog.Reaches q r → ∀ field ∈ catalog.plainFields r, field.name ≠ none) :
    ∃ nested, catalog.nestedTypes q = .ok nested := by
  have hnests := catalog.nests_nestedTypes q
  cases hnested : catalog.nestedTypes q with
  | ok nested => exact ⟨nested, rfl⟩
  | error fault =>
      rw [hnested] at hnests
      cases hnests with
      | nameless hq hnone =>
          obtain ⟨r, hr, field, hfield, hname⟩ := (exists_met_iff hq none).mp hnone
          exact absurd hname (hnamed r hr field hfield)

theorem exists_nestedTypes_of_merge {schema : MergedSchema} {notes : Notes}
    (h : catalog.merge q {} = .ok (schema, notes)) :
    ∃ nested, catalog.nestedTypes q = .ok nested := by
  have hnests := catalog.nests_nestedTypes q
  cases hnested : catalog.nestedTypes q with
  | ok nested => exact ⟨nested, rfl⟩
  | error fault =>
      rw [hnested] at hnests
      cases hnests with
      | nameless hq hnone =>
          rw [merge_eq_error hq {} hnone] at h
          cases h

theorem InScope.of_nestedTypes {nested : List QualifiedName} (hq : catalog.InScope roots q)
    (h : catalog.nestedTypes q = .ok nested) (hr : r ∈ nested) : catalog.InScope roots r := by
  rcases (mem_nestedTypes_iff h).mp hr with hown | ⟨schema, notes, hmerge, hmerged⟩
  · exact .nested hq hown
  · exact .merged hq hmerge hmerged

theorem InScope.trans {inner : List QualifiedName} (h : ∀ q ∈ inner, catalog.InScope roots q)
    (hr : catalog.InScope inner r) : catalog.InScope roots r := by
  induction hr with
  | root hroot => exact h _ hroot
  | nested _ hnested ih => exact .nested ih hnested
  | merged _ hmerge hmerged ih => exact .merged ih hmerge hmerged

/-- The types that a declaration lists as nested are declared. -/
def ListsDeclared (catalog : Catalog) : Prop :=
  ∀ q, ∀ r ∈ catalog.subTypesOf q, r ∈ catalog.names

theorem Reaches.compound (h : catalog.Reaches q r) (hq : (catalog.compound? q).isSome) :
    (catalog.compound? r).isSome := by
  induction h with
  | refl => exact hq
  | tail _ hembeds _ =>
      obtain ⟨field, -, htarget⟩ := hembeds
      exact (versionTarget_eq_some_iff.mp htarget).compound

theorem mem_mergedSubTypes_iff :
    r ∈ catalog.mergedSubTypes q ↔ ∃ t ∈ (catalog.walk q).entered, r ∈ catalog.subTypesOf t := by
  rw [mergedSubTypes, (firstOccurrences_distinct _).mem_iff, List.mem_flatMap]

theorem ListsDeclared.of_nestedTypes {nested : List QualifiedName} (h : catalog.ListsDeclared)
    (hnested : catalog.nestedTypes q = .ok nested) : ∀ r ∈ nested, r ∈ catalog.names := by
  intro r hr
  rcases (mem_nestedTypes_iff hnested).mp hr with hown | ⟨schema, notes, hmerge, hmerged⟩
  · exact h q r hown
  · rw [subTypes_of_merge hmerge] at hmerged
    obtain ⟨t, -, ht⟩ := mem_mergedSubTypes_iff.mp hmerged
    exact h t r ht

theorem PartOf.mergedSubTypes_eq (h : catalog.PartOf larger) (hq : (catalog.compound? q).isSome) :
    larger.mergedSubTypes q = catalog.mergedSubTypes q := by
  unfold mergedSubTypes
  rw [h.walk_eq hq]
  refine congrArg distinct (List.flatMap_congr fun t ht => h.subTypesOf_eq ?_)
  exact mem_names_of_compound (((mem_entered_walk_iff hq t).mp ht).compound hq)

theorem Nests.of_partOf {result : Except Fault (List QualifiedName)} (hpart : catalog.PartOf larger)
    (hq : q ∈ catalog.names) (h : catalog.Nests q result) : larger.Nests q result := by
  have hcompound := hpart.compound_eq hq
  cases h with
  | plain hnone =>
      rw [← hpart.subTypesOf_eq hq]
      exact .plain (hcompound.trans hnone)
  | merged hsome hnamed =>
      have hlarger : (larger.compound? q).isSome := by rwa [hcompound]
      rw [← hpart.walk_eq hsome] at hnamed
      obtain ⟨schema, notes, hmerge, -⟩ := merge_eq_ok hlarger {} hnamed
      rw [← hpart.subTypesOf_eq hq, ← hpart.mergedSubTypes_eq hsome]
      exact .merged hlarger hnamed hmerge
  | nameless hsome hnone =>
      rw [← hpart.walk_eq hsome] at hnone
      exact .nameless (by rwa [hcompound]) hnone

theorem PartOf.nestedTypes_eq (h : catalog.PartOf larger) (hq : q ∈ catalog.names) :
    larger.nestedTypes q = catalog.nestedTypes q :=
  ((catalog.nests_nestedTypes q).of_partOf h hq).eq

/-- What is in scope of declared types is declared, and in scope in a larger catalogue too. -/
theorem InScope.of_partOf (hpart : catalog.PartOf larger) (hlists : catalog.ListsDeclared)
    (hroots : ∀ q ∈ roots, q ∈ catalog.names) (h : catalog.InScope roots q) :
    q ∈ catalog.names ∧ larger.InScope roots q := by
  induction h with
  | root hroot => exact ⟨hroots _ hroot, .root hroot⟩
  | nested _ hnested ih =>
      refine ⟨hlists _ _ hnested, .nested ih.2 ?_⟩
      rwa [hpart.subTypesOf_eq ih.1]
  | merged _ hmerge hmerged ih =>
      obtain ⟨nested, hnested⟩ := exists_nestedTypes_of_merge hmerge
      have hmem := (mem_nestedTypes_iff hnested).mpr (Or.inr ⟨_, _, hmerge, hmerged⟩)
      refine ⟨hlists.of_nestedTypes hnested _ hmem, ?_⟩
      exact ih.2.of_nestedTypes ((hpart.nestedTypes_eq ih.1).trans hnested) hmem

/-! ### The rules of the walk -/

namespace Visits

variable {seen waiting visits : List QualifiedName}

theorem append {more others : List QualifiedName} (h : catalog.Visits seen waiting visits)
    (h' : catalog.Visits (visits.reverse ++ seen) more others) :
    catalog.Visits seen (waiting ++ more) (visits ++ others) := by
  induction h with
  | done => exact h'
  | again hseen _ ih => exact .again hseen (ih h')
  | visit hnew hnested _ ih =>
      rw [List.reverse_cons, List.append_assoc, List.singleton_append] at h'
      rw [List.cons_append, List.cons_append]
      refine .visit hnew hnested ?_
      rw [← List.append_assoc]
      exact ih h'

theorem disjoint (h : catalog.Visits seen waiting visits) : ∀ q ∈ visits, q ∉ seen := by
  induction h with
  | done => exact fun _ hq => absurd hq List.not_mem_nil
  | again _ _ ih => exact ih
  | visit hnew _ _ ih =>
      rw [List.forall_mem_cons]
      exact ⟨hnew, fun q hq hseen => ih q hq (List.mem_cons_of_mem _ hseen)⟩

theorem nodup (h : catalog.Visits seen waiting visits) : visits.Nodup := by
  induction h with
  | done => exact List.nodup_nil
  | again _ _ ih => exact ih
  | visit _ _ rest ih =>
      exact List.nodup_cons.mpr ⟨fun hq => rest.disjoint _ hq List.mem_cons_self, ih⟩

theorem mem_of_waiting (h : catalog.Visits seen waiting visits) :
    ∀ q ∈ waiting, q ∈ seen ∨ q ∈ visits := by
  induction h with
  | done => exact fun _ hq => absurd hq List.not_mem_nil
  | again hseen _ ih => exact List.forall_mem_cons.mpr ⟨Or.inl hseen, ih⟩
  | @visit seen waiting nested visits first _ _ _ ih =>
      refine List.forall_mem_cons.mpr ⟨Or.inr List.mem_cons_self, fun q hq => ?_⟩
      rcases ih q (List.mem_append_right _ hq) with hseen | hvisited
      · rcases List.mem_cons.mp hseen with rfl | hseen
        · exact Or.inr List.mem_cons_self
        · exact Or.inl hseen
      · exact Or.inr (List.mem_cons_of_mem _ hvisited)

/-- What is nested in a visited type is visited too, or was seen before. -/
theorem closed (h : catalog.Visits seen waiting visits) :
    ∀ q ∈ visits, ∃ nested, catalog.nestedTypes q = .ok nested ∧
      ∀ r ∈ nested, r ∈ seen ∨ r ∈ visits := by
  induction h with
  | done => exact fun _ hq => absurd hq List.not_mem_nil
  | again _ _ ih => exact ih
  | @visit seen waiting nested visits first _ hnested rest ih =>
      have hmove : ∀ r, r ∈ first :: seen ∨ r ∈ visits → r ∈ seen ∨ r ∈ first :: visits := by
        intro r hr
        rw [List.mem_cons] at hr ⊢
        tauto
      refine List.forall_mem_cons.mpr ⟨⟨nested, hnested, fun r hr => ?_⟩, fun q hq => ?_⟩
      · exact hmove r (rest.mem_of_waiting r (List.mem_append_left _ hr))
      · obtain ⟨inner, hinner, hall⟩ := ih q hq
        exact ⟨inner, hinner, fun r hr => hmove r (hall r hr)⟩

theorem inScope (h : catalog.Visits seen waiting visits)
    (hwaiting : ∀ q ∈ waiting, catalog.InScope roots q) :
    ∀ q ∈ visits, catalog.InScope roots q := by
  induction h with
  | done => exact fun _ hq => absurd hq List.not_mem_nil
  | again _ _ ih => exact ih (List.forall_mem_cons.mp hwaiting).2
  | visit _ hnested _ ih =>
      obtain ⟨hfirst, hrest⟩ := List.forall_mem_cons.mp hwaiting
      refine List.forall_mem_cons.mpr ⟨hfirst, ih ?_⟩
      rw [List.forall_mem_append]
      exact ⟨fun r hr => hfirst.of_nestedTypes hnested hr, hrest⟩

/-- The walk from the roots visits exactly the types in scope. -/
theorem mem_iff (h : catalog.Visits [] roots visits) : q ∈ visits ↔ catalog.InScope roots q := by
  constructor
  · exact h.inScope (fun _ hroot => .root hroot) q
  · -- The visited types have the roots and what is nested in them, hence all that is in scope.
    have hvisited : ∀ r, r ∈ [] ∨ r ∈ visits → r ∈ visits :=
      fun r hr => hr.resolve_left List.not_mem_nil
    intro hscope
    induction hscope with
    | root hroot => exact hvisited _ (h.mem_of_waiting _ hroot)
    | nested _ hnested ih =>
        obtain ⟨nested, hok, hall⟩ := h.closed _ ih
        exact hvisited _ (hall _ ((mem_nestedTypes_iff hok).mpr (Or.inl hnested)))
    | merged _ hmerge hmerged ih =>
        obtain ⟨nested, hok, hall⟩ := h.closed _ ih
        exact hvisited _ (hall _ ((mem_nestedTypes_iff hok).mpr (Or.inr ⟨_, _, hmerge, hmerged⟩)))

/-- The walk through declared types is the same in a larger catalogue. -/
theorem of_partOf (hpart : catalog.PartOf larger) (hlists : catalog.ListsDeclared)
    (hwaiting : ∀ q ∈ waiting, q ∈ catalog.names) (h : catalog.Visits seen waiting visits) :
    larger.Visits seen waiting visits := by
  induction h with
  | done => exact .done
  | again hseen _ ih => exact .again hseen (ih (List.forall_mem_cons.mp hwaiting).2)
  | visit hnew hnested _ ih =>
      obtain ⟨hfirst, hrest⟩ := List.forall_mem_cons.mp hwaiting
      refine .visit hnew ((hpart.nestedTypes_eq hfirst).trans hnested) (ih ?_)
      rw [List.forall_mem_append]
      exact ⟨hlists.of_nestedTypes hnested, hrest⟩

end Visits

/-! ### The walk that runs

Its depth is bounded by the number of declarations. The bound is never met: one more type is
visited on every level, and what is visited is declared. -/

theorem seen_foldl_visit (visits : List QualifiedName) (collection : Collection) :
    (visits.foldl Collection.visit collection).seen = visits.reverse ++ collection.seen := by
  induction visits generalizing collection with
  | nil => rfl
  | cons q rest ih =>
      rw [List.foldl_cons, ih, List.reverse_cons, List.append_assoc]
      rfl

/-- How collecting from `waiting` ends: with the collection that visiting the types of the walk
leads to, or with the fault of a type in scope. -/
inductive CollectsFrom (catalog : Catalog) (waiting : List QualifiedName)
    (collection : Collection) : Except Fault Collection → Prop
  | walked {visits : List QualifiedName} (h : catalog.Visits collection.seen waiting visits) :
      CollectsFrom catalog waiting collection (.ok (visits.foldl Collection.visit collection))
  | failed {q : QualifiedName} {fault : Fault} (hq : catalog.InScope waiting q)
      (hfault : catalog.nestedTypes q = .error fault) :
      CollectsFrom catalog waiting collection (.error fault)

namespace CollectsFrom

variable {waiting : List QualifiedName} {collection : Collection}

theorem seen_subset {after : Collection} (h : catalog.CollectsFrom waiting collection (.ok after)) :
    collection.seen ⊆ after.seen := by
  cases h with
  | walked =>
      rw [seen_foldl_visit]
      exact List.subset_append_right _ _

/-- Collecting from one list after another is collecting from both. -/
theorem bind {rest : List QualifiedName} {result : Except Fault Collection}
    {next : Collection → Except Fault Collection}
    (h : catalog.CollectsFrom waiting collection result)
    (hnext : ∀ after, result = .ok after → catalog.CollectsFrom rest after (next after)) :
    catalog.CollectsFrom (waiting ++ rest) collection (result >>= next) := by
  cases h with
  | failed hq hfault =>
      refine .failed (hq.trans fun root hroot => .root ?_) hfault
      exact List.mem_append_left _ hroot
  | @walked visits hvisits =>
      have hrest := hnext _ rfl
      change catalog.CollectsFrom (waiting ++ rest) collection (next _)
      generalize next (visits.foldl Collection.visit collection) = final at hrest ⊢
      cases hrest with
      | walked hothers =>
          rw [seen_foldl_visit] at hothers
          rw [← List.foldl_append]
          exact .walked (hvisits.append hothers)
      | failed hq hfault =>
          refine .failed (hq.trans fun root hroot => .root ?_) hfault
          exact List.mem_append_right _ hroot

/-- Collecting from a new type is visiting it and then collecting from what is nested in it. -/
theorem visit {nested : List QualifiedName} {result : Except Fault Collection}
    (hnew : q ∉ collection.seen) (hnested : catalog.nestedTypes q = .ok nested)
    (h : catalog.CollectsFrom nested (collection.visit q) result) :
    catalog.CollectsFrom [q] collection result := by
  cases h with
  | walked hvisits =>
      rw [← List.foldl_cons]
      refine .walked (.visit hnew hnested ?_)
      rw [List.append_nil]
      exact hvisits
  | failed hr hfault =>
      refine .failed (hr.trans fun inner hinner => ?_) hfault
      exact (InScope.root (List.mem_singleton_self q)).of_nestedTypes hnested hinner

theorem of_partOf {result : Except Fault Collection} (hpart : catalog.PartOf larger)
    (hlists : catalog.ListsDeclared) (hwaiting : ∀ q ∈ waiting, q ∈ catalog.names)
    (h : catalog.CollectsFrom waiting collection result) :
    larger.CollectsFrom waiting collection result := by
  cases h with
  | walked hvisits => exact .walked (hvisits.of_partOf hpart hlists hwaiting)
  | failed hq hfault =>
      obtain ⟨hdeclared, hscope⟩ := hq.of_partOf hpart hlists hwaiting
      exact .failed hscope ((hpart.nestedTypes_eq hdeclared).trans hfault)

end CollectsFrom

theorem collectsFrom_foldlM {collect : QualifiedName → Collection → Except Fault Collection}
    {waiting : List QualifiedName} {bound : Nat}
    (hcollect : ∀ q ∈ waiting, ∀ collection, (catalog.unentered collection.seen).length ≤ bound →
      catalog.CollectsFrom [q] collection (collect q collection))
    (collection : Collection) (hbound : (catalog.unentered collection.seen).length ≤ bound) :
    catalog.CollectsFrom waiting collection
      (waiting.foldlM (fun collection q => collect q collection) collection) := by
  induction waiting generalizing collection with
  | nil => exact .walked .done
  | cons first rest ih =>
      rw [List.forall_mem_cons] at hcollect
      have hfirst := hcollect.1 collection hbound
      rw [List.foldlM_cons]
      refine hfirst.bind fun after hafter => ih hcollect.2 after ?_
      rw [hafter] at hfirst
      exact Nat.le_trans (length_unentered_le hfirst.seen_subset) hbound

theorem collectsFrom_collectAt (hlists : catalog.ListsDeclared) (depth : Nat)
    (hq : q ∈ catalog.names) (collection : Collection)
    (hdepth : (catalog.unentered collection.seen).length ≤ depth) :
    catalog.CollectsFrom [q] collection (catalog.collectAt depth q collection) := by
  induction depth generalizing q collection with
  | zero =>
      -- With no depth left there is no declared type that was not seen.
      have hseen : q ∈ collection.seen := by
        by_contra hnew
        have hlt := length_unentered_lt (List.subset_cons_self q collection.seen) hq hnew
          List.mem_cons_self
        omega
      exact .walked (.again hseen .done)
  | succ depth ih =>
      unfold collectAt
      split
      · rename_i hseen
        exact .walked (.again hseen .done)
      · rename_i hnew
        cases hnested : catalog.nestedTypes q with
        | error fault => exact .failed (.root (List.mem_singleton_self q)) hnested
        | ok nested =>
            refine .visit hnew hnested ?_
            refine collectsFrom_foldlM (fun r hr => ih (hlists.of_nestedTypes hnested r hr))
              (collection.visit q) ?_
            have hlt := length_unentered_lt (List.subset_cons_self q collection.seen) hq hnew
              List.mem_cons_self
            change (catalog.unentered (q :: collection.seen)).length ≤ depth
            omega

theorem collectsFrom_collectFrom (hlists : catalog.ListsDeclared)
    (hroots : ∀ q ∈ roots, q ∈ catalog.names) (collection : Collection) :
    catalog.CollectsFrom roots collection (catalog.collectFrom roots collection) := by
  refine collectsFrom_foldlM (fun q hq collection =>
    collectsFrom_collectAt hlists _ (hroots q hq) collection) collection ?_
  have hle := List.length_filter_le (· ∉ collection.seen) (catalog.decls.map Decl.name)
  rwa [List.length_map] at hle

end HalBridge.Catalog
