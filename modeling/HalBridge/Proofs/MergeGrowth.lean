import HalBridge.Proofs.ChainEnds
import HalBridge.Proofs.MergeNewest

/-!
# Merging in a part of a catalogue

A walk stays inside the part of a catalogue that it starts in, since what it enters is what the
declarations of that part refer to. The rules of a walk leave no choice, so the walk of a type is
the same before and after more is loaded.
-/

namespace HalBridge.Catalog

open Merge

variable {catalog larger : Catalog} {q : QualifiedName} {field : Field}

theorem Expands.unique {seen seen' other : List QualifiedName} {path : String}
    {fields : List Field} {steps steps' : List Step}
    (h : catalog.Expands seen q path fields seen' steps)
    (h' : catalog.Expands seen q path fields other steps') : seen' = other ∧ steps = steps' := by
  induction h generalizing other steps' with
  | done =>
      cases h'
      exact ⟨rfl, rfl⟩
  | plain hplain _ ih =>
      cases h' with
      | plain _ hrest =>
          obtain ⟨rfl, rfl⟩ := ih hrest
          exact ⟨rfl, rfl⟩
      | back htarget => exact absurd (hplain.symm.trans htarget) nofun
      | descend htarget => exact absurd (hplain.symm.trans htarget) nofun
  | back htarget hseen _ ih =>
      cases h' with
      | plain hplain => exact absurd (hplain.symm.trans htarget) nofun
      | back htarget' _ hrest =>
          obtain rfl := Option.some.inj (htarget.symm.trans htarget')
          obtain ⟨rfl, rfl⟩ := ih hrest
          exact ⟨rfl, rfl⟩
      | descend htarget' hnew =>
          obtain rfl := Option.some.inj (htarget.symm.trans htarget')
          exact absurd hseen hnew
  | descend htarget hnew _ _ ihinner ihouter =>
      cases h' with
      | plain hplain => exact absurd (hplain.symm.trans htarget) nofun
      | back htarget' hseen =>
          obtain rfl := Option.some.inj (htarget.symm.trans htarget')
          exact absurd hseen hnew
      | descend htarget' _ hinner houter =>
          obtain rfl := Option.some.inj (htarget.symm.trans htarget')
          obtain ⟨rfl, rfl⟩ := ihinner hinner
          obtain ⟨rfl, rfl⟩ := ihouter houter
          exact ⟨rfl, rfl⟩

/-! ### What a part has of its types -/

theorem PartOf.compound_eq (h : catalog.PartOf larger) (hq : q ∈ catalog.names) :
    larger.compound? q = catalog.compound? q := by
  rw [compound?, compound?, h.find q hq]

theorem PartOf.fieldsOf_eq (h : catalog.PartOf larger) (hq : q ∈ catalog.names) :
    larger.fieldsOf q = catalog.fieldsOf q := by
  rw [fieldsOf, fieldsOf, h.compound_eq hq]

theorem PartOf.subTypesOf_eq (h : catalog.PartOf larger) (hq : q ∈ catalog.names) :
    larger.subTypesOf q = catalog.subTypesOf q := by
  rw [subTypesOf, subTypesOf, h.find q hq]

theorem PartOf.versionTarget_eq (h : catalog.PartOf larger) (hcovers : catalog.Covers field.type) :
    larger.versionTarget? q field = catalog.versionTarget? q field := by
  unfold versionTarget?
  split
  · rename_i target htype
    have htarget : target ∈ catalog.names := by
      rw [← contains_iff]
      refine hcovers target ?_
      rw [htype]
      rfl
    rw [h.compound_eq htarget]
  · rfl

theorem mem_types_of_mem_fieldsOf (h : field ∈ catalog.fieldsOf q) :
    ∃ decl ∈ catalog.decls, field.type ∈ decl.body.types := by
  unfold fieldsOf compound? at h
  cases hfind : catalog.find? q with
  | none => simp [hfind] at h
  | some decl =>
      refine ⟨decl, mem_of_find hfind, ?_⟩
      cases hbody : decl.body with
      | compound style fields =>
          simp only [hfind, Option.map_some, hbody, Option.getD_some] at h
          exact List.mem_map_of_mem h
      | enum | typedef | interface => simp [hfind, hbody] at h

theorem PartOf.covers_fields (h : catalog.PartOf larger) :
    ∀ field ∈ catalog.fieldsOf q, catalog.Covers field.type := by
  intro field hfield
  obtain ⟨decl, hdecl, htype⟩ := mem_types_of_mem_fieldsOf hfield
  exact h.closed decl hdecl _ htype

theorem Expands.of_partOf {seen seen' : List QualifiedName} {path : String}
    {fields : List Field} {steps : List Step} (hpart : catalog.PartOf larger)
    (hcovers : ∀ field ∈ fields, catalog.Covers field.type)
    (h : catalog.Expands seen q path fields seen' steps) :
    larger.Expands seen q path fields seen' steps := by
  induction h with
  | done => exact .done
  | plain hplain _ ih =>
      rw [List.forall_mem_cons] at hcovers
      rw [← hpart.versionTarget_eq hcovers.1] at hplain
      exact .plain hplain (ih hcovers.2)
  | back htarget hseen _ ih =>
      rw [List.forall_mem_cons] at hcovers
      rw [← hpart.versionTarget_eq hcovers.1] at htarget
      exact .back htarget hseen (ih hcovers.2)
  | @descend _ _ _ _ _ target _ _ _ _ htarget hnew _ _ ihinner ihouter =>
      -- The version that is entered is declared in the part, and so are its fields.
      have htype := mem_names_of_compound (versionTarget_eq_some_iff.mp htarget).compound
      rw [List.forall_mem_cons] at hcovers
      rw [← hpart.versionTarget_eq hcovers.1] at htarget
      refine .descend htarget hnew ?_ (ihouter hcovers.2)
      rw [hpart.fieldsOf_eq htype]
      exact ihinner hpart.covers_fields

theorem PartOf.walk_eq (h : catalog.PartOf larger) (hq : (catalog.compound? q).isSome) :
    larger.walk q = catalog.walk q := by
  have hnames := mem_names_of_compound hq
  have hsmall := (walk_expands hq).of_partOf h h.covers_fields
  have hlarge : larger.Expands [q] q "" (larger.fieldsOf q) (larger.walk q).entered
      (larger.walk q).steps := walk_expands (by rwa [h.compound_eq hnames])
  rw [h.fieldsOf_eq hnames] at hlarge
  obtain ⟨hentered, hsteps⟩ := hlarge.unique hsmall
  calc larger.walk q = ⟨(larger.walk q).entered, (larger.walk q).steps⟩ := rfl
    _ = ⟨(catalog.walk q).entered, (catalog.walk q).steps⟩ := by rw [hentered, hsteps]

end HalBridge.Catalog
