import HalBridge.Proofs.DiscardedFields

/-!
# Version references that are skipped

The walk of a merge enters no version twice. So it skips a version reference that leads back to the
type it stands in, as the note on it says, but also a reference to a version that another one has
embedded before, whether it leads back or not. `Traces` lists the references in the order in which
the walk comes to them: the first one to a version is expanded, and all later ones are skipped.
-/

namespace HalBridge

open Merge

namespace Catalog

/-- A version reference that a walk came to. -/
structure Visit where
  reference : Reference
  expanded : Bool

def Visit.target (visit : Visit) : QualifiedName :=
  visit.reference.target

def expandedAmong (visits : List Visit) : List Reference :=
  (visits.filter Visit.expanded).map Visit.reference

def skippedAmong (visits : List Visit) : List Reference :=
  (visits.filter fun visit => !visit.expanded).map Visit.reference

/-- When `seen` were entered before, a reference is expanded if and only if neither they nor the
references before it have its target. -/
def FirstExpanded (seen : List QualifiedName) (visits : List Visit) : Prop :=
  ∀ front visit back, visits = front ++ visit :: back →
    (visit.expanded ↔ visit.target ∉ seen ++ front.map Visit.target)

section Visits

variable {seen seen' : List QualifiedName} {visit : Visit} {visits front back : List Visit}
  {t : QualifiedName}

theorem firstExpanded_nil (seen : List QualifiedName) : FirstExpanded seen [] := by
  intro front visit back h
  exact absurd h (by simp)

theorem firstExpanded_cons_iff :
    FirstExpanded seen (visit :: visits) ↔
      (visit.expanded ↔ visit.target ∉ seen) ∧ FirstExpanded (seen ++ [visit.target]) visits := by
  constructor
  · intro h
    refine ⟨by simpa using h [] visit visits rfl, fun front later back hvisits => ?_⟩
    have hlater := h (visit :: front) later back (by rw [hvisits, List.cons_append])
    rwa [List.map_cons, ← List.singleton_append, ← List.append_assoc] at hlater
  · rintro ⟨hfirst, hrest⟩ front later back hvisits
    cases front with
    | nil =>
        obtain ⟨rfl, -⟩ := List.cons.inj hvisits
        simpa using hfirst
    | cons head front =>
        obtain ⟨rfl, htail⟩ := List.cons.inj hvisits
        rw [List.map_cons, ← List.singleton_append, ← List.append_assoc]
        exact hrest front later back htail

theorem FirstExpanded.append (hfront : FirstExpanded seen front)
    (hback : FirstExpanded (seen ++ front.map Visit.target) back) :
    FirstExpanded seen (front ++ back) := by
  induction front generalizing seen with
  | nil => simpa using hback
  | cons visit front ih =>
      rw [firstExpanded_cons_iff] at hfront
      rw [List.cons_append, firstExpanded_cons_iff]
      refine ⟨hfront.1, ih hfront.2 ?_⟩
      rwa [List.map_cons, ← List.singleton_append, ← List.append_assoc] at hback

/-- The order of what was entered before does not matter. -/
theorem FirstExpanded.congr (h : FirstExpanded seen visits) (hsame : ∀ t, t ∈ seen ↔ t ∈ seen') :
    FirstExpanded seen' visits := by
  intro front visit back hvisits
  rw [h front visit back hvisits, List.mem_append, List.mem_append, hsame]

/-- Some reference to a new version is expanded, since the first one is. -/
theorem FirstExpanded.exists_expanded (h : FirstExpanded seen visits) (hnew : t ∉ seen)
    (ht : t ∈ visits.map Visit.target) : ∃ visit ∈ visits, visit.expanded ∧ visit.target = t := by
  induction visits generalizing seen with
  | nil => cases ht
  | cons visit rest ih =>
      rw [firstExpanded_cons_iff] at h
      by_cases hfirst : visit.target = t
      · exact ⟨visit, List.mem_cons_self, h.1.mpr (hfirst ▸ hnew), hfirst⟩
      · have hnew' : t ∉ seen ++ [visit.target] := by
          rw [List.mem_append, List.mem_singleton]
          exact fun hor => hor.elim hnew (Ne.symm hfirst)
        have hrest : t ∈ rest.map Visit.target :=
          (List.mem_cons.mp ht).resolve_left (Ne.symm hfirst)
        obtain ⟨later, hlater, hexpanded⟩ := ih h.2 hnew' hrest
        exact ⟨later, List.mem_cons_of_mem _ hlater, hexpanded⟩

/-- The targets of all references are those of the expanded ones. -/
theorem FirstExpanded.mem_iff (h : FirstExpanded seen visits) :
    t ∈ seen ++ (expandedAmong visits).map Reference.target ↔
      t ∈ seen ++ visits.map Visit.target := by
  rw [List.mem_append, List.mem_append]
  constructor
  · refine Or.imp_right fun ht => ?_
    rw [expandedAmong, List.map_map] at ht
    obtain ⟨visit, hvisit, rfl⟩ := List.mem_map.mp ht
    exact List.mem_map_of_mem (List.mem_of_mem_filter hvisit)
  · by_cases hseen : t ∈ seen
    · exact fun _ => Or.inl hseen
    · rintro (ht | ht)
      · exact Or.inl ht
      · obtain ⟨visit, hvisit, hexpanded, rfl⟩ := h.exists_expanded hseen ht
        refine Or.inr ?_
        rw [expandedAmong, List.map_map]
        exact List.mem_map.mpr ⟨visit, List.mem_filter.mpr ⟨hvisit, hexpanded⟩, rfl⟩

theorem mem_skippedAmong_iff {reference : Reference} :
    reference ∈ skippedAmong visits ↔
      ∃ visit ∈ visits, visit.expanded = false ∧ visit.reference = reference := by
  simp [skippedAmong, and_assoc]

end Visits

/-- `visits` are the version references that walking `fields` of `q` comes to. All references of
these fields and of the versions entered are among them, and what embeds no version is met behind
the path of the reference that was expanded. -/
structure Traces (catalog : Catalog) (seen : List QualifiedName) (q : QualifiedName)
    (path : String) (fields : List Field) (seen' : List QualifiedName) (steps : List Step)
    (visits : List Visit) : Prop where
  first : FirstExpanded seen visits
  entered : seen' = seen ++ (expandedAmong visits).map Reference.target
  skipped : steps.filterMap Step.back? = skippedAmong visits
  complete : (catalog.referencesAmong q path fields ++
    (expandedAmong visits).flatMap catalog.referencesBelow).Perm (visits.map Visit.reference)
  met : ∀ reference ∈ expandedAmong visits, ∀ field ∈ catalog.plainFields reference.target,
    { field with access := field.name.map (reference.path ++ "." ++ ·) } ∈
      steps.filterMap Step.field?

variable {catalog : Catalog} {seen seen' : List QualifiedName} {q : QualifiedName} {path : String}
  {fields : List Field} {steps : List Step} {visits : List Visit}

theorem Expands.mem_met (h : catalog.Expands seen q path fields seen' steps) {field : Field}
    (hfield : field ∈ catalog.plainAmong q fields) :
    { field with access := field.name.map (path ++ ·) } ∈ steps.filterMap Step.field? := by
  rw [plainAmong, List.mem_filter] at hfield
  obtain ⟨hfield, hplain⟩ := hfield
  induction h with
  | done => cases hfield
  | plain _ _ ih =>
      rw [List.filterMap_cons]
      rcases List.mem_cons.mp hfield with rfl | hfield
      · exact List.mem_cons_self
      · exact List.mem_cons_of_mem _ (ih hfield hplain)
  | back htarget _ _ ih =>
      rcases List.mem_cons.mp hfield with rfl | hfield
      · rw [htarget] at hplain
        cases hplain
      · exact ih hfield hplain
  | descend htarget _ _ _ _ ih =>
      rcases List.mem_cons.mp hfield with rfl | hfield
      · rw [htarget] at hplain
        cases hplain
      · rw [List.filterMap_append]
        exact List.mem_append_right _ (ih hfield hplain)

theorem Expands.exists_traces (h : catalog.Expands seen q path fields seen' steps) :
    ∃ visits, catalog.Traces seen q path fields seen' steps visits := by
  induction h with
  | @done seen q path =>
      exact ⟨[], firstExpanded_nil seen, by simp [expandedAmong], rfl,
        by simp [referencesAmong, expandedAmong], by simp [expandedAmong]⟩
  | plain hplain _ ih =>
      obtain ⟨visits, hvisits⟩ := ih
      refine ⟨visits, hvisits.first, hvisits.entered, hvisits.skipped, ?_, ?_⟩
      · rw [referencesAmong_of_plain hplain]
        exact hvisits.complete
      · intro reference hreference field hfield
        rw [List.filterMap_cons]
        exact List.mem_cons_of_mem _ (hvisits.met reference hreference field hfield)
  | @back seen q path field rest target seen' steps htarget hseen _ ih =>
      obtain ⟨visits, hvisits⟩ := ih
      refine ⟨⟨⟨path ++ Text.orNone field.name, q, target⟩, false⟩ :: visits, ?_,
        hvisits.entered, ?_, ?_, hvisits.met⟩
      · rw [firstExpanded_cons_iff]
        refine ⟨by simp [Visit.target, hseen], hvisits.first.congr fun t => ?_⟩
        simp only [Visit.target, List.mem_append, List.mem_singleton]
        exact ⟨Or.inl, fun hor => hor.elim id fun heq => heq ▸ hseen⟩
      · rw [List.filterMap_cons]
        simp only [Step.back?, hvisits.skipped, skippedAmong, List.filter_cons, Bool.not_false,
          if_true, List.map_cons]
      · rw [referencesAmong_of_target htarget]
        exact hvisits.complete.cons _
  | @descend seen q path field rest target seen' seen'' inner outer htarget hnew hinner _ ihin
      ihout =>
      obtain ⟨below, hbelow⟩ := ihin
      obtain ⟨later, hlater⟩ := ihout
      have hexpanded : expandedAmong
          (⟨⟨path ++ Text.orNone field.name, q, target⟩, true⟩ :: below ++ later) =
          ⟨path ++ Text.orNone field.name, q, target⟩ :: expandedAmong below ++
            expandedAmong later := by
        simp [expandedAmong]
      refine ⟨⟨⟨path ++ Text.orNone field.name, q, target⟩, true⟩ :: below ++ later, ?_, ?_, ?_,
        ?_, ?_⟩
      · rw [List.cons_append, firstExpanded_cons_iff]
        refine ⟨by simp [Visit.target, hnew], hbelow.first.append (hlater.first.congr fun t => ?_)⟩
        rw [hbelow.entered, hbelow.first.mem_iff]
      · rw [hlater.entered, hbelow.entered, hexpanded]
        simp
      · simp [skippedAmong, hbelow.skipped, hlater.skipped]
      · rw [referencesAmong_of_target htarget, hexpanded, List.perm_iff_count]
        intro reference
        have hcount := hbelow.complete.count_eq reference
        have hcount' := hlater.complete.count_eq reference
        -- The references below the new one are those of the version that it embeds.
        have hhead : catalog.referencesBelow ⟨path ++ Text.orNone field.name, q, target⟩ =
            catalog.referencesAmong target (path ++ Text.orNone field.name ++ ".")
              (catalog.fieldsOf target) := rfl
        simp only [List.count_append, List.cons_append, List.count_cons, List.flatMap_append,
          List.flatMap_cons, List.map_append, List.map_cons, hhead] at hcount hcount' ⊢
        omega
      · intro reference hreference declared hdeclared
        rw [List.filterMap_append, List.mem_append]
        rw [hexpanded, List.cons_append, List.mem_cons, List.mem_append] at hreference
        rcases hreference with rfl | hreference | hreference
        · exact Or.inl (hinner.mem_met hdeclared)
        · exact Or.inl (hbelow.met reference hreference declared hdeclared)
        · exact Or.inr (hlater.met reference hreference declared hdeclared)

/-! ### The references of a merge -/

theorem owner_of_mem_referencesAmong {reference : Reference}
    (h : reference ∈ catalog.referencesAmong q path fields) : reference.owner = q := by
  obtain ⟨field, -, hfield⟩ := List.mem_filterMap.mp h
  obtain ⟨target, -, rfl⟩ := Option.map_eq_some_iff.mp hfield
  rfl

/-- Every reference stands in a type that the walk enters. -/
theorem Traces.owner_mem (h : catalog.Traces [q] q path fields seen' steps visits) {visit : Visit}
    (hvisit : visit ∈ visits) : visit.reference.owner ∈ seen' := by
  have hreference := h.complete.mem_iff.mpr (List.mem_map_of_mem (f := Visit.reference) hvisit)
  rw [h.entered]
  rcases List.mem_append.mp hreference with hreference | hreference
  · rw [owner_of_mem_referencesAmong hreference]
    exact List.mem_append_left _ (List.mem_singleton_self q)
  · obtain ⟨embedding, hembedding, hreference⟩ := List.mem_flatMap.mp hreference
    rw [owner_of_mem_referencesAmong hreference]
    exact List.mem_append_right _ (List.mem_map_of_mem hembedding)

theorem exists_merge_of_recordSteps (hq : (catalog.compound? q).isSome) {notes after : Notes}
    (h : catalog.recordSteps (catalog.walk q).steps [] notes = .ok (fields, after)) :
    ∃ schema, catalog.merge q notes = .ok (schema, after) := by
  obtain ⟨⟨style, declared⟩, hcompound⟩ := Option.isSome_iff_exists.mp hq
  unfold merge
  rw [hcompound]
  simp only [h]
  exact ⟨_, rfl⟩

/-- `visits` are the version references that the walk of `q` comes to. -/
def TracesWalk (catalog : Catalog) (q : QualifiedName) (visits : List Visit) : Prop :=
  catalog.Traces [q] q "" (catalog.fieldsOf q) (catalog.walk q).entered (catalog.walk q).steps
    visits

section Merge

variable {front back : List Visit} {visit : Visit} (hq : (catalog.compound? q).isSome)
  (h : catalog.TracesWalk q visits) (hvisits : visits = front ++ visit :: back)

include hq h hvisits

theorem TracesWalk.reaches_owner : catalog.Reaches q visit.reference.owner := by
  refine (mem_entered_walk_iff hq _).mp (h.owner_mem ?_)
  rw [hvisits]
  exact List.mem_append_right _ List.mem_cons_self

/-- A reference that is skipped leads back, or one before it has embedded the same version. -/
theorem TracesWalk.leads_back_or_repeats (hskipped : visit.expanded = false) :
    catalog.Reaches visit.target visit.reference.owner ∨
      ∃ earlier ∈ front, earlier.expanded ∧ earlier.target = visit.target := by
  have hseen : visit.target ∈ [q] ++ front.map Visit.target := by
    by_contra hnew
    rw [(h.first front visit back hvisits).mpr hnew] at hskipped
    cases hskipped
  by_cases hstart : visit.target = q
  · left
    rw [hstart]
    exact TracesWalk.reaches_owner hq h hvisits
  · right
    have hnew : visit.target ∉ [q] := fun hmem => hstart (List.mem_singleton.mp hmem)
    have hfront : FirstExpanded [q] front := by
      intro before earlier after hsplit
      refine h.first before earlier (after ++ visit :: back) ?_
      rw [hvisits, hsplit, List.append_assoc, List.cons_append]
    exact hfront.exists_expanded hnew ((List.mem_append.mp hseen).resolve_left hnew)

/-- A reference that does not lead back is expanded exactly if none before it has its target. -/
theorem TracesWalk.expanded_iff (hforth : ¬catalog.Reaches visit.target visit.reference.owner) :
    visit.expanded ↔ ∀ earlier ∈ front, earlier.target ≠ visit.target := by
  have hstart : visit.target ≠ q := by
    intro heq
    rw [heq] at hforth
    exact hforth (TracesWalk.reaches_owner hq h hvisits)
  rw [h.first front visit back hvisits, List.mem_append, List.mem_singleton, not_or, List.mem_map]
  constructor
  · exact fun hnew earlier hearlier heq => hnew.2 ⟨earlier, hearlier, heq⟩
  · exact fun hnew => ⟨hstart, fun ⟨earlier, hearlier, heq⟩ => hnew earlier hearlier heq⟩

end Merge

/-- **Skipped version references.** Of the references to one version the walk of a merge expands the
first one it comes to, and it skips all others, with the note that they lead back. A reference that
is skipped does lead back, or one before it was expanded that embeds the same version; so one that
does not lead back is expanded exactly if none before it has its target. The fields of a version are
met once, behind the path of the reference that was expanded, however many others embed it. -/
theorem merge_skips_repeated_embeddings (catalog : Catalog) (q : QualifiedName)
    (hq : (catalog.compound? q).isSome) (notes : Notes) :
    (∃ schema after visits, catalog.merge q notes = .ok (schema, after) ∧
      catalog.TracesWalk q visits ∧
      (∀ front visit back, visits = front ++ visit :: back →
        (visit.expanded = false →
          catalog.Reaches visit.target visit.reference.owner ∨
            ∃ earlier ∈ front, earlier.expanded ∧ earlier.target = visit.target) ∧
        (¬catalog.Reaches visit.target visit.reference.owner →
          (visit.expanded ↔ ∀ earlier ∈ front, earlier.target ≠ visit.target))) ∧
      (∀ visit ∈ visits, visit.expanded = false →
        ∃ note ∈ after.entries, SaysSkipped note visit.reference) ∧
      (∀ note ∈ after.entries, note ∉ notes.entries → note.kind = .unsupported →
        ∃ visit ∈ visits, visit.expanded = false ∧ SaysSkipped note visit.reference) ∧
      (catalog.walk q).entered.Nodup ∧
      ((catalog.walk q).fields.map Field.withoutAccess).Perm
        (((catalog.walk q).entered.flatMap catalog.plainFields).map Field.withoutAccess)) ∨
    (catalog.merge q notes = .error .absentText ∧
      ∃ t, catalog.Reaches q t ∧ ∃ field ∈ catalog.plainFields t, field.name = none) := by
  by_cases hnameless : ∃ field ∈ (catalog.walk q).fields, field.name = none
  · exact Or.inr ⟨merge_eq_error hq notes hnameless, (exists_met_iff hq none).mp hnameless⟩
  left
  obtain ⟨visits, htraces⟩ := (walk_expands hq).exists_traces
  obtain ⟨fields, more, hrecord, -, hskipped, hmore⟩ :=
    (Reported.nil : catalog.Reported [] [] []).recordSteps (catalog.walk q).steps notes
      fun field hfield hnone => hnameless ⟨field, hfield, hnone⟩
  obtain ⟨schema, hmerge⟩ := exists_merge_of_recordSteps hq hrecord
  rw [htraces.skipped] at hskipped hmore
  refine ⟨schema, notes.extend more, visits, hmerge, htraces, ?_, ?_, ?_, nodup_entered_walk hq,
    fields_walk_perm hq⟩
  · exact fun front visit back hvisits =>
      ⟨TracesWalk.leads_back_or_repeats hq htraces hvisits,
        TracesWalk.expanded_iff hq htraces hvisits⟩
  · intro visit hvisit hskips
    obtain ⟨note, hnote, hsays⟩ := hskipped visit.reference (mem_skippedAmong_iff.mpr
      ⟨visit, hvisit, hskips, rfl⟩)
    exact ⟨note, Notes.mem_extend_iff.mpr (Or.inr hnote), hsays⟩
  · intro note hnote hnew hkind
    rcases hmore note ((Notes.mem_extend_iff.mp hnote).resolve_left hnew) with
      hcollision | ⟨reference, hreference, hsays⟩
    · rw [hcollision] at hkind
      cases hkind
    · obtain ⟨visit, hvisit, hskips, rfl⟩ := mem_skippedAmong_iff.mp hreference
      exact ⟨visit, hvisit, hskips, hsays⟩

/-- Three versions of one struct: 1.2 embeds 1.1 and 1.0, 1.1 embeds 1.0 as well, and nothing leads
back. -/
def doubleEmbedding : Catalog :=
  ⟨[versionDiamond.release 0 [("a", .scalar .int32)],
    versionDiamond.release 1 [("v1_0", versionDiamond.other 0), ("b", .scalar .int32)],
    versionDiamond.release 2 [("v1_1", versionDiamond.other 1),
      ("v1_0", versionDiamond.other 0)]]⟩

/-- The second reference to 1.0 is skipped, although it does not lead back. -/
theorem merge_skips_repeated_embeddings_doubleEmbedding :
    (doubleEmbedding.compound? (versionDiamond.name 2)).isSome ∧
      ¬doubleEmbedding.Reaches (versionDiamond.name 0) (versionDiamond.name 2) ∧
      ∃ schema after,
        doubleEmbedding.merge (versionDiamond.name 2) {} = .ok (schema, after) ∧
        ∃ note ∈ after.entries,
          SaysSkipped note ⟨"v1_0", versionDiamond.name 2, versionDiamond.name 0⟩ := by
  have hq : (doubleEmbedding.compound? (versionDiamond.name 2)).isSome := by decide
  refine ⟨hq, fun hreaches => ?_, ?_⟩
  · have hplain : ∀ field ∈ doubleEmbedding.fieldsOf (versionDiamond.name 0),
        doubleEmbedding.versionTarget? (versionDiamond.name 0) field = none := by
      decide
    rcases hreaches.cases_head with heq | ⟨next, ⟨field, hfield, htarget⟩, -⟩
    · exact absurd heq (by decide)
    · rw [hplain field hfield] at htarget
      cases htarget
  · rcases merge_skips_repeated_embeddings doubleEmbedding (versionDiamond.name 2) hq {} with
      ⟨schema, after, visits, hmerge, htraces, -, hskips, -⟩ | ⟨-, t, hreach, field, hfield, hnone⟩
    · have hskipped : (⟨"v1_0", versionDiamond.name 2, versionDiamond.name 0⟩ : Reference) ∈
          (doubleEmbedding.walk (versionDiamond.name 2)).steps.filterMap Step.back? := by
        decide +kernel
      rw [htraces.skipped] at hskipped
      obtain ⟨visit, hvisit, hfalse, hreference⟩ := mem_skippedAmong_iff.mp hskipped
      rw [← hreference]
      exact ⟨schema, after, hmerge, hskips visit hvisit hfalse⟩
    · have hnamed : ∀ t ∈ (doubleEmbedding.walk (versionDiamond.name 2)).entered,
          ∀ field ∈ doubleEmbedding.plainFields t, field.name ≠ none := by
        decide
      exact absurd hnone (hnamed t ((mem_entered_walk_iff hq t).mpr hreach) field hfield)

end Catalog

end HalBridge
