import HalBridge.Proofs.KeptNewest
import HalBridge.Proofs.MergeWalk

/-!
# The newest declaration wins

Recording the fields that a walk meets leaves one entry for each name, in the order of first
occurrence, and the entry is the newest declaration of the name. The invariant `Recorded` relates
the entries to all fields met so far, so that one step of the recording is one more field met.
-/

namespace HalBridge

open Merge

/-- `field` is the newest of the `met` fields of its name, and the last of them if several are. -/
def Newest (met : List Field) (field : Field) : Prop :=
  ∃ before after, met = before ++ field :: after ∧
    (∀ other ∈ before, other.name = field.name → other.origin ≤ field.origin) ∧
    (∀ other ∈ after, other.name = field.name → ¬field.origin ≤ other.origin)

/-- The entries `fields` are what is left of the fields `met` so far. -/
structure Recorded (met fields : List Field) : Prop where
  names : FirstOccurrences (met.map Field.name) (fields.map Field.name)
  newest : ∀ field ∈ fields, Newest met field

theorem recorded_iff {met fields : List Field} :
    Recorded met fields ↔ KeptNewest Field.name Field.origin met fields :=
  ⟨fun h => ⟨h.names, h.newest⟩, fun h => ⟨h.keys, h.newest⟩⟩

namespace Catalog

section Recording

variable (catalog : Catalog)

/-- A recorded field is added at the end, or it meets the entry of its name, which it replaces
unless it is older. -/
theorem recordField_cases (field : Field) (name : String) (fields : List Field) :
    (some name ∉ fields.map Field.name ∧
      catalog.recordField field name fields = (fields ++ [field], [])) ∨
    ∃ front existing back, fields = front ++ existing :: back ∧ existing.name = some name ∧
      ((existing.origin ≤ field.origin ∧
          catalog.recordField field name fields =
            (front ++ field :: back, [catalog.collisionNote field existing name field.owner])) ∨
        (¬existing.origin ≤ field.origin ∧
          catalog.recordField field name fields =
            (fields, [catalog.collisionNote existing field name field.owner]))) := by
  induction fields with
  | nil => exact Or.inl ⟨by simp, by simp [recordField]⟩
  | cons entry rest ih =>
      by_cases hname : entry.name = some name
      · refine Or.inr ⟨[], entry, rest, rfl, hname, ?_⟩
        by_cases hle : entry.origin ≤ field.origin
        · exact Or.inl ⟨hle, by simp [recordField, hname, hle]⟩
        · exact Or.inr ⟨hle, by simp [recordField, hname, hle]⟩
      · rcases ih with ⟨hnew, heq⟩ | ⟨front, existing, back, rfl, hexisting, hcase⟩
        · refine Or.inl ⟨?_, by simp [recordField, hname, heq]⟩
          rw [List.map_cons, List.mem_cons]
          exact fun hor => hor.elim (fun h => hname h.symm) hnew
        · refine Or.inr ⟨entry :: front, existing, back, rfl, hexisting, ?_⟩
          rcases hcase with ⟨hle, heq⟩ | ⟨hle, heq⟩
          · exact Or.inl ⟨hle, by simp [recordField, hname, heq]⟩
          · exact Or.inr ⟨hle, by simp [recordField, hname, heq]⟩

theorem recordField_keeps {fields : List Field} {field : Field} {name : String}
    (hname : field.name = some name) :
    Keeps Field.name Field.origin field fields (catalog.recordField field name fields).1 := by
  rcases catalog.recordField_cases field name fields with
    ⟨hnew, heq⟩ | ⟨front, existing, back, hfields, hexisting, hcase⟩
  · rw [heq]
    exact .added (hname ▸ hnew)
  · have hsame : field.name = existing.name := hname.trans hexisting.symm
    rcases hcase with ⟨hle, heq⟩ | ⟨hle, heq⟩
    · rw [heq]
      exact .replaced hfields hsame hle
    · rw [heq]
      refine .refused ?_ hsame hle
      rw [hfields]
      exact List.mem_append_right _ List.mem_cons_self

/-- Recording one more field keeps the invariant. -/
theorem recorded_recordField {met fields : List Field} {field : Field} {name : String}
    (h : Recorded met fields) (hname : field.name = some name) :
    Recorded (met ++ [field]) (catalog.recordField field name fields).1 :=
  recorded_iff.mpr ((recorded_iff.mp h).offer (catalog.recordField_keeps hname))

/-- Recording all that a walk met keeps the invariant, if every field has a name. -/
theorem recordSteps_recorded {met fields : List Field} (steps : List Step) (notes : Notes)
    (h : Recorded met fields)
    (hnamed : ∀ field ∈ steps.filterMap Step.field?, field.name ≠ none) :
    ∃ fields' notes', catalog.recordSteps steps fields notes = .ok (fields', notes') ∧
      Recorded (met ++ steps.filterMap Step.field?) fields' := by
  induction steps generalizing met fields notes with
  | nil => exact ⟨fields, notes, rfl, by simpa using h⟩
  | cons step rest ih =>
      cases step with
      | back path owner target =>
          exact ih _ h hnamed
      | field field =>
          rw [List.filterMap_cons] at hnamed ⊢
          cases hname : field.name with
          | none => exact absurd hname (hnamed field (List.mem_cons_self ..))
          | some name =>
              obtain ⟨fields', notes', heq, hrecorded⟩ :=
                ih (notes.extend (catalog.recordField field name fields).2)
                  (catalog.recorded_recordField h hname)
                  (fun later hlater => hnamed later (List.mem_cons_of_mem _ hlater))
              refine ⟨fields', notes', ?_, ?_⟩
              · simp only [recordSteps, hname]
                exact heq
              · simpa [Step.field?] using hrecorded

/-- A field without a name cannot be recorded. -/
theorem recordSteps_error {fields : List Field} (steps : List Step) (notes : Notes)
    (hnameless : ∃ field ∈ steps.filterMap Step.field?, field.name = none) :
    catalog.recordSteps steps fields notes = .error .absentText := by
  induction steps generalizing fields notes with
  | nil => simp at hnameless
  | cons step rest ih =>
      cases step with
      | back path owner target => exact ih _ hnameless
      | field field =>
          cases hname : field.name with
          | none => simp [recordSteps, hname]
          | some name =>
              simp only [recordSteps, hname]
              refine ih _ ?_
              obtain ⟨nameless, hmem, hnone⟩ := hnameless
              rw [List.filterMap_cons] at hmem
              rcases List.mem_cons.mp hmem with rfl | hmem
              · rw [hname] at hnone
                cases hnone
              · exact ⟨nameless, hmem, hnone⟩

end Recording

/-- `schema` is what merging `q` gives: one entry for each name among the fields of the versions
reached, the newest declaration, and the types nested in these versions, all in the order in which
the walk comes to them. -/
structure MergesTo (catalog : Catalog) (q : QualifiedName) (schema : MergedSchema) : Prop where
  name : schema.name = q
  style : some schema.style = (catalog.compound? q).map Prod.fst
  present : ∀ name, (∃ field ∈ schema.fields, field.name = name) ↔
    ∃ t, catalog.Reaches q t ∧ ∃ field ∈ catalog.plainFields t, field.name = name
  ordered : FirstOccurrences ((catalog.walk q).fields.map Field.name)
    (schema.fields.map Field.name)
  newest : ∀ field ∈ schema.fields, Newest (catalog.walk q).fields field
  nested : FirstOccurrences ((catalog.walk q).entered.flatMap catalog.subTypesOf) schema.subTypes

section Merging

variable {catalog : Catalog}

theorem exists_met_iff {q : QualifiedName} (hq : (catalog.compound? q).isSome)
    (name : Option String) :
    (∃ field ∈ (catalog.walk q).fields, field.name = name) ↔
      ∃ t, catalog.Reaches q t ∧ ∃ field ∈ catalog.plainFields t, field.name = name := by
  have hperm := (fields_walk_perm hq).map Field.name
  rw [List.map_map, List.map_map] at hperm
  have hmem := hperm.mem_iff (a := name)
  simp only [List.mem_map, List.mem_flatMap, Function.comp_apply, Field.withoutAccess,
    mem_entered_walk_iff hq] at hmem
  rw [hmem]
  constructor
  · rintro ⟨field, ⟨t, hreach, hfield⟩, hname⟩
    exact ⟨t, hreach, field, hfield, hname⟩
  · rintro ⟨t, hreach, field, hfield, hname⟩
    exact ⟨field, ⟨t, hreach, hfield⟩, hname⟩

theorem merge_eq_ok {q : QualifiedName} (hq : (catalog.compound? q).isSome) (notes : Notes)
    (hnamed : ∀ field ∈ (catalog.walk q).fields, field.name ≠ none) :
    ∃ schema notes', catalog.merge q notes = .ok (schema, notes') ∧
      catalog.MergesTo q schema := by
  have hstart : Recorded [] [] := ⟨.nil, by simp⟩
  obtain ⟨fields, notes', hrecord, hrecorded⟩ :=
    catalog.recordSteps_recorded (catalog.walk q).steps notes hstart hnamed
  obtain ⟨⟨style, declared⟩, hcompound⟩ := Option.isSome_iff_exists.mp hq
  rw [List.nil_append] at hrecorded
  refine ⟨{ name := q, style, fields
            subTypes := distinct ((catalog.walk q).entered.flatMap catalog.subTypesOf) },
    notes', ?_, ?_⟩
  · unfold merge
    rw [hcompound]
    simp only [hrecord]
    rfl
  · refine ⟨rfl, by rw [hcompound]; rfl, ?_, hrecorded.names, hrecorded.newest,
      firstOccurrences_distinct _⟩
    intro name
    rw [← exists_met_iff hq]
    have hkeys := hrecorded.names.mem_iff name
    simp only [List.mem_map] at hkeys
    exact hkeys

theorem merge_eq_error {q : QualifiedName} (hq : (catalog.compound? q).isSome) (notes : Notes)
    (hnameless : ∃ field ∈ (catalog.walk q).fields, field.name = none) :
    catalog.merge q notes = .error .absentText := by
  obtain ⟨⟨style, declared⟩, hcompound⟩ := Option.isSome_iff_exists.mp hq
  unfold merge
  rw [hcompound]
  simp only [catalog.recordSteps_error (catalog.walk q).steps notes hnameless]
  rfl

end Merging

/-- Merging walks, depth first, exactly the versions that version references lead to, each of them
once and each of their fields once, and keeps the newest declaration of every name. It fails only
for a field without a name. -/
theorem merge_keeps_newest (catalog : Catalog) (q : QualifiedName) (notes : Notes)
    (hq : (catalog.compound? q).isSome) :
    catalog.Expands [q] q "" (catalog.fieldsOf q) (catalog.walk q).entered
        (catalog.walk q).steps ∧
      (catalog.walk q).entered.Nodup ∧
      (∀ t, t ∈ (catalog.walk q).entered ↔ catalog.Reaches q t) ∧
      ((catalog.walk q).fields.map Field.withoutAccess).Perm
        (((catalog.walk q).entered.flatMap catalog.plainFields).map Field.withoutAccess) ∧
      ((∃ schema notes', catalog.merge q notes = .ok (schema, notes') ∧
          catalog.MergesTo q schema) ∨
        (catalog.merge q notes = .error .absentText ∧
          ∃ t, catalog.Reaches q t ∧ ∃ field ∈ catalog.plainFields t, field.name = none)) := by
  refine ⟨walk_expands hq, nodup_entered_walk hq, mem_entered_walk_iff hq, fields_walk_perm hq, ?_⟩
  by_cases hnameless : ∃ field ∈ (catalog.walk q).fields, field.name = none
  · exact Or.inr ⟨merge_eq_error hq notes hnameless, (exists_met_iff hq none).mp hnameless⟩
  · refine Or.inl (merge_eq_ok hq notes ?_)
    exact fun field hfield hnone => hnameless ⟨field, hfield, hnone⟩

/-- Three versions of one struct: 1.2 embeds 1.1 and 1.0, 1.1 embeds 1.0 as well, and 1.0 leads
back to 1.2. -/
def versionDiamond : Catalog :=
  ⟨[release 0 [("next", other 2), ("a", .string)],
    release 1 [("v1_0", other 0), ("b", .string)],
    release 2 [("v1_1", other 1), ("v1_0", other 0), ("a", .scalar .int32)]]⟩
where
  name (minor : Nat) : QualifiedName := ⟨"p", ⟨1, minor⟩, some "S", []⟩
  other (minor : Nat) : Ty := .named (.declared (name minor))
  release (minor : Nat) (fields : List (String × Ty)) : Decl :=
    { name := name minor, comment := none, scopes := [], subTypes := []
      body := .compound .struct (fields.map fun (field, type) =>
        { name := some field, type, owner := name minor, origin := ⟨1, minor⟩
          access := some field, comment := none }) }

theorem merge_versionDiamond :
    (versionDiamond.compound? (versionDiamond.name 2)).isSome ∧
      ∃ schema notes, versionDiamond.merge (versionDiamond.name 2) {} = .ok (schema, notes) ∧
        versionDiamond.MergesTo (versionDiamond.name 2) schema := by
  have hq : (versionDiamond.compound? (versionDiamond.name 2)).isSome := by decide
  obtain ⟨-, -, hreached, -, hmerged⟩ :=
    merge_keeps_newest versionDiamond (versionDiamond.name 2) {} hq
  refine ⟨hq, ?_⟩
  rcases hmerged with hok | ⟨-, t, hreach, field, hfield, hnone⟩
  · exact hok
  · have hnamed : ∀ t ∈ (versionDiamond.walk (versionDiamond.name 2)).entered,
        ∀ field ∈ versionDiamond.plainFields t, field.name ≠ none := by decide
    exact absurd hnone (hnamed t ((hreached t).mpr hreach) field hfield)

end Catalog

end HalBridge
