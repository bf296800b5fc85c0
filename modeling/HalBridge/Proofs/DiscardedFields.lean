import HalBridge.Proofs.MergeNewest
import HalBridge.Proofs.NoteSink

/-!
# Nothing is merged away in silence

Of several fields with one name merging keeps one. A field is discarded either when the walk comes
to it, because the one kept so far is newer, or later, when the walk comes to one that is no older.
The invariant `Reported` pairs every field that was met and is not kept with a note on it, and every
note with such a field; one more field met adds a field that is discarded at most. A version
reference is either expanded or skipped with a note.
-/

namespace HalBridge

open Merge

/-! ### When a field is discarded -/

/-- Met after `before`, `field` becomes the entry of its name and stays it throughout `after`. -/
def KeptAt (before : List Field) (field : Field) (after : List Field) : Prop :=
  (∀ other ∈ before, other.name = field.name → other.origin ≤ field.origin) ∧
    ∀ other ∈ after, other.name = field.name → ¬field.origin ≤ other.origin

/-- Met between `before` and `after`, `field` is discarded in favour of `kept`. -/
inductive DiscardedAt (before : List Field) (field : Field) (after : List Field) (kept : Field) :
    Prop where
  /-- It is older than the entry of its name when the walk comes to it. -/
  | refused (hkept : Newest before kept) (hname : kept.name = field.name)
      (hle : ¬kept.origin ≤ field.origin)
  /-- It is the entry of its name until the walk comes to `kept`, which is no older. -/
  | replaced {between later : List Field} (hafter : after = between ++ kept :: later)
      (hname : kept.name = field.name) (hheld : KeptAt before field between)
      (hle : field.origin ≤ kept.origin)

variable {before after met : List Field} {field kept x : Field}

theorem newest_of_keptAt (h : KeptAt before field after) :
    Newest (before ++ field :: after) field :=
  ⟨before, after, rfl, h⟩

theorem Newest.lastNewest (h : Newest met field) : LastNewest Field.name Field.origin met field :=
  h

theorem KeptAt.append_of_older (h : KeptAt before field after)
    (hx : x.name = field.name → ¬field.origin ≤ x.origin) : KeptAt before field (after ++ [x]) := by
  refine ⟨h.1, ?_⟩
  intro other hother
  rcases List.mem_append.mp hother with hother | hother
  · exact h.2 other hother
  · rw [List.mem_singleton.mp hother]
    exact hx

theorem DiscardedAt.append (h : DiscardedAt before field after kept) (more : List Field) :
    DiscardedAt before field (after ++ more) kept := by
  cases h with
  | refused hkept hname hle => exact .refused hkept hname hle
  | @replaced between later hafter hname hheld hle =>
      have hmore : after ++ more = between ++ kept :: (later ++ more) := by
        rw [hafter, List.append_assoc, List.cons_append]
      exact .replaced hmore hname hheld hle

/-! ### What the notes say -/

namespace Catalog

/-- The note says that `discarded` is discarded and `kept` kept, with the types and the versions of
both. -/
def SaysDiscarded (catalog : Catalog) (note : Note) (kept discarded : Field) : Prop :=
  note.kind = .collision ∧
    ∃ name type, discarded.name = some name ∧
      (type = kept.owner.localName ∨ type = discarded.owner.localName) ∧
      note.message = "Found conflicting field name \"" ++ name ++ "\" in different versions of " ++
        type ++ ". Keeping " ++ catalog.typeText kept.type ++ " from " ++ kept.origin.toText ++
        " and discarding " ++ catalog.typeText discarded.type ++ " from " ++
        discarded.origin.toText ++ "."

/-- A version reference as the walk meets it: its access path, the type that declares it and the
version that it embeds. -/
structure Reference where
  path : String
  owner : QualifiedName
  target : QualifiedName
deriving DecidableEq

/-- The note says that the reference is skipped. -/
def SaysSkipped (note : Note) (reference : Reference) : Prop :=
  note.kind = .unsupported ∧
    note.message = "Version reference cycle: field \"" ++ reference.path ++ "\" of " ++
      reference.owner.toText ++ " refers back to " ++ reference.target.toText ++ ". Skipping it."

theorem saysDiscarded_collisionNote (catalog : Catalog) (kept discarded : Field) {name : String}
    {owner : QualifiedName} (hname : discarded.name = some name)
    (howner : owner = kept.owner ∨ owner = discarded.owner) :
    catalog.SaysDiscarded (catalog.collisionNote kept discarded name owner) kept discarded := by
  refine ⟨rfl, name, owner.localName, hname, ?_, ?_⟩
  · exact howner.imp (congrArg QualifiedName.localName) (congrArg QualifiedName.localName)
  · simp [collisionNote, toString, String.append_assoc]

theorem saysSkipped_backNote (reference : Reference) :
    SaysSkipped (backNote reference.path reference.owner reference.target) reference := by
  refine ⟨rfl, ?_⟩
  simp [backNote, toString, String.append_assoc]

/-! ### Version references -/

/-- The version references among fields of `q`, which `path` reaches. -/
def referencesAmong (catalog : Catalog) (q : QualifiedName) (path : String)
    (fields : List Field) : List Reference :=
  fields.filterMap fun field =>
    (catalog.versionTarget? q field).map fun target => ⟨path ++ Text.orNone field.name, q, target⟩

/-- The version references in the version that a reference embeds. -/
def referencesBelow (catalog : Catalog) (reference : Reference) : List Reference :=
  catalog.referencesAmong reference.target (reference.path ++ ".")
    (catalog.fieldsOf reference.target)

end Catalog

namespace Merge

def Step.back? : Step → Option Catalog.Reference
  | .field _ => none
  | .back path owner target => some ⟨path, owner, target⟩

/-- The version references that a walk does not follow. -/
def Walk.skipped (walk : Walk) : List Catalog.Reference :=
  walk.steps.filterMap Step.back?

end Merge

namespace Catalog

section References

variable {catalog : Catalog} {q : QualifiedName} {path : String} {fields : List Field}
  {field : Field} {seen seen' : List QualifiedName} {steps : List Step}

theorem referencesAmong_of_plain (h : catalog.versionTarget? q field = none) :
    catalog.referencesAmong q path (field :: fields) = catalog.referencesAmong q path fields := by
  simp [referencesAmong, h]

theorem referencesAmong_of_target {target : QualifiedName}
    (h : catalog.versionTarget? q field = some target) :
    catalog.referencesAmong q path (field :: fields) =
      ⟨path ++ Text.orNone field.name, q, target⟩ :: catalog.referencesAmong q path fields := by
  simp [referencesAmong, h]

end References

/-! ### Recording -/

/-- What was met is kept or noted: each field that is not kept has a note on it, and each note on a
collision is about such a field. -/
structure Reported (catalog : Catalog) (met fields : List Field) (noted : List Note) : Prop where
  recorded : Recorded met fields
  discarded : ∀ before field after, met = before ++ field :: after →
    KeptAt before field after ∨
      ∃ kept, DiscardedAt before field after kept ∧
        ∃ note ∈ noted, catalog.SaysDiscarded note kept field
  collisions : ∀ note ∈ noted, note.kind = .collision →
    ∃ before field after kept, met = before ++ field :: after ∧
      DiscardedAt before field after kept ∧ catalog.SaysDiscarded note kept field

variable {catalog : Catalog} {fields : List Field} {noted : List Note} {name : String}

theorem Reported.nil : catalog.Reported [] [] [] where
  recorded := ⟨.nil, by simp⟩
  discarded := by simp
  collisions := by simp

/-- A note that is not on a collision changes nothing. -/
theorem Reported.append_other (h : catalog.Reported met fields noted) {note : Note}
    (hnote : note.kind ≠ .collision) : catalog.Reported met fields (noted ++ [note]) where
  recorded := h.recorded
  discarded := by
    intro before field after hmet
    refine (h.discarded before field after hmet).imp_right ?_
    rintro ⟨kept, hdiscarded, said, hsaid, hsays⟩
    exact ⟨kept, hdiscarded, said, List.mem_append_left _ hsaid, hsays⟩
  collisions := by
    intro said hsaid hkind
    rcases List.mem_append.mp hsaid with hsaid | hsaid
    · exact h.collisions said hsaid hkind
    · rw [List.mem_singleton.mp hsaid] at hkind
      exact absurd hkind hnote

/-- One more field met: what was kept or noted before is still, unless `x` takes its place, and `x`
itself is the last one met. -/
theorem Reported.extend (h : catalog.Reported met fields noted) {fields' : List Field}
    {more : List Note} (hrecorded : Recorded (met ++ [x]) fields')
    (hreplaced : ∀ before field after, met = before ++ field :: after →
      KeptAt before field after → x.name = field.name → field.origin ≤ x.origin →
      ∃ note ∈ more, catalog.SaysDiscarded note x field)
    (hlast : KeptAt met x [] ∨
      ∃ kept, DiscardedAt met x [] kept ∧ ∃ note ∈ more, catalog.SaysDiscarded note kept x)
    (hmore : ∀ note ∈ more, ∃ before field after kept, met ++ [x] = before ++ field :: after ∧
      DiscardedAt before field after kept ∧ catalog.SaysDiscarded note kept field) :
    catalog.Reported (met ++ [x]) fields' (noted ++ more) where
  recorded := hrecorded
  discarded := by
    intro before field after hmet
    rcases List.eq_nil_or_concat' after with rfl | ⟨rest, last, rfl⟩
    · obtain ⟨rfl, hx⟩ := List.append_inj' hmet rfl
      obtain rfl := List.singleton_inj.mp hx
      refine hlast.imp_right ?_
      rintro ⟨kept, hdiscarded, note, hnote, hsays⟩
      exact ⟨kept, hdiscarded, note, List.mem_append_right _ hnote, hsays⟩
    · rw [← List.cons_append, ← List.append_assoc] at hmet
      obtain ⟨hfront, hx⟩ := List.append_inj' hmet rfl
      obtain rfl := List.singleton_inj.mp hx
      rcases h.discarded before field rest hfront with
        hkept | ⟨kept, hdiscarded, note, hnote, hsays⟩
      · by_cases htaken : x.name = field.name ∧ field.origin ≤ x.origin
        · obtain ⟨hname, hle⟩ := htaken
          obtain ⟨note, hnote, hsays⟩ := hreplaced before field rest hfront hkept hname hle
          exact Or.inr ⟨x, .replaced rfl hname hkept hle, note, List.mem_append_right _ hnote,
            hsays⟩
        · exact Or.inl (hkept.append_of_older fun hname hle => htaken ⟨hname, hle⟩)
      · exact Or.inr ⟨kept, hdiscarded.append [x], note, List.mem_append_left _ hnote, hsays⟩
  collisions := by
    intro note hnote hkind
    rcases List.mem_append.mp hnote with hnote | hnote
    · obtain ⟨before, field, after, kept, rfl, hdiscarded, hsays⟩ :=
        h.collisions note hnote hkind
      exact ⟨before, field, after ++ [x], kept, by simp, hdiscarded.append [x], hsays⟩
    · exact hmore note hnote

/-- Recording a field reports on the one that is discarded for it, if there is one. -/
theorem Reported.recordField (h : catalog.Reported met fields noted) (hx : x.name = some name) :
    catalog.Reported (met ++ [x]) (catalog.recordField x name fields).1
      (noted ++ (catalog.recordField x name fields).2) := by
  have hrecorded := catalog.recorded_recordField h.recorded hx
  rcases catalog.recordField_cases x name fields with
    ⟨hnew, heq⟩ | ⟨front, existing, back, hfields, hexisting, hcase⟩
  · rw [heq] at hrecorded ⊢
    have hother : ∀ other ∈ met, other.name ≠ x.name := by
      intro other hmet hname
      apply hnew
      rw [← hx, ← hname, h.recorded.names.mem_iff]
      exact List.mem_map_of_mem hmet
    refine h.extend hrecorded ?_ (Or.inl ⟨?_, by simp⟩) (by simp)
    · intro before field after hmet _ hname
      exact absurd hname.symm (hother field (by simp [hmet]))
    · exact fun other hmet hname => absurd hname (hother other hmet)
  · have hentry : existing ∈ fields := by simp [hfields]
    have hnewest := h.recorded.newest existing hentry
    have hname : x.name = existing.name := hx.trans hexisting.symm
    rcases hcase with ⟨hle, heq⟩ | ⟨hle, heq⟩
    · rw [heq] at hrecorded ⊢
      have hsays := catalog.saysDiscarded_collisionNote x existing hexisting
        (Or.inl (Eq.refl x.owner))
      refine h.extend hrecorded ?_ (Or.inl ⟨?_, by simp⟩) ?_
      · -- The field that `x` takes the place of is the entry, since only one of a name is kept.
        intro before field after hmet hkept hsame _
        have hfield : Newest met field := hmet ▸ newest_of_keptAt hkept
        obtain rfl : field = existing :=
          hfield.lastNewest.unique hnewest (hsame.symm.trans hname)
        exact ⟨_, List.mem_singleton_self _, hsays⟩
      · intro other hother hsame
        exact Version.le_trans (hnewest.lastNewest.version_le hother (hsame.trans hname)) hle
      · intro note hnote
        obtain ⟨before, after, hmet, hkept⟩ := hnewest
        refine ⟨before, existing, after ++ [x], x, by simp [hmet],
          .replaced rfl hname hkept hle, ?_⟩
        rw [List.mem_singleton.mp hnote]
        exact hsays
    · rw [heq] at hrecorded ⊢
      have hsays := catalog.saysDiscarded_collisionNote existing x hx
        (Or.inr (Eq.refl x.owner))
      have hrefused : DiscardedAt met x [] existing := .refused hnewest hname.symm hle
      refine h.extend hrecorded ?_
        (Or.inr ⟨existing, hrefused, _, List.mem_singleton_self _, hsays⟩) ?_
      · intro before field after hmet hkept hsame hle'
        have hfield : Newest met field := hmet ▸ newest_of_keptAt hkept
        obtain rfl : field = existing :=
          hfield.lastNewest.unique hnewest (hsame.symm.trans hname)
        exact absurd hle' hle
      · intro note hnote
        refine ⟨met, x, [], existing, rfl, hrefused, ?_⟩
        rw [List.mem_singleton.mp hnote]
        exact hsays

theorem kind_of_recordField {note : Note} (hnote : note ∈ (catalog.recordField x name fields).2) :
    note.kind = .collision := by
  rcases catalog.recordField_cases x name fields with
    ⟨-, heq⟩ | ⟨front, existing, back, -, -, ⟨-, heq⟩ | ⟨-, heq⟩⟩
  · rw [heq] at hnote
    cases hnote
  · rw [heq] at hnote
    rw [List.mem_singleton.mp hnote]
    rfl
  · rw [heq] at hnote
    rw [List.mem_singleton.mp hnote]
    rfl

/-- Recording all that a walk met reports on every field that is discarded and on every reference
that is skipped, and on nothing else. -/
theorem Reported.recordSteps (h : catalog.Reported met fields noted) (steps : List Step)
    (notes : Notes) (hnamed : ∀ field ∈ steps.filterMap Step.field?, field.name ≠ none) :
    ∃ fields' more, catalog.recordSteps steps fields notes = .ok (fields', notes.extend more) ∧
      catalog.Reported (met ++ steps.filterMap Step.field?) fields' (noted ++ more) ∧
      (∀ reference ∈ steps.filterMap Step.back?, ∃ note ∈ more, SaysSkipped note reference) ∧
      ∀ note ∈ more, note.kind = .collision ∨
        ∃ reference ∈ steps.filterMap Step.back?, SaysSkipped note reference := by
  induction steps generalizing met fields noted notes with
  | nil => exact ⟨fields, [], rfl, by simpa using h, by simp, by simp⟩
  | cons step rest ih =>
      cases step with
      | back path owner target =>
          have hsays := saysSkipped_backNote ⟨path, owner, target⟩
          have hkind : (backNote path owner target).kind ≠ .collision := by simp [backNote]
          obtain ⟨fields', more, heq, hreported, hskipped, hmore⟩ :=
            ih (h.append_other hkind) (notes.add (backNote path owner target)) hnamed
          refine ⟨fields', backNote path owner target :: more, heq, ?_, ?_, ?_⟩
          · rw [List.append_assoc] at hreported
            exact hreported
          · intro reference hreference
            rw [List.filterMap_cons] at hreference
            rcases List.mem_cons.mp hreference with rfl | hreference
            · exact ⟨_, List.mem_cons_self, hsays⟩
            · obtain ⟨note, hnote, hsays⟩ := hskipped reference hreference
              exact ⟨note, List.mem_cons_of_mem _ hnote, hsays⟩
          · intro note hnote
            rw [List.filterMap_cons]
            rcases List.mem_cons.mp hnote with rfl | hnote
            · exact Or.inr ⟨⟨path, owner, target⟩, List.mem_cons_self, hsays⟩
            · refine (hmore note hnote).imp_right ?_
              rintro ⟨reference, hreference, hsays⟩
              exact ⟨reference, List.mem_cons_of_mem _ hreference, hsays⟩
      | field field =>
          rw [List.filterMap_cons] at hnamed
          obtain ⟨name, hname⟩ := Option.ne_none_iff_exists'.mp (hnamed field List.mem_cons_self)
          obtain ⟨fields', more, heq, hreported, hskipped, hmore⟩ :=
            ih (h.recordField hname) (notes.extend (catalog.recordField field name fields).2)
              (fun later hlater => hnamed later (List.mem_cons_of_mem _ hlater))
          refine ⟨fields', (catalog.recordField field name fields).2 ++ more, ?_, ?_, ?_, ?_⟩
          · rw [Notes.extend_append]
            simp only [Catalog.recordSteps, hname]
            exact heq
          · simpa [Step.field?] using hreported
          · intro reference hreference
            obtain ⟨note, hnote, hsays⟩ := hskipped reference hreference
            exact ⟨note, List.mem_append_right _ hnote, hsays⟩
          · intro note hnote
            rcases List.mem_append.mp hnote with hnote | hnote
            · exact Or.inl (kind_of_recordField hnote)
            · exact hmore note hnote

end Catalog

end HalBridge
