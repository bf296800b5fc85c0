import HalBridge.Proofs.ReleaseDeclarations
import HalBridge.Proofs.ReleaseFiles

/-!
# Complete documents

A document is complete if no null stands where a part is required. A file is legible if it holds a
complete document or is refused with a message; then every definition that occurs in its document,
however deep inside others, is complete.
-/

namespace HalBridge

namespace Document

def TypeRef.isComplete : TypeRef → Bool
  | ⟨kind, _, _, none, _⟩ => kind.isSome
  | ⟨kind, _, _, some element, _⟩ => kind.isSome && element.isComplete

def FieldDef.isComplete (field : FieldDef) : Bool :=
  field.name.isSome && field.type.any TypeRef.isComplete

def EnumValueDef.isComplete (value : EnumValueDef) : Bool :=
  value.name.isSome

/-- Whether a list is there and so are all of its entries. -/
def isFilled {α : Type} (isComplete : α → Bool) (entries : Option (List (Option α))) : Bool :=
  entries.any fun entries => entries.all (Option.any isComplete)

mutual

def TypeDef.isComplete : TypeDef → Bool
  | ⟨_, _, _, none, _, _, _, _⟩ => false
  | ⟨name, kind, fields, some members, storage, values, aliased, _⟩ =>
      name.isSome && kind.isSome && isFilled FieldDef.isComplete fields
        && TypeDef.areComplete members && storage.all TypeRef.isComplete
        && isFilled EnumValueDef.isComplete values && aliased.all TypeRef.isComplete

def TypeDef.areComplete : List (Option TypeDef) → Bool
  | [] => true
  | none :: _ => false
  | some definition :: rest => definition.isComplete && TypeDef.areComplete rest

end

def Release.isComplete (release : Release) : Bool :=
  release.package.isSome && release.version.isSome && release.types.any TypeDef.areComplete
    && release.unhandledComments.isSome

/-- Whether the text of a file is a complete document or is refused with a message. -/
def isLegible (text : String) : Bool :=
  match Json.parse? text with
  | none => true
  | some value =>
      match Release.decode value with
      | .ok release => release.isComplete
      | .error (.missing _) | .error .unreadable => true
      | .error .notAnObject | .error .infinite => false

/-! ### The parts of a complete document -/

theorem exists_of_isFilled {α : Type} {isComplete : α → Bool} {entries : Option (List (Option α))}
    (h : isFilled isComplete entries) :
    ∃ listed, entries = some listed ∧
      ∀ entry ∈ listed, ∃ part, entry = some part ∧ isComplete part := by
  unfold isFilled at h
  obtain ⟨listed, rfl, hall⟩ := (Option.any_eq_true ..).mp h
  refine ⟨listed, rfl, ?_⟩
  intro entry hentry
  exact (Option.any_eq_true ..).mp (List.all_eq_true.mp hall entry hentry)

theorem TypeDef.areComplete_iff {definitions : List (Option TypeDef)} :
    TypeDef.areComplete definitions ↔
      ∀ entry ∈ definitions, ∃ definition : TypeDef, entry = some definition ∧
        definition.isComplete := by
  induction definitions with
  | nil => simp [TypeDef.areComplete]
  | cons first rest ih =>
      cases first with
      | none => simp [TypeDef.areComplete]
      | some definition => simp [TypeDef.areComplete, ih]

/-- What a complete definition has. -/
structure TypeDef.Complete (definition : TypeDef) : Prop where
  fields : ∃ fields, definition.fields = some fields ∧
    ∀ entry ∈ fields, ∃ field : FieldDef, entry = some field ∧ field.isComplete
  members : ∃ members, definition.subTypes = some members ∧ TypeDef.areComplete members
  values : ∃ values, definition.values = some values ∧
    ∀ entry ∈ values, ∃ value : EnumValueDef, entry = some value ∧ value.isComplete

theorem TypeDef.complete_of_isComplete {definition : TypeDef} (h : definition.isComplete) :
    definition.Complete := by
  obtain ⟨name, kind, fields, subTypes, storage, values, aliased, comment⟩ := definition
  cases subTypes with
  | none => exact absurd h Bool.false_ne_true
  | some members =>
      rw [TypeDef.isComplete] at h
      simp only [Bool.and_eq_true] at h
      obtain ⟨⟨⟨⟨⟨-, hfields⟩, hmembers⟩, -⟩, hvalues⟩, -⟩ := h
      exact ⟨exists_of_isFilled hfields, ⟨members, rfl, hmembers⟩, exists_of_isFilled hvalues⟩

theorem Release.types_of_isComplete {release : Release} (h : release.isComplete) :
    ∃ definitions, release.types = some definitions ∧ TypeDef.areComplete definitions := by
  unfold Release.isComplete at h
  simp only [Bool.and_eq_true] at h
  exact (Option.any_eq_true ..).mp h.1.2

theorem Release.comments_of_isComplete {release : Release} (h : release.isComplete) :
    ∃ comments, release.unhandledComments = some comments := by
  unfold Release.isComplete at h
  simp only [Bool.and_eq_true] at h
  exact Option.isSome_iff_exists.mp h.2

end Document

open Document

theorem Resolver.Occurs.isComplete {key : QualifiedName} {scopes inner : List QualifiedName}
    {definitions : List (Option TypeDef)} {definition : TypeDef}
    (h : Occurs key scopes definitions inner definition)
    (hcomplete : TypeDef.areComplete definitions) : definition.isComplete := by
  induction h with
  | top h =>
      obtain ⟨found, hfound, hdefinition⟩ := TypeDef.areComplete_iff.mp hcomplete _ h
      rwa [Option.some.inj hfound]
  | nested _ hmembers h ih =>
      obtain ⟨members, hsame, hall⟩ := (TypeDef.complete_of_isComplete ih).members
      obtain rfl := Option.some.inj (hmembers.symm.trans hsame)
      obtain ⟨found, hfound, hdefinition⟩ := TypeDef.areComplete_iff.mp hall _ h
      rwa [Option.some.inj hfound]

namespace Repository

/-- All files of releases are legible. -/
def Legible (repository : Repository) : Prop :=
  ∀ key text, repository.file? key = some text → isLegible text

/-- A legible text that is no document of its release is refused with a message. -/
theorem decodeRelease_error {key : QualifiedName} {text : String} {fault : Fault}
    (hlegible : isLegible text) (h : decodeRelease key text = .error fault) :
    ∃ error, fault = .input error := by
  unfold isLegible at hlegible
  unfold decodeRelease at h
  cases hparse : Json.parse? text with
  | none =>
      rw [hparse] at h
      exact ⟨_, (Except.error.inj h).symm⟩
  | some value =>
      simp only [hparse] at h hlegible
      cases hdecode : Release.decode value with
      | ok release =>
          simp only [hdecode] at h
          split at h
          · cases h
          · exact ⟨_, (Except.error.inj h).symm⟩
      | error error =>
          simp only [hdecode] at h hlegible
          cases error with
          | missing missing => exact ⟨_, (Except.error.inj h).symm⟩
          | unreadable => exact ⟨_, (Except.error.inj h).symm⟩
          | notAnObject => exact absurd hlegible Bool.false_ne_true
          | infinite => exact absurd hlegible Bool.false_ne_true

theorem isComplete_of_decodeRelease {key : QualifiedName} {text : String} {release : Release}
    (hlegible : isLegible text) (h : decodeRelease key text = .ok release) :
    release.isComplete := by
  obtain ⟨value, hparse, hdecode, -, -⟩ := decodeRelease_eq_ok_iff.mp h
  unfold isLegible at hlegible
  simpa only [hparse, hdecode] using hlegible

end Repository

end HalBridge
