import HalBridge.Proofs.Outcomes
import HalBridge.Replacement

/-!
# Files of replaced types

A file of replaced types is a list of objects, and each object stands for one entry. `ReadsAs` says
which entries a file has without a word about how they are decoded. Reading a file gives these
entries, or fails because there are none.
-/

namespace HalBridge

open Document

namespace Replacement

/-- The text that the last member with one of the two keys of an import gives. -/
inductive Imports : Members → Option String → Prop where
  | missing {members : Members}
      (hmembers : ∀ member ∈ members, member.1 ≠ "import" ∧ member.1 ≠ "import_name") :
      Imports members none
  | given {before later : Members} {key : String} {value : Json}
      (hkey : key = "import" ∨ key = "import_name")
      (hlater : ∀ member ∈ later, member.1 ≠ "import" ∧ member.1 ≠ "import_name") :
      Imports (before ++ (key, value) :: later) (textOf value)

/-- The lines that a member gives, if it is there and not null. -/
inductive Snippet : Option Json → Option (List String) → Prop where
  | missing : Snippet none none
  | null : Snippet (some .null) none
  | texts {value : Json} {lines : List String} (h : textsOf value = .ok lines) :
      Snippet (some value) (some lines)

/-- The entry that a value of a file stands for. -/
inductive Encoded : Json → Replacement → Prop where
  | object {members : Members} {legacy canonical : Json} {importName : Option String}
      {snippet : Option (List String)} (hlegacy : members.lookup "legacy" = some legacy)
      (hcanonical : members.lookup "canonical" = some canonical)
      (himport : Imports members importName)
      (hsnippet : Snippet (members.lookup "snippet") snippet) :
      Encoded (.obj members)
        { legacy := textOf legacy, canonical := textOf canonical, importName, snippet }

/-- The entries of a file; what has no parts at all counts as a list without items. -/
inductive ReadsAs : Option String → List Replacement → Prop where
  | list {file : String} {items : List Json} {entries : List Replacement}
      (hfile : Json.parse? file = some (.arr items)) (hitems : List.Forall₂ Encoded items entries) :
      ReadsAs (some file) entries
  | emptyText {file : String} (hfile : Json.parse? file = some (.str "")) : ReadsAs (some file) []
  | emptyObject {file : String} (hfile : Json.parse? file = some (.obj [])) :
      ReadsAs (some file) []

variable {members : Members} {item value : Json} {entry : Replacement} {entries : List Replacement}

/-! ### Entries -/

theorem imports_iff {name : Option String} :
    Imports members name ↔ decodeImport members = name := by
  constructor
  · intro h
    unfold decodeImport
    cases h with
    | missing hmembers =>
        have hnone : members.reverse.find? (fun member =>
            member.1 = "import" || member.1 = "import_name") = none := by
          refine List.find?_eq_none.mpr fun member hmember => ?_
          simpa using hmembers member (List.mem_reverse.mp hmember)
        rw [hnone]
        rfl
    | @given before later key value hkey hlater =>
        have hfound : (before ++ (key, value) :: later).reverse.find? (fun member =>
            member.1 = "import" || member.1 = "import_name") = some (key, value) := by
          refine List.find?_eq_some_iff_append.mpr
            ⟨by simpa using hkey, later.reverse, before.reverse, by simp, fun member hmember => ?_⟩
          simpa using hlater member (List.mem_reverse.mp hmember)
        rw [hfound]
        rfl
  · rintro rfl
    unfold decodeImport
    cases hfind : members.reverse.find? fun member =>
        member.1 = "import" || member.1 = "import_name" with
    | none =>
        refine .missing fun member hmember => ?_
        have hnone := List.find?_eq_none.mp hfind member (List.mem_reverse.mpr hmember)
        simpa using hnone
    | some found =>
        obtain ⟨key, value⟩ := found
        obtain ⟨hkey, later, before, hmembers, hlater⟩ := List.find?_eq_some_iff_append.mp hfind
        obtain rfl : members = before.reverse ++ (key, value) :: later.reverse := by
          rw [← List.reverse_reverse members, hmembers]
          simp
        refine .given (by simpa using hkey) fun member hmember => ?_
        simpa using hlater member (List.mem_reverse.mp hmember)

theorem snippet_iff {snippet : Option (List String)} :
    Snippet (members.lookup "snippet") snippet ↔
      optionalTexts "snippet" none members = .ok snippet := by
  unfold optionalTexts
  constructor
  · intro h
    cases hlookup : members.lookup "snippet" with
    | none =>
        rw [hlookup] at h
        cases h
        rfl
    | some value =>
        rw [hlookup] at h
        cases h with
        | null => rfl
        | texts htexts =>
            cases value <;> simp_all [Except.map, textsOf]
  · intro h
    split at h
    · rename_i hlookup
      obtain rfl := Except.ok.inj h
      rw [hlookup]
      exact .missing
    · rename_i hlookup
      obtain rfl := Except.ok.inj h
      rw [hlookup]
      exact .null
    · rename_i value _ hlookup
      obtain ⟨lines, htexts, rfl⟩ := Outcome.except_map_ok_iff.mp h
      rw [hlookup]
      exact .texts htexts

theorem requiredText_eq_ok_iff {key : String} {text : Option String} :
    requiredText key members = .ok text ↔
      ∃ value, members.lookup key = some value ∧ textOf value = text := by
  unfold requiredText
  cases members.lookup key with
  | none => simp
  | some value => simp

/-- Decoding an object gives the entry that it stands for. -/
theorem decode_eq_ok_iff : decode item = .ok entry ↔ Encoded item entry := by
  constructor
  · intro h
    unfold decode at h
    split at h
    · obtain ⟨_, hlegacy, h⟩ := Outcome.except_bind_ok_iff.mp h
      obtain ⟨_, hcanonical, h⟩ := Outcome.except_bind_ok_iff.mp h
      obtain ⟨snippet, hsnippet, h⟩ := Outcome.except_bind_ok_iff.mp h
      obtain rfl := Except.ok.inj h
      obtain ⟨legacy, hlookup, rfl⟩ := requiredText_eq_ok_iff.mp hlegacy
      obtain ⟨canonical, hlookup', rfl⟩ := requiredText_eq_ok_iff.mp hcanonical
      exact .object hlookup hlookup' (imports_iff.mpr rfl) (snippet_iff.mpr hsnippet)
    · cases h
  · rintro ⟨hlegacy, hcanonical, himport, hsnippet⟩
    rw [decode, requiredText_eq_ok_iff.mpr ⟨_, hlegacy, rfl⟩,
      requiredText_eq_ok_iff.mpr ⟨_, hcanonical, rfl⟩, snippet_iff.mp hsnippet,
      imports_iff.mp himport]
    rfl

theorem decode_ne_infinite : decode item ≠ .error .infinite := by
  intro h
  unfold decode at h
  split at h
  · rcases Outcome.except_bind_error_iff.mp h with hlegacy | ⟨_, -, h⟩
    · unfold requiredText at hlegacy
      split at hlegacy <;> cases hlegacy
    rcases Outcome.except_bind_error_iff.mp h with hcanonical | ⟨_, -, h⟩
    · unfold requiredText at hcanonical
      split at hcanonical <;> cases hcanonical
    rcases Outcome.except_bind_error_iff.mp h with hsnippet | ⟨_, -, h⟩
    · unfold optionalTexts textsOf at hsnippet
      repeat' split at hsnippet
      all_goals cases hsnippet
    cases h
  · cases h

/-! ### Files -/

theorem mapM_decode_eq_ok_iff {items : List Json} :
    items.mapM decode = .ok entries ↔ List.Forall₂ Encoded items entries := by
  constructor
  · exact fun h => (Outcome.forall₂_of_mapM h).imp fun _ _ => decode_eq_ok_iff.mp
  · exact fun h => Outcome.mapM_of_forall₂ (h.imp fun _ _ => decode_eq_ok_iff.mpr)

theorem decodeAll_eq_ok_iff :
    decodeAll value = .ok entries ↔
      (∃ items, value = .arr items ∧ List.Forall₂ Encoded items entries) ∨
        (value = .str "" ∨ value = .obj []) ∧ [] = entries := by
  cases value with
  | arr items => simp [decodeAll, mapM_decode_eq_ok_iff]
  | str text =>
      by_cases hempty : text = "" <;> simp [decodeAll, noRecords, hempty]
  | obj members =>
      cases members <;> simp [decodeAll, noRecords]
  | _ => simp [decodeAll, noRecords]

theorem decodeAll_ne_infinite : decodeAll value ≠ .error .infinite := by
  intro h
  cases value with
  | arr items =>
      obtain ⟨item, -, hitem⟩ := Outcome.error_of_mapM h
      exact decode_ne_infinite hitem
  | str text =>
      rw [decodeAll, noRecords] at h
      · split at h <;> cases h
      · simp
  | obj members =>
      rw [decodeAll, noRecords] at h
      · split at h <;> cases h
      · simp
  | _ => cases h

end Replacement

namespace Registry

open Replacement

variable {path : String} {text : Option String} {entries : List Replacement}

/-- Reading a file gives its entries. -/
theorem readEntries_eq_ok_iff : readEntries path text = .ok entries ↔ ReadsAs text entries := by
  constructor
  · intro h
    unfold readEntries at h
    split at h
    · cases h
    · rename_i value hvalue
      obtain ⟨file, rfl, hfile⟩ := Option.bind_eq_some_iff.mp hvalue
      split at h
      · rename_i found hfound
        obtain rfl := Except.ok.inj h
        rcases decodeAll_eq_ok_iff.mp hfound with ⟨items, rfl, hitems⟩ | ⟨rfl | rfl, rfl⟩
        · exact .list hfile hitems
        · exact .emptyText hfile
        · exact .emptyObject hfile
      all_goals cases h
  · intro h
    unfold readEntries
    cases h with
    | list hfile hitems =>
        rw [Option.bind_some, hfile]
        simp only [decodeAll_eq_ok_iff.mpr (Or.inl ⟨_, rfl, hitems⟩)]
    | emptyText hfile =>
        rw [Option.bind_some, hfile]
        rfl
    | emptyObject hfile =>
        rw [Option.bind_some, hfile]
        rfl

/-- A file without entries is refused, or ends the reading where an item is no object. -/
theorem readEntries_of_unread (path : String) (h : ¬∃ entries, ReadsAs text entries) :
    (∃ key, readEntries path text = .error (.input (.unreadableReplacements path key))) ∨
      readEntries path text = .error .notAnObject := by
  cases hread : readEntries path text with
  | ok entries => exact absurd ⟨entries, readEntries_eq_ok_iff.mp hread⟩ h
  | error fault =>
      unfold readEntries at hread
      split at hread
      · obtain rfl := Except.error.inj hread
        exact Or.inl ⟨none, rfl⟩
      · split at hread
        · cases hread
        · obtain rfl := Except.error.inj hread
          exact Or.inr rfl
        · exact absurd ‹_› decodeAll_ne_infinite
        · obtain rfl := Except.error.inj hread
          exact Or.inl ⟨none, rfl⟩
        · obtain rfl := Except.error.inj hread
          exact Or.inl ⟨_, rfl⟩

end Registry

end HalBridge
