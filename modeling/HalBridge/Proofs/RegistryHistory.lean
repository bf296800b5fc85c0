import HalBridge.Json.Printer
import HalBridge.Proofs.FirstOccurrences
import HalBridge.Proofs.RegistryKeys
import HalBridge.Proofs.ReplacementFiles

/-!
# Registries over whole runs

A registry is changed by registering entries and by loading files of entries, and both may fail.
What a registry knows after any such calls is told by the list of the entries that were registered:
the last entry of a type is found by its name, the types stand in the order in which they first came
up, and the spellings by text say the same as the entries by name.
-/

namespace HalBridge

namespace Replacement

/-- The name that the legacy text is read as, however it is spelled. -/
def legacyName? (entry : Replacement) : Option QualifiedName :=
  entry.legacy.bind QualifiedName.parse?

def namesType (entry : Replacement) : Bool :=
  entry.legacyName?.any QualifiedName.namesType

/-- Why an entry is refused that names no type: it has no legacy text, or the text is no name, has
a version that is too long to be read, or names a package only. -/
inductive Refused (entry : Replacement) : Fault → Prop where
  | absent (h : entry.legacy = none) : Refused entry .absentText
  | invalid {legacy : String} (h : entry.legacy = some legacy)
      (hlegacy : ¬∃ tokens q, QualifiedName.Token.Written tokens legacy.toList ∧
        QualifiedName.Sentence tokens q) :
      Refused entry (.input (.invalidName legacy))
  | overlong {legacy : String} {length : Nat} (h : entry.legacy = some legacy)
      (hlegacy : QualifiedName.OverlongText legacy length) :
      Refused entry (.overlongVersion length)
  | package {legacy : String} {q : QualifiedName} (h : entry.legacy = some legacy)
      (hlegacy : QualifiedName.parse? legacy = some q) (hq : q.namesType = false) :
      Refused entry (.input (.replacesNoType legacy))

end Replacement

namespace Registry

variable {registry : Registry} {q : QualifiedName} {entry : Replacement}

/-! ### Single entries -/

theorem target_of_namesType (h : entry.namesType) :
    ∃ q, entry.legacyName? = some q ∧ target entry = .ok q := by
  obtain ⟨q, hq, htype⟩ := (Option.any_eq_true ..).mp h
  refine ⟨q, hq, ?_⟩
  obtain ⟨legacy, hlegacy, hparse⟩ := Option.bind_eq_some_iff.mp hq
  rw [target, hlegacy]
  simp only [QualifiedName.read_eq_ok_iff.mpr hparse]
  exact if_pos htype

theorem target_of_refused {fault : Fault} (h : entry.Refused fault) :
    target entry = .error fault := by
  unfold target
  cases h with
  | absent hlegacy => simp only [hlegacy]
  | invalid hlegacy hinvalid =>
      have hparse := QualifiedName.parse_eq_malformed_iff.mpr hinvalid
      simp only [hlegacy, QualifiedName.read_eq_invalid_iff.mpr hparse]
      rfl
  | overlong hlegacy hlong =>
      have hparse := QualifiedName.parse_eq_overlong_iff.mpr hlong
      simp only [hlegacy, QualifiedName.read_eq_overlong_iff.mpr hparse]
      rfl
  | package hlegacy hparse hq =>
      simp only [hlegacy, QualifiedName.read_eq_ok_iff.mpr hparse]
      exact if_neg (Bool.eq_false_iff.mp hq)

theorem exists_refused (h : ¬entry.namesType) : ∃ fault, entry.Refused fault := by
  cases hlegacy : entry.legacy with
  | none => exact ⟨_, .absent hlegacy⟩
  | some legacy =>
      cases hparse : QualifiedName.parse legacy with
      | error error =>
          cases error with
          | malformed =>
              exact ⟨_, .invalid hlegacy (QualifiedName.parse_eq_malformed_iff.mp hparse)⟩
          | overlong length =>
              exact ⟨_, .overlong hlegacy (QualifiedName.parse_eq_overlong_iff.mp hparse)⟩
      | ok q =>
          have hread := QualifiedName.parse_eq_some_iff.mpr hparse
          refine ⟨_, .package hlegacy hread ?_⟩
          simpa [Replacement.namesType, Replacement.legacyName?, hlegacy, hread] using h

theorem lookup_insert (registry : Registry) (q r : QualifiedName) (entry : Replacement) :
    (registry.insert q entry).lookup r = if r = q then some entry else registry.lookup r := by
  obtain ⟨entries⟩ := registry
  simp only [lookup, insert]
  induction entries with
  | nil =>
      rw [setEntry, List.lookup_cons]
      by_cases hr : r = q
      · rw [if_pos hr, beq_iff_eq.mpr hr]
      · rw [if_neg hr, beq_false_of_ne hr]
  | cons first rest ih =>
      obtain ⟨p, old⟩ := first
      unfold setEntry
      by_cases hp : p = q
      · rw [if_pos hp, hp, List.lookup_cons, List.lookup_cons]
        by_cases hr : r = q
        · rw [if_pos hr, beq_iff_eq.mpr hr]
        · rw [if_neg hr, beq_false_of_ne hr]
      · rw [if_neg hp, List.lookup_cons, List.lookup_cons, ih]
        by_cases hr : r = q
        · rw [if_pos hr, if_pos hr, beq_false_of_ne fun hrp => hp (hrp.symm.trans hr)]
        · rw [if_neg hr, if_neg hr]

theorem map_fst_setEntry (q : QualifiedName) (entry : Replacement)
    (entries : List (QualifiedName × Replacement)) :
    (setEntry q entry entries).map Prod.fst =
      if q ∈ entries.map Prod.fst then entries.map Prod.fst else entries.map Prod.fst ++ [q] := by
  induction entries with
  | nil => rfl
  | cons first rest ih =>
      obtain ⟨p, old⟩ := first
      unfold setEntry
      by_cases hp : p = q
      · simp [hp]
      · rw [if_neg hp, List.map_cons, List.map_cons, ih]
        by_cases hq : q ∈ rest.map Prod.fst
        · rw [if_pos hq, if_pos (List.mem_cons_of_mem _ hq)]
        · have hnot : q ∉ p :: rest.map Prod.fst := by
            rw [List.mem_cons, not_or]
            exact ⟨Ne.symm hp, hq⟩
          rw [if_neg hq, if_neg hnot, List.cons_append]

/-! ### What a registry knows -/

/-- A registry has the last entry of each type among those registered, with the types in the order
of their first entries. -/
structure Reflects (registry : Registry) (registered : List Replacement) : Prop where
  lookup : ∀ q, registry.lookup q = registered.reverse.find? (·.legacyName? = some q)
  order : FirstOccurrences (registered.filterMap Replacement.legacyName?)
    (registry.entries.map Prod.fst)

variable {registered : List Replacement}

theorem Reflects.empty : Reflects ⟨[]⟩ [] :=
  ⟨fun _ => rfl, .nil⟩

theorem Reflects.insert (h : Reflects registry registered) (hq : entry.legacyName? = some q) :
    Reflects (registry.insert q entry) (registered ++ [entry]) where
  lookup r := by
    rw [lookup_insert, List.reverse_concat, List.find?_cons, hq, h.lookup]
    by_cases hr : r = q
    · rw [if_pos hr, hr, decide_eq_true rfl]
    · rw [if_neg hr, decide_eq_false fun heq => hr (Option.some.inj heq).symm]
  order := by
    rw [List.filterMap_append, List.filterMap_cons_some hq, List.filterMap_nil]
    simp only [Registry.insert, map_fst_setEntry]
    by_cases hmem : q ∈ registry.entries.map Prod.fst
    · rw [if_pos hmem]
      exact h.order.append_of_mem hmem
    · rw [if_neg hmem]
      exact h.order.append_of_not_mem hmem

theorem registerAll_cons_of_namesType (h : entry.namesType) (registry : Registry)
    (rest : List Replacement) :
    ∃ q, entry.legacyName? = some q ∧
      registry.registerAll (entry :: rest) = (registry.insert q entry).registerAll rest := by
  obtain ⟨q, hq, htarget⟩ := target_of_namesType h
  refine ⟨q, hq, ?_⟩
  rw [registerAll, register, htarget]
  rfl

theorem registerAll_cons_of_refused {fault : Fault} (h : entry.Refused fault)
    (registry : Registry) (rest : List Replacement) :
    registry.registerAll (entry :: rest) = (registry, .error fault) := by
  rw [registerAll, register, target_of_refused h]
  rfl

/-- Entries that name types are registered one after another. -/
theorem registerAll_append {entries : List Replacement} (h : ∀ entry ∈ entries, entry.namesType)
    (registry : Registry) (rest : List Replacement) :
    registry.registerAll (entries ++ rest) = (registry.registerAll entries).1.registerAll rest := by
  induction entries generalizing registry with
  | nil => rfl
  | cons first others ih =>
      obtain ⟨hfirst, hothers⟩ := List.forall_mem_cons.mp h
      obtain ⟨q, hq, hrun⟩ := registerAll_cons_of_namesType hfirst registry others
      obtain ⟨r, hr, hrun'⟩ := registerAll_cons_of_namesType hfirst registry (others ++ rest)
      obtain rfl : q = r := Option.some.inj (hq.symm.trans hr)
      rw [List.cons_append, hrun, hrun', ih hothers]

theorem Reflects.registerAll (h : Reflects registry registered) (entries : List Replacement) :
    Reflects (registry.registerAll entries).1
      (registered ++ entries.takeWhile Replacement.namesType) := by
  induction entries generalizing registry registered with
  | nil =>
      rw [List.takeWhile_nil, List.append_nil]
      exact h
  | cons first rest ih =>
      by_cases hfirst : first.namesType
      · obtain ⟨q, hq, hrun⟩ := registerAll_cons_of_namesType hfirst registry rest
        rw [hrun, List.takeWhile_cons_of_pos hfirst, List.append_cons]
        exact ih (h.insert hq)
      · obtain ⟨fault, hrefused⟩ := exists_refused hfirst
        rw [registerAll_cons_of_refused hrefused, List.takeWhile_cons_of_neg hfirst,
          List.append_nil]
        exact h

theorem mem_map_fst_of_lookup {α β : Type} [BEq α] [LawfulBEq α] {pairs : List (α × β)} {a : α}
    {b : β} (h : pairs.lookup a = some b) : a ∈ pairs.map Prod.fst := by
  obtain ⟨front, back, rfl, -⟩ := List.lookup_eq_some_iff.mp h
  simp

/-- The spellings by text: one for each type, and what the entry of that type says. -/
theorem Reflects.aidlNames (h : Reflects registry registered) (hkeyed : registry.WellKeyed) :
    (registry.aidlNames.map Prod.fst).Nodup ∧
    (∀ text spelling, registry.aidlNames.lookup text = some spelling ↔
      ∃ q entry, registry.lookup q = some entry ∧ q.toText = text ∧
        entry.canonical = spelling) := by
  have hkeys : registry.aidlNames.map Prod.fst =
      (registry.entries.map Prod.fst).map QualifiedName.toText := by
    simp [Registry.aidlNames]
  have hmem : ∀ q ∈ registry.entries.map Prod.fst, q.Undivided ∧ q.namesType := by
    intro q hq
    obtain ⟨kept, hkept, rfl⟩ := List.mem_map.mp hq
    exact hkeyed kept hkept
  refine ⟨?_, fun text spelling => ⟨fun hlookup => ?_, ?_⟩⟩
  · rw [hkeys]
    refine h.order.nodup.map_on fun q hq r hr htext => ?_
    exact (hmem q hq).1.toText_inj (hmem r hr).1 (hmem r hr).2 htext
  · have hkey := mem_map_fst_of_lookup hlookup
    rw [hkeys] at hkey
    obtain ⟨q, hq, rfl⟩ := List.mem_map.mp hkey
    rw [hkeyed.lookup_aidlNames (hmem q hq).1] at hlookup
    obtain ⟨entry, hentry, hcanonical⟩ := Option.map_eq_some_iff.mp hlookup
    exact ⟨q, entry, hentry, rfl, hcanonical⟩
  · rintro ⟨q, entry, hentry, rfl, rfl⟩
    have hq : q ∈ registry.entries.map Prod.fst := mem_map_fst_of_lookup hentry
    rw [hkeyed.lookup_aidlNames (hmem q hq).1, hentry, Option.map_some]

/-! ### Calls -/

/-- A call that may change a registry. -/
inductive Call where
  | register (entry : Replacement)
  | load (path : String) (text : Option String)

/-- Makes a call, which leaves what it has done when it fails. -/
def Call.perform (registry : Registry) : Call → Registry × Except Fault Unit
  | .register entry => registry.registerAll [entry]
  | .load path text => registry.load path text

/-- The registry after some calls. The calls after one that fails are still made. -/
def after (calls : List Call) : Registry :=
  calls.foldl (fun registry call => (call.perform registry).1) ⟨[]⟩

/-- The entries that a call has for registering. -/
def Call.offered : Call → List Replacement
  | .register entry => [entry]
  | .load path text => (readEntries path text).toOption.getD []

/-- The entries that some calls register, in order: of each call those before the first that names
no type. -/
def history (calls : List Call) : List Replacement :=
  calls.flatMap fun call => call.offered.takeWhile Replacement.namesType

theorem after_concat (calls : List Call) (call : Call) :
    after (calls ++ [call]) = (call.perform (after calls)).1 := by
  rw [after, after, List.foldl_append, List.foldl_cons, List.foldl_nil]

theorem history_concat (calls : List Call) (call : Call) :
    history (calls ++ [call]) = history calls ++ call.offered.takeWhile Replacement.namesType := by
  rw [history, history, List.flatMap_append, List.flatMap_singleton]

theorem load_of_unread {path : String} {text : Option String} {fault : Fault}
    (h : readEntries path text = .error fault) (registry : Registry) :
    registry.load path text = (registry, .error fault) := by
  rw [load, h]

theorem load_of_read {path : String} {text : Option String} {entries : List Replacement}
    (h : readEntries path text = .ok entries) (registry : Registry) :
    registry.load path text = registry.registerAll entries := by
  rw [load, h]

theorem perform_fst (registry : Registry) (call : Call) :
    (call.perform registry).1 = (registry.registerAll call.offered).1 := by
  cases call with
  | register entry => rfl
  | load path text =>
      cases hread : readEntries path text with
      | ok entries =>
          rw [Call.perform, load_of_read hread, Call.offered, hread]
          rfl
      | error fault =>
          rw [Call.perform, load_of_unread hread, Call.offered, hread]
          rfl

theorem reflects_after (calls : List Call) : Reflects (after calls) (history calls) := by
  induction calls using List.reverseRecOn with
  | nil => exact .empty
  | append_singleton calls call ih =>
      rw [after_concat, history_concat, perform_fst]
      exact ih.registerAll call.offered

theorem wellKeyed_after (calls : List Call) : (after calls).WellKeyed := by
  induction calls using List.reverseRecOn with
  | nil => exact Made.empty.wellKeyed
  | append_singleton calls call ih =>
      rw [after_concat, perform_fst]
      exact ih.registerAll call.offered

/-- Registering entries one by one is registering them all, as long as they name types. -/
theorem after_register {entries : List Replacement} (h : ∀ entry ∈ entries, entry.namesType)
    (calls : List Call) :
    after (calls ++ entries.map .register) = ((after calls).registerAll entries).1 := by
  induction entries using List.reverseRecOn with
  | nil => rw [List.map_nil, List.append_nil, registerAll]
  | append_singleton entries entry ih =>
      have hentries := fun entry hentry => h entry (List.mem_append_left _ hentry)
      rw [List.map_append, List.map_singleton, ← List.append_assoc, after_concat, ih hentries,
        registerAll_append hentries]
      rfl

theorem default_eq_after : Registry.default = after [.register Replacement.monostateEntry] := by
  simp only [after, List.foldl_cons, List.foldl_nil, Call.perform, registerAll, register,
    target_monostateEntry]
  rfl

/-- What is known of a registry after some calls, and of one more call. -/
structure Consistent (calls : List Call) : Prop where
  /-- The last entry that was registered for a type is found, in whatever spelling. -/
  lookup : ∀ q, (after calls).lookup q =
    (history calls).reverse.find? (·.legacyName? = some q)
  registers : ∀ entry, entry.namesType →
    (after calls).register entry = .ok (after (calls ++ [.register entry])) ∧
      history (calls ++ [.register entry]) = history calls ++ [entry]
  /-- An entry that names no type is refused and changes nothing. -/
  refuses : ∀ entry, ¬entry.namesType → ∃ fault, entry.Refused fault ∧
    (after calls).register entry = .error fault ∧
    after (calls ++ [.register entry]) = after calls ∧
    history (calls ++ [.register entry]) = history calls
  /-- A file that cannot be read or decoded changes nothing. -/
  unread : ∀ path text, (¬∃ entries, Replacement.ReadsAs text entries) → ∃ fault,
    ((∃ key, fault = .input (.unreadableReplacements path key)) ∨ fault = .notAnObject) ∧
    (after calls).load path text = (after calls, .error fault) ∧
    after (calls ++ [.load path text]) = after calls ∧
    history (calls ++ [.load path text]) = history calls
  /-- Of a file in which all entries name types, all are registered. -/
  loads : ∀ path text entries, Replacement.ReadsAs text entries →
    (∀ entry ∈ entries, entry.namesType) →
    (after calls).load path text = (after (calls ++ entries.map .register), .ok ()) ∧
      after (calls ++ [.load path text]) = after (calls ++ entries.map .register) ∧
      history (calls ++ [.load path text]) = history calls ++ entries
  /-- Of other files, exactly the entries before the first that names no type are registered. -/
  stops : ∀ path text earlier bad rest, Replacement.ReadsAs text (earlier ++ bad :: rest) →
    (∀ entry ∈ earlier, entry.namesType) → ¬bad.namesType → ∃ fault, bad.Refused fault ∧
    (after calls).load path text = (after (calls ++ earlier.map .register), .error fault) ∧
    after (calls ++ [.load path text]) = after (calls ++ earlier.map .register) ∧
    history (calls ++ [.load path text]) = history calls ++ earlier
  /-- Each registered type has a spelling, and its text is that of no other. -/
  spellings : ((after calls).aidlNames.map Prod.fst).Nodup ∧
    (after calls).aidlNames.length = (after calls).size
  order : ∃ names, FirstOccurrences ((history calls).filterMap Replacement.legacyName?) names ∧
    (after calls).aidlNames.map Prod.fst = names.map QualifiedName.toText
  /-- The spellings by text are those of the entries by name, and there are no others. -/
  spelling_iff : ∀ text spelling, (after calls).aidlNames.lookup text = some spelling ↔
    ∃ q entry, (after calls).lookup q = some entry ∧ q.toText = text ∧ entry.canonical = spelling

theorem register_of_namesType (h : entry.namesType) (calls : List Call) :
    (after calls).register entry = .ok (after (calls ++ [.register entry])) ∧
      history (calls ++ [.register entry]) = history calls ++ [entry] := by
  obtain ⟨q, hq, htarget⟩ := target_of_namesType h
  obtain ⟨r, hr, hrun⟩ := registerAll_cons_of_namesType h (after calls) []
  obtain rfl : q = r := Option.some.inj (hq.symm.trans hr)
  constructor
  · rw [after_concat, Call.perform, hrun, register, htarget]
    rfl
  · rw [history_concat, Call.offered, List.takeWhile_cons_of_pos h, List.takeWhile_nil]

theorem register_of_refused (h : ¬entry.namesType) (calls : List Call) :
    ∃ fault, entry.Refused fault ∧ (after calls).register entry = .error fault ∧
      after (calls ++ [.register entry]) = after calls ∧
      history (calls ++ [.register entry]) = history calls := by
  obtain ⟨fault, hfault⟩ := exists_refused h
  refine ⟨fault, hfault, ?_, ?_, ?_⟩
  · rw [register, target_of_refused hfault]
    rfl
  · rw [after_concat, Call.perform, registerAll_cons_of_refused hfault]
  · rw [history_concat, Call.offered, List.takeWhile_cons_of_neg h, List.append_nil]

variable {path : String} {text : Option String}

theorem load_of_no_entries (h : ¬∃ entries, Replacement.ReadsAs text entries) (path : String)
    (calls : List Call) :
    ∃ fault, ((∃ key, fault = .input (.unreadableReplacements path key)) ∨ fault = .notAnObject) ∧
      (after calls).load path text = (after calls, .error fault) ∧
      after (calls ++ [.load path text]) = after calls ∧
      history (calls ++ [.load path text]) = history calls := by
  obtain ⟨fault, hfault, hread⟩ : ∃ fault,
      ((∃ key, fault = .input (.unreadableReplacements path key)) ∨ fault = .notAnObject) ∧
      readEntries path text = .error fault := by
    rcases readEntries_of_unread path h with ⟨key, hread⟩ | hread
    · exact ⟨_, Or.inl ⟨key, rfl⟩, hread⟩
    · exact ⟨_, Or.inr rfl, hread⟩
  refine ⟨fault, hfault, load_of_unread hread _, ?_, ?_⟩
  · rw [after_concat, Call.perform, load_of_unread hread]
  · rw [history_concat, Call.offered, hread]
    exact List.append_nil _

theorem history_load {entries : List Replacement} (h : Replacement.ReadsAs text entries)
    (path : String) (calls : List Call) :
    history (calls ++ [.load path text]) =
      history calls ++ entries.takeWhile Replacement.namesType := by
  rw [history_concat, Call.offered, readEntries_eq_ok_iff.mpr h]
  rfl

theorem load_of_namesType {entries : List Replacement}
    (hentries : Replacement.ReadsAs text entries) (h : ∀ entry ∈ entries, entry.namesType)
    (path : String) (calls : List Call) :
    (after calls).load path text = (after (calls ++ entries.map .register), .ok ()) ∧
      after (calls ++ [.load path text]) = after (calls ++ entries.map .register) ∧
      history (calls ++ [.load path text]) = history calls ++ entries := by
  have hload : (after calls).load path text =
      (after (calls ++ entries.map .register), .ok ()) := by
    rw [load_of_read (readEntries_eq_ok_iff.mpr hentries), after_register h]
    nth_rewrite 1 [← List.append_nil entries]
    rw [registerAll_append h, registerAll]
  refine ⟨hload, ?_, ?_⟩
  · rw [after_concat, Call.perform, hload]
  · rw [history_load hentries, List.takeWhile_eq_self_iff.mpr h]

theorem load_of_refused {earlier rest : List Replacement} {bad : Replacement}
    (hentries : Replacement.ReadsAs text (earlier ++ bad :: rest))
    (h : ∀ entry ∈ earlier, entry.namesType) (hbad : ¬bad.namesType) (path : String)
    (calls : List Call) :
    ∃ fault, bad.Refused fault ∧
      (after calls).load path text = (after (calls ++ earlier.map .register), .error fault) ∧
      after (calls ++ [.load path text]) = after (calls ++ earlier.map .register) ∧
      history (calls ++ [.load path text]) = history calls ++ earlier := by
  obtain ⟨fault, hfault⟩ := exists_refused hbad
  have hload : (after calls).load path text =
      (after (calls ++ earlier.map .register), .error fault) := by
    rw [load_of_read (readEntries_eq_ok_iff.mpr hentries), registerAll_append h,
      registerAll_cons_of_refused hfault, after_register h]
  refine ⟨fault, hfault, hload, ?_, ?_⟩
  · rw [after_concat, Call.perform, hload]
  · rw [history_load hentries, List.takeWhile_append_of_pos h, List.takeWhile_cons_of_neg hbad,
      List.append_nil]

/-- A registry stays consistent over all calls that register entries or load files, those that fail
included. It starts with nothing, and the registry that every run starts with is the one after a
single call. -/
theorem consistent_after_calls (calls : List Call) :
    Consistent calls ∧ after [] = ⟨[]⟩ ∧ history [] = [] ∧
      Registry.default = after [.register Replacement.monostateEntry] := by
  have hreflects := reflects_after calls
  have hspellings := hreflects.aidlNames (wellKeyed_after calls)
  refine ⟨?_, rfl, rfl, default_eq_after⟩
  exact {
    lookup := hreflects.lookup
    registers := fun entry h => register_of_namesType h calls
    refuses := fun entry h => register_of_refused h calls
    unread := fun path text h => load_of_no_entries h path calls
    loads := fun path text entries hentries h => load_of_namesType hentries h path calls
    stops := fun path text earlier bad rest hentries h hbad =>
      load_of_refused hentries h hbad path calls
    spellings := ⟨hspellings.1, by simp [aidlNames, size]⟩
    order := ⟨_, hreflects.order, by simp [aidlNames]⟩
    spelling_iff := hspellings.2 }

/-- A file with two spellings of one type, a package and another type. -/
def mixedEntries : String :=
  (Json.arr [entry "p@1.0::T" "First", entry " p @ 01.0 :: T" "Second", entry "p@1.0" "Third",
    entry "p@1.0::U" "Fourth"]).compact
where
  entry (legacy canonical : String) : Json :=
    .obj [("legacy", .str legacy), ("canonical", .str canonical)]

theorem readsAs_mixedEntries :
    Replacement.ReadsAs (some mixedEntries)
      ([{ legacy := some "p@1.0::T", canonical := some "First" },
          { legacy := some " p @ 01.0 :: T", canonical := some "Second" }] ++
        { legacy := some "p@1.0", canonical := some "Third" } ::
          [{ legacy := some "p@1.0::U", canonical := some "Fourth" }]) := by
  refine (@readEntries_eq_ok_iff "replaced.json" _ _).mp ?_
  decide +kernel

/-- Loading the file fails at the package. Then the type is known by its second spelling, and the
type after the package is not. -/
theorem consistent_after_mixedEntries :
    Registry.load ⟨[]⟩ "replaced.json" (some mixedEntries) =
        (after [.load "replaced.json" (some mixedEntries)],
          .error (.input (.replacesNoType "p@1.0"))) ∧
      (after [.load "replaced.json" (some mixedEntries)]).lookup ⟨"p", ⟨1, 0⟩, some "T", []⟩ =
        some { legacy := some " p @ 01.0 :: T", canonical := some "Second" } ∧
      (after [.load "replaced.json" (some mixedEntries)]).lookup ⟨"p", ⟨1, 0⟩, some "U", []⟩ =
        none ∧
      (after [.load "replaced.json" (some mixedEntries)]).aidlNames.lookup "p@1.0::T" =
        some (some "Second") := by
  obtain ⟨hstart, hnone, hnothing, -⟩ := consistent_after_calls []
  obtain ⟨hknown, -⟩ := consistent_after_calls [.load "replaced.json" (some mixedEntries)]
  obtain ⟨fault, hfault, hload, hafter, hhistory⟩ :=
    hstart.stops "replaced.json" _ _ _ _ readsAs_mixedEntries (by decide +kernel)
      (by decide +kernel)
  rw [List.nil_append] at hafter hhistory
  rw [hnothing, List.nil_append] at hhistory
  have hpackage : fault = .input (.replacesNoType "p@1.0") := by
    refine Except.error.inj ((target_of_refused hfault).symm.trans ?_)
    decide +kernel
  have htype : (after [.load "replaced.json" (some mixedEntries)]).lookup
      ⟨"p", ⟨1, 0⟩, some "T", []⟩ =
        some { legacy := some " p @ 01.0 :: T", canonical := some "Second" } := by
    rw [hknown.lookup, hhistory]
    decide +kernel
  refine ⟨?_, htype, ?_, ?_⟩
  · rw [← hpackage, hafter, ← hnone]
    exact hload
  · rw [hknown.lookup, hhistory]
    decide +kernel
  · exact (hknown.spelling_iff _ _).mpr ⟨_, _, htype, by decide +kernel, rfl⟩

end Registry

end HalBridge
