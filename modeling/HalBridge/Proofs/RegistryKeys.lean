import HalBridge.Proofs.CollectionNewest
import HalBridge.Proofs.NameTexts
import HalBridge.Replacement

/-!
# Two ways to find a replacement

Imports and converter functions find the replacement of a type by its qualified name, and spellings
find it by the text of that name. Dots divide the segments of a name in its text and an at sign
stands before the version, so types whose segments have neither are told apart by their texts.
Registered types are read from texts, so both ways find the same entry for such a type.
-/

namespace HalBridge

namespace QualifiedName

open Token

variable {q r : QualifiedName}

/-- No segment of the name has a mark in it that divides the parts of qualified names. -/
def Undivided (q : QualifiedName) : Prop :=
  ∀ segment ∈ q.names, '.' ∉ segment.toList ∧ '@' ∉ segment.toList

theorem undivided_of_isName (h : ∀ segment ∈ q.names, isName segment) : q.Undivided := by
  intro segment hsegment
  have hmark : ∀ c ∈ segment.toList, continuesName c :=
    fun c hc => continuesName_of_mem (h segment hsegment) hc
  exact ⟨fun hc => absurd (hmark _ hc) (by decide), fun hc => absurd (hmark _ hc) (by decide)⟩

theorem Regular.undivided (h : Regular q) : q.Undivided :=
  undivided_of_isName h.isName_of_mem_names

theorem names_ne_nil_iff : q.names ≠ [] ↔ q.namesType := by
  unfold names namesType
  cases q.name with
  | none => simp
  | some name => cases h : name.isEmpty <;> simp [h]

/-! ### The text of a name -/

/-- What stands behind the at sign in the text of a name. -/
def versionedName (q : QualifiedName) : String :=
  q.version.toText ++ (if q.namesType then "::" ++ q.localName else "")

theorem toList_toText (q : QualifiedName) :
    q.toText.toList = q.package.toList ++ '@' :: q.versionedName.toList := by
  simp only [toText, versionedName, String.toList_append, List.append_assoc]
  rfl

theorem isDigit_or_dot_of_mem_version {version : Version} {c : Char}
    (h : c ∈ version.toText.toList) : c.isDigit ∨ c = '.' := by
  simp only [Version.toText, String.toList_append, List.mem_append] at h
  rcases h with (hmajor | hdot) | hminor
  · exact Or.inl (isDigit_of_mem_toString hmajor)
  · exact Or.inr (List.mem_singleton.mp hdot)
  · exact Or.inl (isDigit_of_mem_toString hminor)

theorem not_mem_version {version : Version} {c : Char} (hdigit : ¬c.isDigit) (hdot : c ≠ '.') :
    c ∉ version.toText.toList := by
  intro hc
  rcases isDigit_or_dot_of_mem_version hc with h | h
  · exact hdigit h
  · exact hdot h

theorem Undivided.at_not_mem (h : q.Undivided) : '@' ∉ q.versionedName.toList := by
  rw [versionedName, String.toList_append, List.mem_append]
  rintro (hversion | htype)
  · exact not_mem_version (by decide) (by decide) hversion
  · split at htype
    · rw [String.toList_append, List.mem_append] at htype
      rcases htype with hcolons | hname
      · rw [show "::".toList = [':', ':'] from rfl] at hcolons
        simp at hcolons
      · rcases mem_intercalate hname with hdot | ⟨segment, hsegment, hc⟩
        · cases List.mem_singleton.mp hdot
        · exact (h segment hsegment).2 hc
    · cases htype

theorem toList_versionedName (h : q.namesType) :
    q.versionedName.toList = q.version.toText.toList ++ ':' :: ':' :: q.localName.toList := by
  rw [versionedName, if_pos h, String.toList_append, String.toList_append]
  rfl

theorem Undivided.names_eq (hq : q.Undivided) (hr : r.Undivided) (hnames : q.names ≠ [])
    (hnames' : r.names ≠ []) (h : q.localName = r.localName) : q.names = r.names := by
  have hsplit : ∀ p : QualifiedName, p.Undivided → p.names ≠ [] →
      p.localName.toList.splitOn '.' = p.names.map String.toList := by
    intro p hp hne
    rw [localName, String.toList_intercalate]
    refine List.splitOn_intercalate '.' ?_ ?_
    · intro segment hsegment
      obtain ⟨name, hname, rfl⟩ := List.mem_map.mp hsegment
      exact (hp name hname).1
    · simpa using hne
  have hlists : q.names.map String.toList = r.names.map String.toList := by
    rw [← hsplit q hq hnames, h, hsplit r hr hnames']
  exact List.map_injective_iff.mpr (fun _ _ => String.toList_injective) hlists

/-- A type with undivided segments has a text of its own among such types. -/
theorem Undivided.toText_inj (hq : q.Undivided) (hr : r.Undivided) (htype : r.namesType)
    (h : q.toText = r.toText) : q = r := by
  have hlists := congrArg String.toList h
  rw [toList_toText, toList_toText] at hlists
  obtain ⟨hpackage, hversioned⟩ := eq_of_last hq.at_not_mem hr.at_not_mem hlists
  rw [toList_versionedName htype] at hversioned
  have hcolon : ∀ version : Version, ':' ∉ version.toText.toList :=
    fun version => not_mem_version (by decide) (by decide)
  by_cases hnames : q.namesType
  · rw [toList_versionedName hnames] at hversioned
    obtain ⟨hversion, hlocal⟩ := eq_of_first (hcolon _) (hcolon _) hversioned
    have hlocal : q.localName = r.localName := String.toList_injective (List.cons.inj hlocal).2
    have hversion : q.version = r.version :=
      Version.eq_of_toText_eq (String.toList_injective hversion)
    have hsegments := hq.names_eq hr (names_ne_nil_iff.mpr hnames) (names_ne_nil_iff.mpr htype)
      hlocal
    refine eq_of_lineage hnames htype ?_ hversion
    rw [lineage, lineage, String.toList_injective hpackage, hversion, hsegments]
  · rw [versionedName, if_neg hnames, String.append_empty] at hversioned
    exact absurd (hversioned ▸ List.mem_append_right _ List.mem_cons_self) (hcolon q.version)

end QualifiedName

/-! ### Registries -/

namespace Registry

/-- A registry that registering entries and loading files of entries has made. -/
inductive Made : Registry → Prop
  | empty : Made ⟨[]⟩
  | register {registry next : Registry} {entry : Replacement} (h : Made registry)
      (hnext : registry.register entry = .ok next) : Made next
  | load {registry : Registry} (h : Made registry) (path : String) (text : Option String) :
      Made (registry.load path text).1

/-- Every entry is that of a type, which its text tells from other types. -/
def WellKeyed (registry : Registry) : Prop :=
  ∀ entry ∈ registry.entries, entry.1.Undivided ∧ entry.1.namesType

variable {registry next : Registry} {q : QualifiedName} {entry : Replacement}

theorem mem_setEntry {entries : List (QualifiedName × Replacement)}
    {kept : QualifiedName × Replacement} (h : kept ∈ setEntry q entry entries) :
    kept = (q, entry) ∨ kept ∈ entries := by
  induction entries with
  | nil => exact Or.inl (List.mem_singleton.mp h)
  | cons first rest ih =>
      unfold setEntry at h
      split at h
      · rcases List.mem_cons.mp h with hnew | hrest
        · exact Or.inl hnew
        · exact Or.inr (List.mem_cons_of_mem _ hrest)
      · rcases List.mem_cons.mp h with hfirst | hrest
        · exact Or.inr (List.mem_cons.mpr (Or.inl hfirst))
        · exact (ih hrest).imp_right (List.mem_cons_of_mem _)

theorem target_ok (h : target entry = .ok q) : q.Undivided ∧ q.namesType := by
  unfold target at h
  cases hlegacy : entry.legacy with
  | none =>
      rw [hlegacy] at h
      cases h
  | some legacy =>
      rw [hlegacy] at h
      obtain ⟨found, hread, h⟩ := Outcome.except_bind_ok_iff.mp h
      split at h
      · rename_i htype
        obtain rfl := Except.ok.inj h
        have hparse := QualifiedName.read_eq_ok_iff.mp hread
        exact ⟨(QualifiedName.regular_of_parse hparse).undivided, htype⟩
      · cases h

theorem WellKeyed.register (h : registry.WellKeyed) (hnext : registry.register entry = .ok next) :
    next.WellKeyed := by
  obtain ⟨q, hq, rfl⟩ := Outcome.except_map_ok_iff.mp hnext
  intro kept hkept
  rcases mem_setEntry hkept with rfl | hkept
  · exact target_ok hq
  · exact h kept hkept

theorem WellKeyed.registerAll (h : registry.WellKeyed) (entries : List Replacement) :
    (registry.registerAll entries).1.WellKeyed := by
  induction entries generalizing registry with
  | nil => exact h
  | cons first rest ih =>
      unfold Registry.registerAll
      split
      · rename_i next hnext
        exact ih (h.register hnext)
      · exact h

theorem WellKeyed.load (h : registry.WellKeyed) (path : String) (text : Option String) :
    (registry.load path text).1.WellKeyed := by
  unfold Registry.load
  split
  · exact h.registerAll _
  · exact h

theorem Made.wellKeyed (h : registry.Made) : registry.WellKeyed := by
  induction h with
  | empty => exact fun entry hentry => absurd hentry List.not_mem_nil
  | register _ hnext ih => exact ih.register hnext
  | load _ path text ih => exact ih.load path text

/-- The spelling of a type is found by its text just where its entry is found by its name. -/
theorem WellKeyed.lookup_aidlNames (h : registry.WellKeyed) (hq : q.Undivided) :
    registry.aidlNames.lookup q.toText = (registry.lookup q).map Replacement.canonical := by
  obtain ⟨entries⟩ := registry
  induction entries with
  | nil => rfl
  | cons first rest ih =>
      obtain ⟨r, entry⟩ := first
      obtain ⟨hr, htype⟩ := h (r, entry) List.mem_cons_self
      have hrest := ih fun kept hkept => h kept (List.mem_cons_of_mem _ hkept)
      simp only [aidlNames, lookup] at hrest
      simp only [aidlNames, lookup, List.map_cons, List.lookup_cons, hrest]
      by_cases hsame : q = r
      · subst hsame
        simp only [beq_self_eq_true, Option.map_some]
      · have htext : q.toText ≠ r.toText := fun htext => hsame (hq.toText_inj hr htype htext)
        rw [beq_eq_false_iff_ne.mpr hsame, beq_eq_false_iff_ne.mpr htext]

theorem target_monostateEntry : target Replacement.monostateEntry = .ok Replacement.monostate := by
  have hparse : QualifiedName.parse? "android.hidl.safe_union@1.0::Monostate" =
      some Replacement.monostate := by
    decide +kernel
  unfold target Replacement.monostateEntry
  dsimp only
  rw [QualifiedName.read_eq_ok_iff.mpr hparse]
  rfl

theorem made_default : Registry.default.Made :=
  .register .empty (Outcome.except_map_ok_iff.mpr ⟨_, target_monostateEntry, rfl⟩)

end Registry

end HalBridge
