import HalBridge.Model.Catalog
import Mathlib.Data.List.Basic
import Mathlib.Data.List.Nodup

/-!
# Names in a catalogue

A catalogue is a list of declarations; as long as no name is declared twice it is a table from
names to declarations. What later proofs need of it: which names it contains, what adding and
changing a declaration does to look-ups, and that look-ups survive when declarations are added at
the end.
-/

namespace HalBridge

/-- The named type that a type is made of: a type refers to one at most. -/
def Ty.ref? : Ty → Option Ref
  | .vec element => element.ref?
  | .array element _ => element.ref?
  | .named ref => some ref
  | _ => none

/-- The types that a declaration mentions. -/
def Body.types : Body → List Ty
  | .compound _ fields => fields.map Field.type
  | .enum storage _ => [storage]
  | .typedef aliased => [aliased]
  | .interface => []

namespace Catalog

/-- The declared names in the order of declaration. -/
def names (catalog : Catalog) : List QualifiedName :=
  catalog.decls.map Decl.name

variable {catalog : Catalog} {q : QualifiedName} {decl : Decl}

theorem mem_of_find (h : catalog.find? q = some decl) : decl ∈ catalog.decls :=
  List.mem_of_find?_eq_some h

theorem name_of_find (h : catalog.find? q = some decl) : decl.name = q := by
  simpa using List.find?_some h

theorem contains_iff : catalog.contains q ↔ q ∈ catalog.names := by
  unfold contains find? names
  rw [List.find?_isSome, List.mem_map]
  simp

theorem find_of_mem (hnodup : catalog.names.Nodup) (h : decl ∈ catalog.decls) :
    catalog.find? decl.name = some decl := by
  obtain ⟨found, hfound⟩ : ∃ found, catalog.find? decl.name = some found :=
    Option.isSome_iff_exists.mp (contains_iff.mpr (List.mem_map_of_mem h))
  rw [hfound]
  exact congrArg some
    (List.inj_on_of_nodup_map hnodup (mem_of_find hfound) h (name_of_find hfound))

theorem exists_find_of_contains (h : catalog.contains q) : ∃ decl, catalog.find? q = some decl :=
  Option.isSome_iff_exists.mp h

/-- A declaration that is there is found also if more are added. -/
theorem find_of_isPrefix {larger : Catalog} (h : catalog.decls <+: larger.decls)
    (hcontains : catalog.contains q) : larger.find? q = catalog.find? q := by
  obtain ⟨more, hmore⟩ := h
  obtain ⟨decl, hfind⟩ := exists_find_of_contains hcontains
  unfold find? at hfind ⊢
  rw [← hmore, List.find?_append, hfind, Option.some_or]

/-! ### Changing one declaration -/

section Update

variable {change : Decl → Decl}

theorem names_update (hchange : ∀ decl : Decl, (change decl).name = decl.name) :
    (catalog.update q change).names = catalog.names := by
  unfold names update
  rw [List.map_map]
  refine List.map_congr_left fun decl _ => ?_
  simp only [Function.comp_apply]
  split
  · exact hchange decl
  · rfl

theorem update_eq_self (h : q ∉ catalog.names) : catalog.update q change = catalog := by
  have hsame : ∀ decl ∈ catalog.decls, (if decl.name = q then change decl else decl) = decl := by
    intro decl hdecl
    rw [if_neg]
    rintro rfl
    exact h (List.mem_map_of_mem hdecl)
  unfold update
  rw [List.map_congr_left hsame, List.map_id']

theorem update_append (front back : List Decl) :
    (Catalog.mk (front ++ back)).update q change =
      ⟨((Catalog.mk front).update q change).decls ++
        ((Catalog.mk back).update q change).decls⟩ := by
  unfold update
  rw [List.map_append]

theorem decls_update_cons (rest : List Decl) (h : decl.name = q) :
    ((Catalog.mk (decl :: rest)).update q change).decls =
      change decl :: ((Catalog.mk rest).update q change).decls := by
  simp [update, h]

/-- The declarations after a change are those before it, except the changed one. -/
theorem mem_update_iff {changed : Decl} :
    changed ∈ (catalog.update q change).decls ↔
      (changed ∈ catalog.decls ∧ changed.name ≠ q) ∨
        ∃ decl ∈ catalog.decls, decl.name = q ∧ changed = change decl := by
  unfold update
  rw [List.mem_map]
  constructor
  · rintro ⟨decl, hdecl, heq⟩
    split at heq
    · exact Or.inr ⟨decl, hdecl, ‹_›, heq.symm⟩
    · exact Or.inl ⟨heq ▸ hdecl, heq ▸ ‹_›⟩
  · rintro (⟨hmem, hne⟩ | ⟨decl, hdecl, hname, rfl⟩)
    · exact ⟨changed, hmem, if_neg hne⟩
    · exact ⟨decl, hdecl, if_pos hname⟩

theorem find_update (hchange : ∀ decl : Decl, (change decl).name = decl.name)
    (other : QualifiedName) :
    (catalog.update q change).find? other =
      (catalog.find? other).map fun decl => if decl.name = q then change decl else decl := by
  unfold find? update
  rw [List.find?_map]
  congr 2
  funext decl
  simp only [Function.comp_apply]
  split
  · rw [hchange decl]
  · rfl

theorem find_update_of_ne {other : QualifiedName}
    (hchange : ∀ decl : Decl, (change decl).name = decl.name) (hne : other ≠ q) :
    (catalog.update q change).find? other = catalog.find? other := by
  rw [find_update hchange]
  cases hfind : catalog.find? other with
  | none => rfl
  | some decl =>
      rw [Option.map_some, if_neg]
      rw [name_of_find hfind]
      exact hne

theorem find_update_self (hchange : ∀ decl : Decl, (change decl).name = decl.name)
    (hfind : catalog.find? q = some decl) :
    (catalog.update q change).find? q = some (change decl) := by
  rw [find_update hchange, hfind, Option.map_some, if_pos (name_of_find hfind)]

/-- Declarations at the front stay what they are if the changed one is not among them. -/
theorem prefix_update {kept : List Decl} (h : kept <+: catalog.decls)
    (hkept : q ∉ kept.map Decl.name) : kept <+: (catalog.update q change).decls := by
  obtain ⟨more, hmore⟩ := h
  have hself : (Catalog.mk kept).update q change = ⟨kept⟩ := update_eq_self hkept
  have hsplit : catalog = ⟨kept ++ more⟩ := by
    rw [hmore]
  rw [hsplit, update_append, hself]
  exact List.prefix_append _ _

end Update

end Catalog

end HalBridge
