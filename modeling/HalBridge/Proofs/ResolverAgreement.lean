import HalBridge.Proofs.ResolverWellFormed

/-!
# States over the same files agree

A definition leaves no choice: two declarations that it describes in one catalogue are equal. So a
declaration that is finished in one state is the same in every idle state with more loaded, however
that state was reached.
-/

namespace HalBridge

/-! ### Declarations that differ in their references only -/

namespace Body

variable {body : Body}

theorem exists_compound_of_unresolved {style : CompoundStyle} {old : List Field}
    (h : body.unresolved = (Body.compound style old).unresolved) :
    ∃ fields, body = .compound style fields := by
  cases body with
  | compound style' fields =>
      injection h with hstyle
      exact ⟨fields, hstyle ▸ rfl⟩
  | enum | typedef | interface => cases h

theorem exists_enum_of_unresolved {old : Ty} {values : List EnumValue}
    (h : body.unresolved = (Body.enum old values).unresolved) :
    ∃ storage, body = .enum storage values := by
  cases body with
  | enum storage values' =>
      injection h with _ hvalues
      exact ⟨storage, hvalues ▸ rfl⟩
  | compound | typedef | interface => cases h

theorem exists_typedef_of_unresolved {old : Ty}
    (h : body.unresolved = (Body.typedef old).unresolved) : ∃ aliased, body = .typedef aliased := by
  cases body with
  | typedef aliased => exact ⟨aliased, rfl⟩
  | compound | enum | interface => cases h

theorem eq_interface_of_unresolved (h : body.unresolved = Body.interface.unresolved) :
    body = .interface := by
  cases body with
  | interface => rfl
  | compound | enum | typedef => cases h

end Body

namespace Resolver

open Document

variable {s t : Resolver} {q key : QualifiedName} {decl other : Decl}

/-! ### What a definition describes is unique -/

theorem special_of_text {text : String} {special : Special}
    (h : Special.ofText? text = some special) : text = special.toText := by
  have hfound := List.find?_some h
  rw [decide_eq_true_eq] at hfound
  exact hfound.symm

/-- The kinds of written types that are not special. -/
def plainKinds : List String := ["scalar", "string", "vec", "array", "named"]

theorem Denotes.unique {refer : String → Option Ref} {reference reference' : TypeRef}
    {type type' : Ty} (hsame : reference = reference') (h : Denotes refer reference type)
    (h' : Denotes refer reference' type') : type = type' := by
  have hplain : ∀ text ∈ plainKinds, Special.ofText? text = none := by decide
  simp only [plainKinds, List.forall_mem_cons] at hplain
  induction h generalizing reference' type' with
  | scalar h => cases h' <;> grind
  | string => cases h' <;> grind
  | vec _ ih => cases h' <;> grind
  | array _ _ ih => cases h' <;> grind
  | named _ h => cases h' <;> grind
  | special h => cases h' <;> grind

/-- The parts of a field that its definition leaves to the declaration around it. -/
def PlacedIn (name : QualifiedName) (field : Field) : Prop :=
  field.owner = name ∧ field.origin = name.version ∧ field.access = field.name

theorem DenotesField.unique {refer : String → Option Ref} {definition : Option FieldDef}
    {field field' : Field} (hplace : PlacedIn q field) (hplace' : PlacedIn q field')
    (h : DenotesField refer definition field) (h' : DenotesField refer definition field') :
    field = field' := by
  obtain ⟨reference, rfl, hdenotes⟩ := h
  obtain ⟨reference', hsame, hdenotes'⟩ := h'
  obtain ⟨name, type, owner, origin, access, comment⟩ := field
  obtain ⟨name', type', owner', origin', access', comment'⟩ := field'
  simp only [PlacedIn] at hplace hplace'
  simp only [Option.some.injEq, FieldDef.mk.injEq] at hsame
  obtain ⟨rfl, rfl, rfl⟩ := hplace
  obtain ⟨rfl, rfl, rfl⟩ := hplace'
  obtain ⟨rfl, hreference, rfl⟩ := hsame
  obtain rfl : type = type' := Denotes.unique hreference hdenotes hdenotes'
  rfl

theorem fields_unique {refer : String → Option Ref} {definitions : List (Option FieldDef)}
    {fields fields' : List Field} (hplace : ∀ field ∈ fields, PlacedIn q field)
    (hplace' : ∀ field ∈ fields', PlacedIn q field)
    (h : List.Forall₂ (DenotesField refer) definitions fields)
    (h' : List.Forall₂ (DenotesField refer) definitions fields') : fields = fields' := by
  induction h generalizing fields' with
  | nil =>
      cases h'
      rfl
  | cons hfield _ ih =>
      cases h' with
      | cons hfield' hrest' =>
          rw [List.forall_mem_cons] at hplace hplace'
          rw [hfield.unique hplace.1 hplace'.1 hfield', ih hplace.2 hplace'.2 hrest']

/-- References depend on where a declaration stands only. -/
theorem refersTo_congr {catalog : Catalog} (h : decl.unresolved = other.unresolved) :
    refersTo? catalog decl = refersTo? catalog other := by
  obtain ⟨name, comment, scopes, subTypes, body⟩ := decl
  obtain ⟨name', comment', scopes', subTypes', body'⟩ := other
  simp only [Decl.unresolved, Decl.mk.injEq] at h
  obtain ⟨rfl, rfl, rfl, rfl, -⟩ := h
  rfl

theorem Describes.unique {catalog : Catalog} {definition : TypeDef}
    (hsame : decl.unresolved = other.unresolved) (hdecl : s.Resolved decl)
    (hother : t.Resolved other) (h : Describes catalog decl definition)
    (h' : Describes catalog other definition) : decl = other := by
  have hrefer : refersTo? catalog decl = refersTo? catalog other := refersTo_congr hsame
  have hplace := hdecl.fields
  have hplace' := hother.fields
  obtain ⟨name, comment, scopes, subTypes, body⟩ := decl
  obtain ⟨name', comment', scopes', subTypes', body'⟩ := other
  simp only [Decl.unresolved, Decl.mk.injEq] at hsame
  obtain ⟨rfl, rfl, rfl, rfl, hbody⟩ := hsame
  unfold Describes at h h'
  rw [← hrefer] at h'
  cases body with
  | compound style fields =>
      obtain ⟨fields', rfl⟩ := Body.exists_compound_of_unresolved hbody.symm
      obtain ⟨definitions, hdefinitions, hfields⟩ := h
      obtain ⟨definitions', hdefinitions', hfields'⟩ := h'
      obtain rfl := Option.some.inj (hdefinitions.symm.trans hdefinitions')
      rw [fields_unique (hplace style fields rfl) (hplace' style fields' rfl) hfields hfields']
  | enum storage values =>
      obtain ⟨storage', rfl⟩ := Body.exists_enum_of_unresolved hbody.symm
      obtain ⟨reference, hreference, hdenotes⟩ := h
      obtain ⟨reference', hreference', hdenotes'⟩ := h'
      have hwritten := Option.some.inj (hreference.symm.trans hreference')
      rw [Denotes.unique hwritten hdenotes hdenotes']
  | typedef aliased =>
      obtain ⟨aliased', rfl⟩ := Body.exists_typedef_of_unresolved hbody.symm
      obtain ⟨reference, hreference, hdenotes⟩ := h
      obtain ⟨reference', hreference', hdenotes'⟩ := h'
      have hwritten := Option.some.inj (hreference.symm.trans hreference')
      rw [Denotes.unique hwritten hdenotes hdenotes']
  | interface => rw [Body.eq_interface_of_unresolved hbody.symm]

/-! ### A state and an idle one with more loaded -/

/-- A declaration and the one of the same name in a state with more loaded differ in their bodies
at most. -/
theorem Later.unresolved_eq (h : Later s t) (hdecl : s.catalog.find? q = some decl)
    (hother : t.catalog.find? q = some other) : other.unresolved = decl.unresolved := by
  obtain ⟨hloaded, definition, hentry⟩ := h.before.exists_definition (Catalog.mem_of_find hdecl)
  have hname := Catalog.name_of_find hdecl
  rw [← h.declared_eq hloaded] at hentry
  refine h.after.unresolved_eq (h.loaded hloaded) hentry ?_
  rw [Decl.name_unresolved, hname, hother]

/-- What a pending definition has become in an idle state. -/
theorem Later.exists_described {definition : TypeDef} (h : Later s t) (ht : t.Idle)
    (hpends : Pends s q definition) :
    ∃ other, t.catalog.find? q = some other ∧ Describes t.catalog other definition := by
  obtain ⟨hknown, entry, hentry, hname, rfl⟩ := hpends.of_later h
  obtain ⟨other, hother⟩ := Catalog.exists_find_of_contains (Catalog.contains_iff.mpr hknown)
  obtain ⟨root, hroot, hkey⟩ := List.mem_map.mp
    (isLoaded_iff.mp (h.after.mem_names_iff.mp hknown).1)
  rw [← hkey] at hentry
  refine ⟨other, hother, ht.describes hroot hentry (Catalog.mem_of_find hother) ?_⟩
  rw [Catalog.name_of_find hother, hname]

/-- What is finished is the same in every idle state with more loaded. -/
theorem Later.find_eq (h : Later s t) (hs : s.Consistent) (ht : t.Idle) (hq : s.Finished q) :
    t.catalog.find? q = s.catalog.find? q := by
  obtain ⟨decl, entry, hfind, hentry, hname, hdescribes⟩ := hq
  have hdecl := hs.resolved decl (Catalog.mem_of_find hfind)
  have hlater := hdescribes.of_later h (h.before.sited (Catalog.mem_of_find hfind)) hdecl.refs
  obtain ⟨other, hother, hdescribes'⟩ :=
    h.exists_described ht ⟨mem_names_of_find hfind, entry, hentry, hname, rfl⟩
  have hresolved := ht.consistent.resolved other (Catalog.mem_of_find hother)
  rw [hother, hfind, Describes.unique (h.unresolved_eq hfind hother) hresolved hdecl hdescribes'
    hlater]

/-- The catalogue of a state without unfinished declarations is part of every idle one with more
loaded. -/
theorem Later.partOf (h : Later s t) (hs : s.Consistent) (ht : t.Idle)
    (hfinished : ∀ q ∈ s.catalog.names, s.Finished q) : s.catalog.PartOf t.catalog where
  find := fun q hq => h.find_eq hs ht (hfinished q hq)
  closed := hs.covers

end Resolver

end HalBridge
