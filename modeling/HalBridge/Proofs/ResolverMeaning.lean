import HalBridge.Proofs.ResolverInvariant

/-!
# What definitions mean

Rules for what a written type denotes in a catalogue, said without any loading: a reference means
the innermost declaration with its path, or the qualified name it spells. A type that was resolved
while releases were still missing denotes the same in every later catalogue, so in the end each
declaration is described by its definition.
-/

namespace HalBridge.Resolver

open Document

/-- The name that a written reference means in the declaration `scope`. -/
def meant? (catalog : Catalog) (scope : Decl) (reference : String) : Option QualifiedName :=
  if reference.toList.contains '@' then QualifiedName.parse? reference
  else
    some ((findRelative? catalog scope (Text.split '.' reference)).getD
      (.ofPath scope.name.package scope.name.version (Text.split '.' reference)))

/-- What a written reference refers to in the declaration `scope`. -/
def refersTo? (catalog : Catalog) (scope : Decl) (reference : String) : Option Ref :=
  (meant? catalog scope reference).map catalog.ref

/-- What a written type denotes, if references refer to what `refer` says. -/
inductive Denotes (refer : String → Option Ref) : TypeRef → Ty → Prop
  | scalar {text ref : Option String} {element : Option TypeRef} {size : Option ArraySize}
      {scalar : Scalar} (h : text.bind Scalar.ofText? = some scalar) :
      Denotes refer ⟨some "scalar", text, ref, element, size⟩ (.scalar scalar)
  | string {scalar ref : Option String} {element : Option TypeRef} {size : Option ArraySize} :
      Denotes refer ⟨some "string", scalar, ref, element, size⟩ .string
  | vec {scalar ref : Option String} {element : TypeRef} {size : Option ArraySize} {type : Ty}
      (h : Denotes refer element type) :
      Denotes refer ⟨some "vec", scalar, ref, some element, size⟩ (.vec type)
  | array {scalar ref : Option String} {element : TypeRef} {size : ArraySize} {type : Ty}
      (h : Denotes refer element type) (hsize : 0 < size.value) :
      Denotes refer ⟨some "array", scalar, ref, some element, some size⟩ (.array type size)
  | named {scalar : Option String} {reference : String} {element : Option TypeRef}
      {size : Option ArraySize} {ref : Ref} (hreference : reference ≠ "")
      (h : refer reference = some ref) :
      Denotes refer ⟨some "named", scalar, some reference, element, size⟩ (.named ref)
  | special {kind scalar ref : Option String} {element : Option TypeRef}
      {size : Option ArraySize} {special : Special} (h : kind.bind Special.ofText? = some special) :
      Denotes refer ⟨kind, scalar, ref, element, size⟩ (.special special)

theorem Denotes.mono {refer later : String → Option Ref} {reference : TypeRef} {type : Ty}
    (h : Denotes refer reference type)
    (hlater : ∀ text ref, type.ref? = some ref → refer text = some ref → later text = some ref) :
    Denotes later reference type := by
  induction h with
  | scalar h => exact .scalar h
  | string => exact .string
  | vec _ ih => exact .vec (ih hlater)
  | array _ hsize ih => exact .array (ih hlater) hsize
  | named hreference h => exact .named hreference (hlater _ _ rfl h)
  | special h => exact .special h

/-- A field is what its definition says. -/
def DenotesField (refer : String → Option Ref) (definition : Option FieldDef) (field : Field) :
    Prop :=
  ∃ reference, definition = some ⟨field.name, some reference, field.comment⟩ ∧
    Denotes refer reference field.type

/-- A declaration is what its definition says. -/
def Describes (catalog : Catalog) (decl : Decl) (definition : TypeDef) : Prop :=
  match decl.body with
  | .compound _ fields => ∃ definitions, definition.fields = some definitions ∧
      List.Forall₂ (DenotesField (refersTo? catalog decl)) definitions fields
  | .enum storage _ => ∃ reference, definition.storage = some reference ∧
      Denotes (refersTo? catalog decl) reference storage
  | .typedef aliased => ∃ reference, definition.aliased = some reference ∧
      Denotes (refersTo? catalog decl) reference aliased
  | .interface => True

variable {s t : Resolver} {own : List QualifiedName} {q key : QualifiedName} {scope decl : Decl}

/-! ### Declarations and the definitions they come from -/

theorem Occurs.release_scopes {definitions : List (Option TypeDef)} {inner : List QualifiedName}
    {definition : TypeDef} (hkey : key.release = key)
    (h : Occurs key [] definitions inner definition) : ∀ outer ∈ inner, outer.release = key := by
  induction h with
  | top => exact fun _ houter => absurd houter List.not_mem_nil
  | nested houter _ _ ih =>
      intro outer hmem
      rcases List.mem_cons.mp hmem with rfl | hmem
      · exact houter.release hkey
      · exact ih outer hmem

theorem mem_declared_iff {repository : Repository} {entry : Decl × TypeDef} :
    entry ∈ repository.declared key ↔
      ∃ release inner, repository.read.lookup key = some release ∧
        Occurs key [] (release.types.getD []) inner entry.2 ∧
        entry.1 = declOf key inner entry.2 := by
  unfold Repository.declared
  cases repository.read.lookup key with
  | none => simp
  | some release => simp [mem_entriesAll_iff]

/-- Every declaration comes from a definition of its release. -/
theorem Accounted.exists_definition (h : Accounted s) (hdecl : decl ∈ s.catalog.decls) :
    s.isLoaded decl.name.release ∧
      ∃ definition, (decl.unresolved, definition) ∈ s.repository.declared decl.name.release := by
  have hmem : decl.unresolved ∈ s.catalog.decls.map Decl.unresolved := List.mem_map_of_mem hdecl
  rw [h.declared, List.mem_flatMap] at hmem
  obtain ⟨root, hroot, hmem⟩ := hmem
  obtain ⟨entry, hentry, hfound⟩ := List.mem_map.mp hmem
  have hrelease : decl.name.release = root.1 := by
    rw [← Decl.name_unresolved, ← hfound]
    exact release_of_mem_declared (h.documented root hroot).release hentry
  rw [hrelease, ← hfound]
  exact ⟨isLoaded_iff.mpr (List.mem_map_of_mem hroot), entry.2, hentry⟩

/-- The definitions of a loaded release are declared as they are written. -/
theorem Accounted.unresolved_eq {entry : Decl × TypeDef} (h : Accounted s)
    (hkey : s.isLoaded key) (hentry : entry ∈ s.repository.declared key)
    (hfind : s.catalog.find? entry.1.name = some decl) : decl.unresolved = entry.1 := by
  obtain ⟨root, hroot, rfl⟩ := List.mem_map.mp (isLoaded_iff.mp hkey)
  have hmem : entry.1 ∈ s.catalog.decls.map Decl.unresolved := by
    rw [h.declared]
    exact List.mem_flatMap.mpr ⟨root, hroot, List.mem_map_of_mem hentry⟩
  obtain ⟨found, hfound, hsame⟩ := List.mem_map.mp hmem
  rw [← hsame, Decl.name_unresolved, Catalog.find_of_mem h.named hfound] at hfind
  rw [← Option.some.inj hfind, hsame]

/-- The scopes around a declaration belong to its release, which is loaded. -/
structure Sited (s : Resolver) (scope : Decl) : Prop where
  loaded : s.isLoaded scope.name.release
  scopes : ∀ outer ∈ scope.scopes, outer.release = scope.name.release

theorem Accounted.sited (h : Accounted s) (hdecl : decl ∈ s.catalog.decls) : Sited s decl := by
  obtain ⟨hloaded, definition, hmem⟩ := h.exists_definition hdecl
  obtain ⟨release, inner, -, hoccurs, hsame⟩ := mem_declared_iff.mp hmem
  refine ⟨hloaded, ?_⟩
  obtain rfl : decl.scopes = inner := congrArg Decl.scopes hsame
  exact hoccurs.release_scopes rfl

/-! ### References in a later state -/

@[simp]
theorem name_ref (catalog : Catalog) (q : QualifiedName) : (catalog.ref q).name = q := by
  unfold Catalog.ref
  split
  · rfl
  · rfl

theorem ref_of_settled {ref : Ref} (h : s.Settled ref) : s.catalog.ref ref.name = ref := by
  unfold Catalog.ref
  cases ref with
  | declared q => exact if_pos (Catalog.contains_iff.mpr h)
  | external q => exact if_neg fun hcontains => h.1 (Catalog.contains_iff.mp hcontains)

theorem release_within (scope : QualifiedName) (path : List String) :
    (within scope path).release = scope.release := by
  unfold within
  induction path generalizing scope with
  | nil => rfl
  | cons name rest ih => exact ih (scope.nested (some name))

theorem findSome_congr {α β : Type} {f g : α → Option β} {l : List α}
    (h : ∀ a ∈ l, f a = g a) : l.findSome? f = l.findSome? g := by
  induction l with
  | nil => rfl
  | cons a rest ih =>
      rw [List.findSome?_cons, List.findSome?_cons, h a List.mem_cons_self,
        ih fun b hb => h b (List.mem_cons_of_mem _ hb)]

/-- A relative path stays inside the release of its scope, so no other names matter. -/
theorem findRelative_congr {catalog other : Catalog}
    (hscopes : ∀ outer ∈ scope.scopes, outer.release = scope.name.release)
    (hnames : ∀ q, q.release = scope.name.release → (q ∈ other.names ↔ q ∈ catalog.names))
    (path : List String) : findRelative? other scope path = findRelative? catalog scope path := by
  unfold findRelative?
  refine findSome_congr fun outer houter => ?_
  have hrelease : outer.release = scope.name.release := by
    rcases List.mem_append.mp houter with houter | houter
    · rcases List.mem_cons.mp houter with rfl | houter
      · rfl
      · exact hscopes outer houter
    · rw [List.mem_singleton.mp houter]
      rfl
  have hcontains : other.contains (within outer path) = catalog.contains (within outer path) := by
    rw [Bool.eq_iff_iff, Catalog.contains_iff, Catalog.contains_iff, hnames]
    rw [release_within, hrelease]
  simp only [hcontains]

/-- A relative path means the same in every later state. -/
theorem findRelative_of_later (h : Later s t) (hscope : Sited s scope) (path : List String) :
    findRelative? t.catalog scope path = findRelative? s.catalog scope path := by
  refine findRelative_congr hscope.scopes ?_ path
  intro q hq
  refine h.mem_names_iff ?_
  rw [hq]
  exact hscope.loaded

theorem refersTo_of_later {text : String} {ref : Ref} (h : Later s t) (hscope : Sited s scope)
    (hsettled : s.Settled ref) (href : refersTo? s.catalog scope text = some ref) :
    refersTo? t.catalog scope text = some ref := by
  obtain ⟨q, hq, rfl⟩ := Option.map_eq_some_iff.mp href
  have hmeant : meant? t.catalog scope text = some q := by
    rw [← hq, meant?, meant?, findRelative_of_later h hscope]
  have hlater := ref_of_settled (hsettled.mono h)
  rw [name_ref] at hlater
  rw [refersTo?, hmeant, Option.map_some, hlater]

theorem Denotes.of_later {reference : TypeRef} {type : Ty} (h : Later s t) (hscope : Sited s scope)
    (hsettled : ∀ ref, type.ref? = some ref → s.Settled ref)
    (hdenotes : Denotes (refersTo? s.catalog scope) reference type) :
    Denotes (refersTo? t.catalog scope) reference type :=
  hdenotes.mono fun _ ref href => refersTo_of_later h hscope (hsettled ref href)

theorem DenotesField.of_later {definition : Option FieldDef} {field : Field} (h : Later s t)
    (hscope : Sited s scope) (hsettled : ∀ ref, field.type.ref? = some ref → s.Settled ref)
    (hdenotes : DenotesField (refersTo? s.catalog scope) definition field) :
    DenotesField (refersTo? t.catalog scope) definition field := by
  obtain ⟨reference, hdefinition, hdenotes⟩ := hdenotes
  exact ⟨reference, hdefinition, hdenotes.of_later h hscope hsettled⟩

theorem denotesFields_of_later {definitions : List (Option FieldDef)} {fields : List Field}
    (h : Later s t) (hscope : Sited s scope)
    (hsettled : ∀ field ∈ fields, ∀ ref, field.type.ref? = some ref → s.Settled ref)
    (hdenotes : List.Forall₂ (DenotesField (refersTo? s.catalog scope)) definitions fields) :
    List.Forall₂ (DenotesField (refersTo? t.catalog scope)) definitions fields := by
  induction hdenotes with
  | nil => exact .nil
  | @cons definition field definitions fields hfield _ ih =>
      refine .cons (hfield.of_later h hscope (hsettled field List.mem_cons_self)) (ih ?_)
      exact fun other hother => hsettled other (List.mem_cons_of_mem _ hother)

theorem Describes.of_later {definition : TypeDef} (h : Later s t) (hdecl : Sited s decl)
    (hrefs : ∀ type ∈ decl.body.types, ∀ ref, type.ref? = some ref → s.Settled ref)
    (hdescribes : Describes s.catalog decl definition) : Describes t.catalog decl definition := by
  unfold Describes at hdescribes ⊢
  cases hbody : decl.body with
  | compound style fields =>
      simp only [hbody] at hdescribes hrefs ⊢
      obtain ⟨definitions, hdefinitions, hfields⟩ := hdescribes
      refine ⟨definitions, hdefinitions, denotesFields_of_later h hdecl ?_ hfields⟩
      exact fun field hfield => hrefs field.type (List.mem_map_of_mem hfield)
  | enum storage values =>
      simp only [hbody] at hdescribes hrefs ⊢
      obtain ⟨reference, hreference, hdenotes⟩ := hdescribes
      refine ⟨reference, hreference, hdenotes.of_later h hdecl ?_⟩
      exact hrefs storage (List.mem_singleton_self _)
  | typedef aliased =>
      simp only [hbody] at hdescribes hrefs ⊢
      obtain ⟨reference, hreference, hdenotes⟩ := hdescribes
      refine ⟨reference, hreference, hdenotes.of_later h hdecl ?_⟩
      exact hrefs aliased (List.mem_singleton_self _)
  | interface => trivial

/-! ### Finished declarations -/

/-- The declaration of `q` is described by its definition. -/
def Finished (s : Resolver) (q : QualifiedName) : Prop :=
  ∃ decl entry, s.catalog.find? q = some decl ∧ entry ∈ s.repository.declared q.release ∧
    entry.1.name = q ∧ Describes s.catalog decl entry.2

theorem mem_names_of_find (h : s.catalog.find? q = some decl) : q ∈ s.catalog.names := by
  rw [← Catalog.contains_iff, Catalog.contains, h]
  rfl

theorem Finished.mem_names (h : s.Finished q) : q ∈ s.catalog.names := by
  obtain ⟨decl, entry, hfind, -⟩ := h
  exact mem_names_of_find hfind

/-- A finished declaration stays finished if it is not changed. -/
theorem Finished.of_later (hs : s.Consistent) (h : Later s t)
    (hsame : t.catalog.find? q = s.catalog.find? q) (hfinished : s.Finished q) : t.Finished q := by
  obtain ⟨decl, entry, hfind, hentry, hname, hdescribes⟩ := hfinished
  have hdecl := Catalog.mem_of_find hfind
  have hloaded := (h.before.mem_names_iff.mp (mem_names_of_find hfind)).1
  refine ⟨decl, entry, hsame.trans hfind, ?_, hname, ?_⟩
  · rwa [h.declared_eq hloaded]
  · exact hdescribes.of_later h (h.before.sited hdecl) (hs.resolved decl hdecl).refs

end HalBridge.Resolver
