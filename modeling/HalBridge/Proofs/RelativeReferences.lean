import HalBridge.Proofs.RegistryKeys
import HalBridge.Proofs.ResolverWellFormed
import HalBridge.Proofs.SampleDocuments
import Mathlib.Data.List.Infix

/-!
# Relative references bind to the innermost declaration

A reference without an at sign is a path that is searched from its scope outwards. The scopes
around a declaration have the prefixes of its own segments for segments, the longest first, and the
release stands for the empty prefix. So the search finds the type that is declared under the longest
prefix with the path behind it.
-/

namespace HalBridge

open Document

namespace QualifiedName

theorem names_nested {q : QualifiedName} {name : Option String} (h : (q.nested name).namesType) :
    ∃ last, name = some last ∧ (q.nested name).names = q.names ++ [last] := by
  cases name with
  | none => cases h
  | some last =>
      refine ⟨last, rfl, ?_⟩
      have hlast : last.isEmpty = false := by simpa [nested, namesType] using h
      simp only [names, nested, hlast, Bool.false_eq_true, if_false]

theorem names_ofPath (package : String) (version : Version) (front : List String)
    {path : List String} (hpath : ∀ segment ∈ path, segment ≠ "") (hne : path ≠ []) :
    (ofPath package version (front ++ path)).names = front ++ path := by
  obtain ⟨before, last, rfl⟩ := (List.eq_nil_or_concat' path).resolve_left hne
  have hlast : last.isEmpty = false := by
    simpa using hpath last (List.mem_append_right _ (List.mem_singleton_self _))
  rw [← List.append_assoc]
  simp only [names, ofPath, List.getLast?_append, List.getLast?_singleton, Option.some_or,
    Option.getD_some, hlast, Bool.false_eq_true, if_false, List.dropLast_concat]

/-- A type is determined by its release and its segments. -/
theorem eq_of_names {q r : QualifiedName} (hrelease : q.release = r.release)
    (hnames : q.names = r.names) (hne : q.names ≠ []) : q = r := by
  have hq := names_ne_nil_iff.mp hne
  have hr := names_ne_nil_iff.mp (hnames ▸ hne)
  obtain ⟨hpackage, hversion⟩ : q.package = r.package ∧ q.version = r.version := by
    simpa [release] using hrelease
  refine eq_of_lineage hq hr ?_ hversion
  rw [lineage, lineage, hpackage, hversion, hnames]

end QualifiedName

namespace Resolver

open QualifiedName

variable {s : Resolver} {catalog : Catalog} {decl : Decl} {key scope q : QualifiedName}
  {path : List String}

/-! ### Prefixes of segments -/

section Prefixes

variable {α β : Type} {search : List α → Option β} {segments : List α}

theorem inits_concat (segments : List α) (last : α) :
    (segments ++ [last]).inits.reverse = (segments ++ [last]) :: segments.inits.reverse := by
  simp [List.inits_append]

/-- The first find, from the longest prefix down, is at the longest prefix with a find. -/
theorem longest_of_findSome {found : β}
    (h : segments.inits.reverse.findSome? search = some found) :
    ∃ outer, outer <+: segments ∧ search outer = some found ∧
      ∀ longer, longer <+: segments → outer.length < longer.length → search longer = none := by
  induction segments using List.reverseRecOn with
  | nil =>
      refine ⟨[], List.prefix_refl _, ?_, ?_⟩
      · rwa [List.inits, List.reverse_singleton, List.findSome?_singleton] at h
      · intro longer hlonger hlength
        rw [List.prefix_nil.mp hlonger] at hlength
        omega
  | append_singleton segments last ih =>
      rw [inits_concat, List.findSome?_cons] at h
      cases hwhole : search (segments ++ [last]) with
      | some whole =>
          rw [hwhole] at h
          refine ⟨segments ++ [last], List.prefix_refl _, hwhole.trans h, ?_⟩
          intro longer hlonger hlength
          have hle := hlonger.length_le
          omega
      | none =>
          rw [hwhole] at h
          obtain ⟨outer, houter, hfound, hlongest⟩ := ih h
          refine ⟨outer, houter.trans (List.prefix_append _ _), hfound, ?_⟩
          intro longer hlonger hlength
          rcases List.prefix_concat_iff.mp hlonger with rfl | hlonger
          · exact hwhole
          · exact hlongest longer hlonger hlength

end Prefixes

/-! ### Scopes -/

/-- The scopes in which a relative path is searched have the prefixes of the segments of the
declaration for segments. -/
theorem Occurs.map_names {definitions : List (Option TypeDef)} {inner : List QualifiedName}
    {definition : TypeDef} (hkey : key.names = [])
    (hnamed : ∀ inner definition, Occurs key [] definitions inner definition →
      (nameOf key inner definition).namesType)
    (h : Occurs key [] definitions inner definition) :
    (nameOf key inner definition :: inner ++ [key]).map names =
      (nameOf key inner definition).names.inits.reverse := by
  induction h with
  | top hmem =>
      obtain ⟨last, -, hnames⟩ := names_nested (hnamed _ _ (.top hmem))
      change (nameOf key [] _).names = key.names ++ [last] at hnames
      simp only [List.cons_append, List.nil_append, List.map_cons, List.map_nil, hnames, hkey]
      rfl
  | @nested inner outer definition members houter hmembers hmem ih =>
      obtain ⟨last, -, hnames⟩ := names_nested (hnamed _ _ (.nested houter hmembers hmem))
      change (nameOf key (nameOf key inner outer :: inner) definition).names = _ at hnames
      rw [List.cons_append, List.map_cons, ih, hnames]
      exact (inits_concat _ last).symm

theorem Accounted.map_names (h : Accounted s) (hdecl : decl ∈ s.catalog.decls)
    (hnamed : ∀ q ∈ s.catalog.names, q.release = decl.name.release → q.namesType) :
    (decl.name :: decl.scopes ++ [decl.name.release]).map names =
      decl.name.names.inits.reverse := by
  obtain ⟨hloaded, definition, hentry⟩ := h.exists_definition hdecl
  obtain ⟨release, inner, hread, hoccurs, hsame⟩ := mem_declared_iff.mp hentry
  have hname : decl.name = nameOf decl.name.release inner definition := congrArg Decl.name hsame
  have hscopes : decl.scopes = inner := congrArg Decl.scopes hsame
  rw [hscopes]
  have hmap := hoccurs.map_names rfl ?_
  · rwa [← hname] at hmap
  · intro inner definition hoccurs
    exact hnamed _ (h.mem_names_of_occurs rfl hloaded hread hoccurs) (hoccurs.release rfl)

/-! ### Searching a path -/

theorem names_within (hpath : ∀ segment ∈ path, segment ≠ "") (scope : QualifiedName) :
    (within scope path).names = scope.names ++ path := by
  induction path generalizing scope with
  | nil => exact (List.append_nil _).symm
  | cons first rest ih =>
      have hfirst : (scope.nested (some first)).namesType := by
        simpa [nested, namesType] using hpath first List.mem_cons_self
      obtain ⟨last, hlast, hnames⟩ := names_nested hfirst
      obtain rfl := Option.some.inj hlast
      have hrest := ih (fun segment hsegment => hpath segment (List.mem_cons_of_mem _ hsegment))
        (scope.nested (some first))
      rw [hnames, List.append_assoc] at hrest
      exact hrest

/-- A path of segments inside a scope continues the segments of the scope. -/
theorem within_eq (hpath : ∀ segment ∈ path, segment ≠ "") (hne : path ≠ [])
    (scope : QualifiedName) :
    within scope path = ofPath scope.package scope.version (scope.names ++ path) := by
  have hnames := names_within hpath scope
  refine eq_of_names (release_within scope path) ?_ ?_
  · rw [hnames, names_ofPath _ _ _ hpath hne]
  · rw [hnames]
    exact List.append_ne_nil_of_right_ne_nil _ hne

/-- The declared type with these segments in the release of `scope`. -/
def declaredAs? (catalog : Catalog) (scope : QualifiedName) (segments : List String) :
    Option QualifiedName :=
  if catalog.contains (ofPath scope.package scope.version segments) then
    some (ofPath scope.package scope.version segments)
  else none

theorem findRelative_eq (hpath : ∀ segment ∈ path, segment ≠ "") (hne : path ≠ [])
    (hscopes : ∀ outer ∈ decl.scopes, outer.release = decl.name.release)
    (hnames : (decl.name :: decl.scopes ++ [decl.name.release]).map names =
      decl.name.names.inits.reverse) :
    findRelative? catalog decl path =
      decl.name.names.inits.reverse.findSome? fun outer =>
        declaredAs? catalog decl.name (outer ++ path) := by
  rw [← hnames, List.findSome?_map]
  refine findSome_congr fun outer houter => ?_
  have hrelease : outer.release = decl.name.release := by
    rcases List.mem_append.mp houter with houter | houter
    · rcases List.mem_cons.mp houter with rfl | houter
      · rfl
      · exact hscopes outer houter
    · rw [List.mem_singleton.mp houter]
      rfl
  obtain ⟨hpackage, hversion⟩ :
      outer.package = decl.name.package ∧ outer.version = decl.name.version := by
    simpa [release] using hrelease
  simp only [Function.comp_apply, declaredAs?, within_eq hpath hne, hpackage, hversion]

/-! ### What a path means -/

/-- `q` is declared in the release of `scope`, under these segments. -/
structure DeclaredAs (catalog : Catalog) (scope : QualifiedName) (segments : List String)
    (q : QualifiedName) : Prop where
  mem : q ∈ catalog.names
  release : q.release = scope.release
  names : q.names = segments

/-- What a path means in the scope of a type: the type declared under the path behind the longest
prefix of the segments of the scope for which there is one, and else an external type of the same
release with the path for segments. -/
inductive Means (catalog : Catalog) (scope : QualifiedName) (path : List String) : Ref → Prop
  | declared {outer : List String} {q : QualifiedName} (hinit : outer <+: scope.names)
      (hq : DeclaredAs catalog scope (outer ++ path) q)
      (hlongest : ∀ longer r, longer <+: scope.names →
        DeclaredAs catalog scope (longer ++ path) r → longer.length ≤ outer.length) :
      Means catalog scope path (.declared q)
  | external {q : QualifiedName} (hnone : ∀ outer r, outer <+: scope.names →
        ¬DeclaredAs catalog scope (outer ++ path) r)
      (hrelease : q.release = scope.release) (hnames : q.names = path) :
      Means catalog scope path (.external q)

theorem DeclaredAs.unique {segments : List String} {q r : QualifiedName}
    (hq : DeclaredAs catalog scope segments q) (hr : DeclaredAs catalog scope segments r)
    (hne : segments ≠ []) : r = q := by
  refine eq_of_names (hr.release.trans hq.release.symm) (hr.names.trans hq.names.symm) ?_
  rwa [hr.names]

theorem Means.unique {ref other : Ref} (h : Means catalog scope path ref)
    (hother : Means catalog scope path other) (hne : path ≠ []) : other = ref := by
  cases h with
  | declared hinit hq hlongest =>
      cases hother with
      | declared hinit' hq' hlongest' =>
          have hlength := Nat.le_antisymm (hlongest _ _ hinit' hq') (hlongest' _ _ hinit hq)
          have hsame := (List.prefix_of_prefix_length_le hinit' hinit hlength.le).eq_of_length
            hlength
          subst hsame
          rw [hq.unique hq' (List.append_ne_nil_of_right_ne_nil _ hne)]
      | external hnone => exact absurd hq (hnone _ _ hinit)
  | external hnone hrelease hnames =>
      cases hother with
      | declared hinit hq => exact absurd hq (hnone _ _ hinit)
      | external _ hrelease' hnames' =>
          rw [eq_of_names (hrelease'.trans hrelease.symm) (hnames'.trans hnames.symm)
            (by rwa [hnames'])]

theorem declaredAs_eq_some_iff {segments : List String}
    (hsegments : (ofPath scope.package scope.version segments).names = segments)
    (hne : segments ≠ []) :
    declaredAs? catalog scope segments = some q ↔ DeclaredAs catalog scope segments q := by
  unfold declaredAs?
  constructor
  · intro h
    split at h
    · rename_i hcontains
      obtain rfl := Option.some.inj h
      exact ⟨Catalog.contains_iff.mp hcontains, rfl, hsegments⟩
    · cases h
  · rintro ⟨hmem, hrelease, hnames⟩
    have hq : ofPath scope.package scope.version segments = q := by
      refine eq_of_names hrelease.symm (hsegments.trans hnames.symm) ?_
      rwa [hsegments]
    rw [hq, if_pos (Catalog.contains_iff.mpr hmem)]

theorem split_ne_nil (separator : Char) (text : String) : Text.split separator text ≠ [] := by
  have hchars : ∀ cs, Text.splitChars separator cs ≠ [] := by
    intro cs
    cases cs with
    | nil => exact List.cons_ne_nil _ _
    | cons c rest =>
        unfold Text.splitChars
        split
        · exact List.cons_ne_nil _ _
        · split
          · exact List.cons_ne_nil _ _
          · exact List.cons_ne_nil _ _
  intro hnil
  exact hchars _ (List.map_eq_nil_iff.mp hnil)

/-- In a loaded release nothing more is loaded for a type that is not declared. -/
theorem lookupWith_undeclared (load : QualifiedName → Loading Unit) (hq : q ∉ s.catalog.names)
    (hloaded : s.isLoaded q.release) : lookupWith load q s = .ok (.external q) s := by
  have hcontains : s.catalog.contains q = false := by
    rw [← Bool.not_eq_true, Catalog.contains_iff]
    exact hq
  unfold lookupWith
  simp only [Outcome.get_bind, hcontains, hloaded, Bool.false_eq_true, if_false, if_true]
  rfl

theorem resolveName_of_found {lookup : QualifiedName → Loading Ref} {reference : String}
    (hat : '@' ∉ reference.toList)
    (hfound : findRelative? s.catalog decl (Text.split '.' reference) = some q) :
    resolveName lookup decl reference s = .ok (.declared q) s := by
  have hcontains : reference.toList.contains '@' = false := by simpa using hat
  unfold resolveName
  simp only [hcontains, Bool.false_eq_true, if_false, Outcome.get_bind, hfound]
  rfl

theorem resolveName_of_not_found {lookup : QualifiedName → Loading Ref} {reference : String}
    (hat : '@' ∉ reference.toList)
    (hfound : findRelative? s.catalog decl (Text.split '.' reference) = none) :
    resolveName lookup decl reference s =
      lookup (ofPath decl.name.package decl.name.version (Text.split '.' reference)) s := by
  have hcontains : reference.toList.contains '@' = false := by simpa using hat
  unfold resolveName
  simp only [hcontains, Bool.false_eq_true, if_false, Outcome.get_bind, hfound]

/-- Searching a path in a declaration gives what the path means there, and loads nothing. -/
theorem Accounted.resolveName_means (h : Accounted s) (hdecl : decl ∈ s.catalog.decls)
    (hnamed : ∀ q ∈ s.catalog.names, q.release = decl.name.release → q.namesType)
    {reference : String} (hat : '@' ∉ reference.toList)
    (hsegments : ∀ segment ∈ Text.split '.' reference, segment ≠ "") :
    ∃ ref, Means s.catalog decl.name (Text.split '.' reference) ref ∧
      ∀ load, resolveName (lookupWith load) decl reference s = .ok ref s := by
  have hne := split_ne_nil '.' reference
  have hsited := h.sited hdecl
  have hdeclared : ∀ {outer q},
      declaredAs? s.catalog decl.name (outer ++ Text.split '.' reference) = some q ↔
        DeclaredAs s.catalog decl.name (outer ++ Text.split '.' reference) q :=
    declaredAs_eq_some_iff (names_ofPath _ _ _ hsegments hne)
      (List.append_ne_nil_of_right_ne_nil _ hne)
  have hfind : findRelative? s.catalog decl (Text.split '.' reference) = _ :=
    findRelative_eq hsegments hne hsited.scopes (h.map_names hdecl hnamed)
  cases hfound : findRelative? s.catalog decl (Text.split '.' reference) with
  | some q =>
      rw [hfound] at hfind
      obtain ⟨outer, hinit, hq, hlongest⟩ := longest_of_findSome hfind.symm
      refine ⟨.declared q, .declared hinit (hdeclared.mp hq) ?_,
        fun load => resolveName_of_found hat hfound⟩
      intro longer r hlonger hr
      by_contra hlength
      have hnone := hlongest longer hlonger (Nat.lt_of_not_le hlength)
      rw [hdeclared.mpr hr] at hnone
      cases hnone
  | none =>
      rw [hfound] at hfind
      have hnone : ∀ outer r, outer <+: decl.name.names →
          ¬DeclaredAs s.catalog decl.name (outer ++ Text.split '.' reference) r := by
        intro outer r hinit hr
        have hsearch := List.findSome?_eq_none_iff.mp hfind.symm outer
          (List.mem_reverse.mpr ((List.mem_inits _ _).mpr hinit))
        rw [hdeclared.mpr hr] at hsearch
        cases hsearch
      have hnames : (ofPath decl.name.package decl.name.version (Text.split '.' reference)).names =
          Text.split '.' reference :=
        names_ofPath decl.name.package decl.name.version [] hsegments hne
      refine ⟨.external (ofPath decl.name.package decl.name.version (Text.split '.' reference)),
        .external hnone rfl hnames, fun load => ?_⟩
      rw [resolveName_of_not_found hat hfound]
      refine lookupWith_undeclared load ?_ hsited.loaded
      intro hmem
      exact hnone [] _ List.nil_prefix ⟨hmem, rfl, hnames⟩

/-- **Innermost binding.** In a resolved model, a reference without an at sign in the scope of a
type of a release with proper names is resolved to what its path means there, which is one type
only, and resolving it loads nothing. -/
theorem relative_references_bind_innermost (repository : Repository)
    (hread : repository.Faithful) (calls : List Call) (s : Resolver)
    (h : performAll calls { repository } = .ok () s) (decl : Decl)
    (hdecl : decl ∈ s.catalog.decls)
    (hnamed : ∀ q ∈ s.catalog.names, q.release = decl.name.release → q.namesType)
    (reference : String) (hat : '@' ∉ reference.toList)
    (hsegments : ∀ segment ∈ Text.split '.' reference, segment ≠ "") :
    ∃ ref, Means s.catalog decl.name (Text.split '.' reference) ref ∧
      (∀ other, Means s.catalog decl.name (Text.split '.' reference) other → other = ref) ∧
      ∀ load, resolveName (lookupWith load) decl reference s = .ok ref s := by
  obtain ⟨hidle, -⟩ := performAll_ok (idle_fresh hread) h
  obtain ⟨ref, hmeans, hresolve⟩ :=
    hidle.consistent.toAccounted.resolveName_means hdecl hnamed hat hsegments
  exact ⟨ref, hmeans, fun other hother => hmeans.unique hother (split_ne_nil '.' reference),
    hresolve⟩

/-- A type whose name is taken again inside another type. -/
def shadowedItem : Repository :=
  Sample.repository [Sample.release "p" "1.0"
    [Sample.interface "Item", Sample.interface "Box" [Sample.interface "Item"]]]

namespace shadowedItem

def box : QualifiedName :=
  ⟨"p", ⟨1, 0⟩, some "Box", []⟩

def inner : QualifiedName :=
  ⟨"p", ⟨1, 0⟩, some "Item", ["Box"]⟩

/-- What is seen of the scope and of the search in it. -/
def search? (s : Resolver) : Option (Bool × Option QualifiedName) :=
  (s.catalog.find? box).map fun decl =>
    (s.catalog.names.all namesType, findRelative? s.catalog decl (Text.split '.' "Item"))

theorem view_loaded :
    Outcome.view (fun _ s => search? s)
      (performAll [.release ⟨"p", ⟨1, 0⟩, some "", []⟩] { repository := shadowedItem }) =
    some (some (true, some inner)) := by
  decide +kernel

end shadowedItem

theorem relative_references_bind_innermost_shadowedItem :
    ∃ s decl,
      performAll [.release ⟨"p", ⟨1, 0⟩, some "", []⟩] { repository := shadowedItem } = .ok () s ∧
      decl ∈ s.catalog.decls ∧ decl.name = shadowedItem.box ∧
      (∀ q ∈ s.catalog.names, q.release = decl.name.release → q.namesType) ∧
      '@' ∉ "Item".toList ∧ (∀ segment ∈ Text.split '.' "Item", segment ≠ "") ∧
      Means s.catalog shadowedItem.box (Text.split '.' "Item") (.declared shadowedItem.inner) ∧
      ∀ load, resolveName (lookupWith load) decl "Item" s =
        .ok (.declared shadowedItem.inner) s := by
  obtain ⟨_, s, hrun, hseen⟩ := Outcome.of_view shadowedItem.view_loaded
  obtain ⟨decl, hfind, hseen⟩ := Option.map_eq_some_iff.mp hseen
  obtain ⟨hall, hfound⟩ := Prod.mk.inj hseen
  have hname := Catalog.name_of_find hfind
  have hdecl := Catalog.mem_of_find hfind
  have hnamed : ∀ q ∈ s.catalog.names, q.release = decl.name.release → q.namesType :=
    fun q hq _ => List.all_eq_true.mp hall q hq
  have hat : '@' ∉ "Item".toList := by decide
  have hsegments : ∀ segment ∈ Text.split '.' "Item", segment ≠ "" := by decide
  obtain ⟨ref, hmeans, -, hresolve⟩ :=
    relative_references_bind_innermost shadowedItem (Repository.faithful_of_read_eq_nil rfl) _ s
      hrun decl hdecl hnamed "Item" hat hsegments
  have href : ref = .declared shadowedItem.inner := by
    have hsame := hresolve fun _ => pure ()
    rw [resolveName_of_found hat hfound] at hsame
    exact (EStateM.Result.ok.inj hsame).1.symm
  rw [href, hname] at hmeans
  rw [href] at hresolve
  exact ⟨s, decl, hrun, hdecl, hname, hnamed, hat, hsegments, hmeans, hresolve⟩

end Resolver

end HalBridge
