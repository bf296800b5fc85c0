import HalBridge.Proofs.CatalogNames
import HalBridge.Proofs.Outcomes

/-!
# The declarations of a release

Which declarations a document stands for, said without a state: `entriesAll` lists the definitions
of a document, nested ones after the one around them, each with the declaration that it makes.
Declaring a document adds exactly these to the catalogue, all under new names.
-/

namespace HalBridge

/-- One declaration stands directly inside another. -/
structure Decl.Encloses (outer decl : Decl) : Prop where
  parent : decl.parent = some outer.name
  listed : decl.name ∈ outer.subTypes
  named : decl.name = outer.name.nested decl.name.name

namespace Resolver

open Document

/-- What a definition declares before its references are resolved. -/
def initialBody (definition : TypeDef) : Body :=
  match DeclKind.ofText? definition.kind with
  | none => .interface
  | some kind =>
      match placeholder kind definition.values with
      | .ok body => body
      | .error _ => .interface

/-- The names that definitions have directly inside `outer`. -/
def memberNames (outer : QualifiedName) (definitions : List (Option TypeDef)) :
    List QualifiedName :=
  definitions.filterMap (Option.map fun definition => outer.nested definition.name)

/-- The name of a definition inside `scopes`, or at the top of the release. -/
def nameOf (key : QualifiedName) (scopes : List QualifiedName) (definition : TypeDef) :
    QualifiedName :=
  (scopes.head?.getD key).nested definition.name

/-- The declaration that a definition makes, before its references are resolved. -/
def declOf (key : QualifiedName) (scopes : List QualifiedName) (definition : TypeDef) : Decl where
  name := nameOf key scopes definition
  comment := definition.comment
  scopes := scopes
  subTypes := memberNames (nameOf key scopes definition) (definition.subTypes.getD [])
  body := initialBody definition

mutual

/-- A definition and those nested in it, with the declarations that they make. -/
def entries (key : QualifiedName) (scopes : List QualifiedName) :
    TypeDef → List (Decl × TypeDef)
  | ⟨name, kind, fields, subTypes, storage, values, aliased, comment⟩ =>
      let definition : TypeDef :=
        ⟨name, kind, fields, subTypes, storage, values, aliased, comment⟩
      (declOf key scopes definition, definition) ::
        match subTypes with
        | none => []
        | some definitions => entriesAll key (nameOf key scopes definition :: scopes) definitions

def entriesAll (key : QualifiedName) (scopes : List QualifiedName) :
    List (Option TypeDef) → List (Decl × TypeDef)
  | [] => []
  | none :: rest => entriesAll key scopes rest
  | some definition :: rest => entries key scopes definition ++ entriesAll key scopes rest

end

/-- What resolving references starts from. -/
def pendingOf (new : List (Decl × TypeDef)) : Pending :=
  new.map fun entry => (entry.1.name, entry.2)

/-- The declarations `new` were added to the catalogue, all under new names, and nothing else
happened. -/
structure Declares (s : Resolver) (new : List Decl) (t : Resolver) : Prop where
  state : t = { s with catalog := ⟨s.catalog.decls ++ new⟩ }
  fresh : ∀ decl ∈ new, decl.name ∉ s.catalog.names
  distinct : (new.map Decl.name).Nodup

variable {s t u : Resolver} {key q : QualifiedName} {scopes : List QualifiedName}

theorem Declares.refl (s : Resolver) : Declares s [] s where
  state := by simp
  fresh := by simp
  distinct := List.nodup_nil

theorem Declares.names {new : List Decl} (h : Declares s new t) :
    t.catalog.names = s.catalog.names ++ new.map Decl.name := by
  rw [h.state]
  simp [Catalog.names]

theorem Declares.find_eq {new : List Decl} (h : Declares s new t) (hq : q ∈ s.catalog.names) :
    t.catalog.find? q = s.catalog.find? q := by
  rw [h.state]
  exact Catalog.find_of_isPrefix (List.prefix_append _ _) (Catalog.contains_iff.mpr hq)

theorem Declares.trans {first second : List Decl} (hst : Declares s first t)
    (htu : Declares t second u) : Declares s (first ++ second) u where
  state := by
    rw [htu.state, hst.state]
    simp
  fresh := by
    intro decl hdecl
    rcases List.mem_append.mp hdecl with hfirst | hsecond
    · exact hst.fresh decl hfirst
    · have hnot := htu.fresh decl hsecond
      rw [hst.names, List.mem_append, not_or] at hnot
      exact hnot.1
  distinct := by
    rw [List.map_append, List.nodup_append]
    refine ⟨hst.distinct, htu.distinct, ?_⟩
    intro name hname other hother hsame
    obtain ⟨decl, hdecl, rfl⟩ := List.mem_map.mp hother
    refine htu.fresh decl hdecl ?_
    rw [hst.names]
    exact List.mem_append_right _ (hsame ▸ hname)

theorem enter_ok {definition : TypeDef}
    (h : enter scopes (nameOf key scopes definition) definition s = .ok () t) :
    Declares s [{ declOf key scopes definition with subTypes := [] }] t := by
  unfold enter at h
  cases hkind : DeclKind.ofText? definition.kind with
  | none =>
      simp only [hkind] at h
      exact absurd h Outcome.throw_ne_ok
  | some kind =>
      simp only [hkind, Outcome.get_bind] at h
      split at h
      · obtain ⟨_, _, hthrow, _⟩ := Outcome.bind_ok_iff.mp h
        exact absurd hthrow Outcome.throw_ne_ok
      · rename_i hnew
        have hbody : ∀ body, placeholder kind definition.values = .ok body →
            initialBody definition = body := by
          intro body hplaceholder
          simp only [initialBody, hkind, hplaceholder]
        cases hplaceholder : placeholder kind definition.values with
        | error fault =>
            rw [hplaceholder] at h
            exact absurd h Outcome.throw_ne_ok
        | ok body =>
            rw [hplaceholder] at h
            simp only [Outcome.modifyCatalog_eq, EStateM.Result.ok.injEq] at h
            constructor
            · rw [← h.2, declOf, hbody body hplaceholder]
              rfl
            · intro decl hdecl
              rw [List.mem_singleton.mp hdecl, ← Catalog.contains_iff]
              exact hnew
            · exact List.nodup_singleton _

/-- Once the nested types are declared, the type around them is told their names. -/
theorem Declares.complete {decl : Decl} {nested : List Decl}
    (hdecl : Declares s [{ decl with subTypes := [] }] t) (hnested : Declares t nested u) :
    Declares s (decl :: nested)
      { u with
        catalog := u.catalog.update decl.name fun found =>
          { found with subTypes := decl.subTypes } } := by
  have hboth := hdecl.trans hnested
  have hfront : decl.name ∉ s.catalog.names :=
    hdecl.fresh { decl with subTypes := [] } (List.mem_singleton_self _)
  have hback : decl.name ∉ (Catalog.mk nested).names := by
    intro hmem
    have hdistinct := hboth.distinct
    rw [List.singleton_append, List.map_cons, List.nodup_cons] at hdistinct
    exact hdistinct.1 hmem
  constructor
  · rw [hboth.state, List.singleton_append, Catalog.update_append, Catalog.update_eq_self hfront]
    have hself : ((Catalog.mk nested).update decl.name fun found =>
        { found with subTypes := decl.subTypes }) = ⟨nested⟩ := Catalog.update_eq_self hback
    have hname : ({ decl with subTypes := [] } : Decl).name = decl.name := rfl
    rw [Catalog.decls_update_cons nested hname, hself]
  · intro other hother
    rcases List.mem_cons.mp hother with rfl | hother
    · exact hfront
    · exact hboth.fresh other (List.mem_append_right _ hother)
  · exact hboth.distinct

mutual

theorem declare_ok {key q : QualifiedName} {scopes : List QualifiedName} {pending : Pending}
    {s t : Resolver} (definition : TypeDef)
    (h : declare key scopes definition s = .ok (q, pending) t) :
    q = nameOf key scopes definition ∧
      pending = pendingOf (entries key scopes definition) ∧
      Declares s ((entries key scopes definition).map Prod.fst) t := by
  obtain ⟨name, kind, fields, subTypes, storage, values, aliased, comment⟩ := definition
  unfold declare at h
  obtain ⟨_, entered, henter, h⟩ := Outcome.bind_ok_iff.mp h
  cases subTypes with
  | none => exact absurd h Outcome.throw_ne_ok
  | some definitions =>
      obtain ⟨⟨names, others⟩, nested, hnested, h⟩ := Outcome.bind_ok_iff.mp h
      obtain ⟨rfl, rfl, hmembers⟩ := declareAll_ok definitions hnested
      obtain ⟨_, final, hfinal, h⟩ := Outcome.bind_ok_iff.mp h
      rw [Outcome.modifyCatalog_eq, EStateM.Result.ok.injEq] at hfinal
      rw [Outcome.pure_ok_iff, Prod.mk.injEq] at h
      obtain ⟨⟨rfl, rfl⟩, rfl⟩ := h
      obtain ⟨-, rfl⟩ := hfinal
      refine ⟨rfl, ?_, ?_⟩
      · rfl
      · exact (enter_ok henter).complete hmembers

theorem declareAll_ok {key : QualifiedName} {scopes names : List QualifiedName} {pending : Pending}
    {s t : Resolver} (definitions : List (Option TypeDef))
    (h : declareAll key scopes definitions s = .ok (names, pending) t) :
    names = memberNames (scopes.head?.getD key) definitions ∧
      pending = pendingOf (entriesAll key scopes definitions) ∧
      Declares s ((entriesAll key scopes definitions).map Prod.fst) t := by
  match definitions with
  | [] =>
      rw [declareAll, Outcome.pure_ok_iff, Prod.mk.injEq] at h
      obtain ⟨⟨rfl, rfl⟩, rfl⟩ := h
      exact ⟨rfl, rfl, Declares.refl s⟩
  | none :: rest =>
      rw [declareAll] at h
      exact absurd h Outcome.throw_ne_ok
  | some definition :: rest =>
      rw [declareAll] at h
      obtain ⟨⟨q, own⟩, middle, hfirst, h⟩ := Outcome.bind_ok_iff.mp h
      obtain ⟨⟨others, further⟩, final, hrest, h⟩ := Outcome.bind_ok_iff.mp h
      obtain ⟨rfl, rfl, hown⟩ := declare_ok definition hfirst
      obtain ⟨rfl, rfl, hothers⟩ := declareAll_ok rest hrest
      simp only [Outcome.pure_ok_iff, Prod.mk.injEq] at h
      obtain ⟨⟨rfl, rfl⟩, rfl⟩ := h
      refine ⟨rfl, ?_, ?_⟩
      · rw [entriesAll, pendingOf, pendingOf, pendingOf, List.map_append]
      · rw [entriesAll, List.map_append]
        exact hown.trans hothers

end

/-! ### Documents that can be declared -/

mutual

/-- Whether a definition can be declared where its names are free: its kind and the kinds of nested
definitions are known, and no part that declaring reads is missing. -/
def isDeclarable : TypeDef → Bool
  | ⟨_, _, _, none, _, _, _, _⟩ => false
  | ⟨_, kind, _, some members, _, values, _, _⟩ =>
      (DeclKind.ofText? kind).any (fun kind => (placeholder kind values).isOk) &&
        areDeclarable members

def areDeclarable : List (Option TypeDef) → Bool
  | [] => true
  | none :: _ => false
  | some definition :: rest => isDeclarable definition && areDeclarable rest

end

theorem enter_ok_kind {definition : TypeDef} (h : enter scopes q definition s = .ok () t) :
    (DeclKind.ofText? definition.kind).any
      (fun kind => (placeholder kind definition.values).isOk) := by
  unfold enter at h
  cases hkind : DeclKind.ofText? definition.kind with
  | none =>
      simp only [hkind] at h
      exact absurd h Outcome.throw_ne_ok
  | some kind =>
      simp only [hkind, Outcome.get_bind] at h
      split at h
      · obtain ⟨_, _, hthrow, _⟩ := Outcome.bind_ok_iff.mp h
        exact absurd hthrow Outcome.throw_ne_ok
      · cases hbody : placeholder kind definition.values with
        | error fault =>
            rw [hbody] at h
            exact absurd h Outcome.throw_ne_ok
        | ok body =>
            rw [Option.any_some, hbody]
            rfl

theorem exists_enter {definition : TypeDef}
    (hkind : (DeclKind.ofText? definition.kind).any
      fun kind => (placeholder kind definition.values).isOk)
    (hfresh : q ∉ s.catalog.names) : ∃ t, enter scopes q definition s = .ok () t := by
  obtain ⟨kind, hkind, hbody⟩ := (Option.any_eq_true ..).mp hkind
  have hnew : ¬s.catalog.contains q := fun hcontains => hfresh (Catalog.contains_iff.mp hcontains)
  unfold enter
  simp only [hkind, Outcome.get_bind, if_neg hnew]
  cases hplaceholder : placeholder kind definition.values with
  | error fault =>
      rw [hplaceholder] at hbody
      cases hbody
  | ok body => exact ⟨_, Outcome.modifyCatalog_eq⟩

mutual

theorem isDeclarable_of_declare {key : QualifiedName} {scopes : List QualifiedName}
    {result : QualifiedName × Pending} {s t : Resolver} (definition : TypeDef)
    (h : declare key scopes definition s = .ok result t) : isDeclarable definition := by
  obtain ⟨name, kind, fields, subTypes, storage, values, aliased, comment⟩ := definition
  unfold declare at h
  obtain ⟨_, entered, henter, h⟩ := Outcome.bind_ok_iff.mp h
  cases subTypes with
  | none => exact absurd h Outcome.throw_ne_ok
  | some members =>
      obtain ⟨result, nested, hnested, -⟩ := Outcome.bind_ok_iff.mp h
      rw [isDeclarable, Bool.and_eq_true]
      exact ⟨enter_ok_kind henter, areDeclarable_of_declareAll members hnested⟩

theorem areDeclarable_of_declareAll {key : QualifiedName} {scopes : List QualifiedName}
    {result : List QualifiedName × Pending} {s t : Resolver} (definitions : List (Option TypeDef))
    (h : declareAll key scopes definitions s = .ok result t) : areDeclarable definitions := by
  match definitions with
  | [] => rw [areDeclarable]
  | none :: rest =>
      rw [declareAll] at h
      exact absurd h Outcome.throw_ne_ok
  | some definition :: rest =>
      rw [declareAll] at h
      obtain ⟨first, middle, hfirst, h⟩ := Outcome.bind_ok_iff.mp h
      obtain ⟨others, final, hrest, -⟩ := Outcome.bind_ok_iff.mp h
      rw [areDeclarable, Bool.and_eq_true]
      exact ⟨isDeclarable_of_declare definition hfirst, areDeclarable_of_declareAll rest hrest⟩

end

/-- Names under which types can be declared. -/
structure Free (s : Resolver) (names : List QualifiedName) : Prop where
  fresh : ∀ q ∈ names, q ∉ s.catalog.names
  distinct : names.Nodup

theorem Free.front {names more : List QualifiedName} (h : Free s (names ++ more)) :
    Free s names :=
  ⟨fun q hq => h.fresh q (List.mem_append_left _ hq), (List.nodup_append.mp h.distinct).1⟩

/-- What is still to be declared is free also after some of it was declared. -/
theorem Free.rest {new : List Decl} {names : List QualifiedName}
    (h : Free s (new.map Decl.name ++ names)) (hnew : Declares s new t) : Free t names := by
  obtain ⟨-, hnames, hother⟩ := List.nodup_append.mp h.distinct
  refine ⟨?_, hnames⟩
  intro q hq hmem
  rw [hnew.names, List.mem_append] at hmem
  rcases hmem with hold | hdeclared
  · exact h.fresh q (List.mem_append_right _ hq) hold
  · exact hother q hdeclared q hq rfl

mutual

theorem exists_declare {key : QualifiedName} {scopes : List QualifiedName} {s : Resolver}
    (definition : TypeDef) (hdeclarable : isDeclarable definition)
    (hfree : Free s ((entries key scopes definition).map (·.1.name))) :
    ∃ result t, declare key scopes definition s = .ok result t := by
  obtain ⟨name, kind, fields, subTypes, storage, values, aliased, comment⟩ := definition
  cases subTypes with
  | none => exact absurd hdeclarable Bool.false_ne_true
  | some members =>
      rw [isDeclarable, Bool.and_eq_true] at hdeclarable
      unfold entries at hfree
      obtain ⟨entered, henter⟩ : ∃ t, enter scopes (nameOf key scopes _)
          ⟨name, kind, fields, some members, storage, values, aliased, comment⟩ s = .ok () t :=
        exists_enter hdeclarable.1 (hfree.fresh _ List.mem_cons_self)
      have hmembers := Free.rest hfree (enter_ok henter)
      obtain ⟨⟨names, pending⟩, nested, hnested⟩ := exists_declareAll members hdeclarable.2 hmembers
      unfold declare
      exact Outcome.bind_returns henter (Outcome.bind_returns hnested ⟨_, _, rfl⟩)

theorem exists_declareAll {key : QualifiedName} {scopes : List QualifiedName} {s : Resolver}
    (definitions : List (Option TypeDef)) (hdeclarable : areDeclarable definitions)
    (hfree : Free s ((entriesAll key scopes definitions).map (·.1.name))) :
    ∃ result t, declareAll key scopes definitions s = .ok result t := by
  match definitions with
  | [] => exact ⟨_, _, Outcome.pure_ok_iff.mpr ⟨rfl, rfl⟩⟩
  | none :: rest => exact absurd hdeclarable Bool.false_ne_true
  | some definition :: rest =>
      rw [areDeclarable, Bool.and_eq_true] at hdeclarable
      rw [entriesAll, List.map_append] at hfree
      obtain ⟨⟨q, pending⟩, middle, hfirst⟩ := exists_declare definition hdeclarable.1 hfree.front
      have hrest : Free middle ((entriesAll key scopes rest).map (·.1.name)) := by
        refine Free.rest ?_ (declare_ok definition hfirst).2.2
        rwa [List.map_map]
      obtain ⟨⟨names, others⟩, final, hothers⟩ := exists_declareAll rest hdeclarable.2 hrest
      rw [declareAll]
      exact Outcome.bind_returns hfirst (Outcome.bind_returns hothers ⟨_, _, rfl⟩)

end

/-! ### Where the declarations of a document stand -/

theorem mem_memberNames_iff {outer : QualifiedName} {definitions : List (Option TypeDef)} :
    q ∈ memberNames outer definitions ↔
      ∃ definition, some definition ∈ definitions ∧ outer.nested definition.name = q := by
  simp [memberNames, List.mem_filterMap]

/-- A definition occurs inside `inner` if `definitions` stand inside `scopes`. -/
inductive Occurs (key : QualifiedName) (scopes : List QualifiedName)
    (definitions : List (Option TypeDef)) : List QualifiedName → TypeDef → Prop
  | top {definition : TypeDef} (h : some definition ∈ definitions) :
      Occurs key scopes definitions scopes definition
  | nested {inner : List QualifiedName} {outer definition : TypeDef}
      {members : List (Option TypeDef)} (houter : Occurs key scopes definitions inner outer)
      (hmembers : outer.subTypes = some members) (h : some definition ∈ members) :
      Occurs key scopes definitions (nameOf key inner outer :: inner) definition

theorem Occurs.mono {definitions more : List (Option TypeDef)} {inner : List QualifiedName}
    {definition : TypeDef} (h : Occurs key scopes definitions inner definition)
    (hmore : definitions ⊆ more) : Occurs key scopes more inner definition := by
  induction h with
  | top h => exact .top (hmore h)
  | nested _ hmembers h ih => exact .nested ih hmembers h

/-- What occurs in the members of a definition occurs where the definition does. -/
theorem Occurs.inside {definitions members : List (Option TypeDef)}
    {inner : List QualifiedName} {outer definition : TypeDef}
    (houter : some outer ∈ definitions) (hmembers : outer.subTypes = some members)
    (h : Occurs key (nameOf key scopes outer :: scopes) members inner definition) :
    Occurs key scopes definitions inner definition := by
  induction h with
  | top h => exact .nested (.top houter) hmembers h
  | nested _ hmembers h ih => exact .nested ih hmembers h

mutual

theorem occurs_of_mem_entries {key : QualifiedName} {scopes : List QualifiedName}
    (definition : TypeDef) : ∀ entry ∈ entries key scopes definition,
      ∃ inner, Occurs key scopes [some definition] inner entry.2 ∧
        entry.1 = declOf key inner entry.2 := by
  obtain ⟨name, kind, fields, subTypes, storage, values, aliased, comment⟩ := definition
  intro entry hentry
  unfold entries at hentry
  rcases List.mem_cons.mp hentry with rfl | hentry
  · exact ⟨scopes, .top (List.mem_singleton_self _), rfl⟩
  · cases subTypes with
    | none => exact absurd hentry List.not_mem_nil
    | some definitions =>
        obtain ⟨inner, hoccurs, hdecl⟩ := occurs_of_mem_entriesAll definitions entry hentry
        exact ⟨inner, hoccurs.inside (List.mem_singleton_self _) rfl, hdecl⟩

theorem occurs_of_mem_entriesAll {key : QualifiedName} {scopes : List QualifiedName}
    (definitions : List (Option TypeDef)) : ∀ entry ∈ entriesAll key scopes definitions,
      ∃ inner, Occurs key scopes definitions inner entry.2 ∧
        entry.1 = declOf key inner entry.2 := by
  intro entry hentry
  match definitions with
  | [] =>
      rw [entriesAll] at hentry
      exact absurd hentry List.not_mem_nil
  | none :: rest =>
      rw [entriesAll] at hentry
      obtain ⟨inner, hoccurs, hdecl⟩ := occurs_of_mem_entriesAll rest entry hentry
      exact ⟨inner, hoccurs.mono (List.subset_cons_self _ _), hdecl⟩
  | some definition :: rest =>
      rw [entriesAll] at hentry
      rcases List.mem_append.mp hentry with hentry | hentry
      · obtain ⟨inner, hoccurs, hdecl⟩ := occurs_of_mem_entries definition entry hentry
        refine ⟨inner, hoccurs.mono ?_, hdecl⟩
        exact List.cons_subset.mpr ⟨List.mem_cons_self, List.nil_subset _⟩
      · obtain ⟨inner, hoccurs, hdecl⟩ := occurs_of_mem_entriesAll rest entry hentry
        exact ⟨inner, hoccurs.mono (List.subset_cons_self _ _), hdecl⟩

end

theorem mem_entries_self (definition : TypeDef) :
    (declOf key scopes definition, definition) ∈ entries key scopes definition := by
  obtain ⟨name, kind, fields, subTypes, storage, values, aliased, comment⟩ := definition
  unfold entries
  exact List.mem_cons_self

theorem entries_subset_entriesAll {definition : TypeDef} {definitions : List (Option TypeDef)}
    (h : some definition ∈ definitions) :
    entries key scopes definition ⊆ entriesAll key scopes definitions := by
  induction definitions with
  | nil => exact absurd h List.not_mem_nil
  | cons first rest ih =>
      rcases List.mem_cons.mp h with rfl | hrest
      · rw [entriesAll]
        exact List.subset_append_left _ _
      · cases first with
        | none =>
            rw [entriesAll]
            exact ih hrest
        | some other =>
            rw [entriesAll]
            exact List.Subset.trans (ih hrest) (List.subset_append_right _ _)

mutual

theorem members_subset_entries {key : QualifiedName} {scopes inner : List QualifiedName}
    {outer : TypeDef} {members : List (Option TypeDef)} (hmembers : outer.subTypes = some members)
    (definition : TypeDef)
    (h : (declOf key inner outer, outer) ∈ entries key scopes definition) :
    entriesAll key (nameOf key inner outer :: inner) members ⊆ entries key scopes definition := by
  obtain ⟨name, kind, fields, subTypes, storage, values, aliased, comment⟩ := definition
  unfold entries at h ⊢
  rcases List.mem_cons.mp h with hself | h
  · obtain ⟨hdecl, rfl⟩ := Prod.mk.inj hself
    obtain rfl : inner = scopes := congrArg Decl.scopes hdecl
    obtain rfl : subTypes = some members := hmembers
    exact List.subset_cons_self _ _
  · cases subTypes with
    | none => exact absurd h List.not_mem_nil
    | some definitions =>
        have hinner := members_subset_entriesAll hmembers definitions h
        exact List.Subset.trans hinner (List.subset_cons_self _ _)

theorem members_subset_entriesAll {key : QualifiedName} {scopes inner : List QualifiedName}
    {outer : TypeDef} {members : List (Option TypeDef)} (hmembers : outer.subTypes = some members)
    (definitions : List (Option TypeDef))
    (h : (declOf key inner outer, outer) ∈ entriesAll key scopes definitions) :
    entriesAll key (nameOf key inner outer :: inner) members ⊆
      entriesAll key scopes definitions := by
  match definitions with
  | [] =>
      rw [entriesAll] at h
      exact absurd h List.not_mem_nil
  | none :: rest =>
      rw [entriesAll] at h ⊢
      exact members_subset_entriesAll hmembers rest h
  | some definition :: rest =>
      rw [entriesAll] at h ⊢
      rcases List.mem_append.mp h with h | h
      · exact List.Subset.trans (members_subset_entries hmembers definition h)
          (List.subset_append_left _ _)
      · exact List.Subset.trans (members_subset_entriesAll hmembers rest h)
          (List.subset_append_right _ _)

end

theorem mem_entriesAll_of_occurs {definitions : List (Option TypeDef)}
    {inner : List QualifiedName} {definition : TypeDef}
    (h : Occurs key scopes definitions inner definition) :
    (declOf key inner definition, definition) ∈ entriesAll key scopes definitions := by
  induction h with
  | top h => exact entries_subset_entriesAll h (mem_entries_self _)
  | nested _ hmembers h ih =>
      refine members_subset_entriesAll hmembers definitions ih ?_
      exact entries_subset_entriesAll h (mem_entries_self _)

/-- The entries of a document are the declarations of the definitions that occur in it. -/
theorem mem_entriesAll_iff {definitions : List (Option TypeDef)} {entry : Decl × TypeDef} :
    entry ∈ entriesAll key scopes definitions ↔
      ∃ inner, Occurs key scopes definitions inner entry.2 ∧
        entry.1 = declOf key inner entry.2 := by
  constructor
  · exact occurs_of_mem_entriesAll definitions entry
  · rintro ⟨inner, hoccurs, hdecl⟩
    have hmem := mem_entriesAll_of_occurs hoccurs
    rwa [← hdecl] at hmem

theorem Occurs.release {definitions : List (Option TypeDef)} {inner : List QualifiedName}
    {definition : TypeDef} (h : Occurs key scopes definitions inner definition)
    (hscopes : (scopes.head?.getD key).release = key) :
    (nameOf key inner definition).release = key := by
  induction h with
  | top => exact hscopes
  | nested _ _ _ ih => exact ih

/-- All types of a document belong to its release. -/
theorem release_of_mem_entriesAll {definitions : List (Option TypeDef)} {entry : Decl × TypeDef}
    (hkey : key.release = key) (h : entry ∈ entriesAll key [] definitions) :
    entry.1.name.release = key := by
  obtain ⟨inner, hoccurs, hdecl⟩ := mem_entriesAll_iff.mp h
  rw [hdecl]
  exact hoccurs.release hkey

/-- A type of a document stands at the top of the release or inside another type of it. -/
theorem placed_of_mem_entriesAll {definitions : List (Option TypeDef)} {entry : Decl × TypeDef}
    (h : entry ∈ entriesAll key [] definitions) :
    (entry.1.parent = none ∧ entry.1.name ∈ memberNames key definitions) ∨
      ∃ outer ∈ entriesAll key [] definitions, outer.1.Encloses entry.1 := by
  obtain ⟨inner, hoccurs, hdecl⟩ := mem_entriesAll_iff.mp h
  obtain ⟨decl, definition⟩ := entry
  dsimp only at hoccurs hdecl ⊢
  subst hdecl
  cases hoccurs with
  | top htop => exact Or.inl ⟨rfl, mem_memberNames_iff.mpr ⟨definition, htop, rfl⟩⟩
  | @nested inner outer _ members houter hmembers hmember =>
      refine Or.inr ⟨_, mem_entriesAll_of_occurs houter, rfl, ?_, rfl⟩
      refine mem_memberNames_iff.mpr ⟨definition, ?_, rfl⟩
      rw [hmembers]
      exact hmember

end Resolver

end HalBridge
