import HalBridge.Proofs.WrittenReferences

/-!
# Properties of resolving references

Resolving references only looks names up, reads the catalogue, fills bodies in and fails. So what
holds of these steps, and of one step after another, holds of resolving all that is pending. The
steps may depend on an environment, such as the way in which a release is loaded.
-/

namespace HalBridge.Resolver

open Document

/-- A property that holds of the steps of resolving references, other than looking a name up, and
is kept by sequencing. -/
structure Closed {E : Type} (P : ⦃α : Type⦄ → (E → Loading α) → Prop) : Prop where
  pure {α : Type} (a : α) : P fun _ => Pure.pure a
  throw {α : Type} (fault : Fault) : P fun _ => (MonadExcept.throw fault : Loading α)
  bind {α β : Type} {x : E → Loading α} {f : α → E → Loading β} (hx : P x) (hf : ∀ a, P (f a)) :
    P fun e => x e >>= fun a => f a e
  catalog {α : Type} {f : Resolver → E → Loading α} (hf : ∀ r, P (f r))
    (hcatalog : ∀ r r', r.catalog = r'.catalog → f r = f r') : P fun e => get >>= fun r => f r e
  setBody (q : QualifiedName) (body : Body) : P fun _ => Resolver.setBody q body

/-- Resolving what is pending may look this name up: it belongs to the release of a pending
declaration, or is written in one as a qualified name. -/
def Asks (pending : Pending) (q : QualifiedName) : Prop :=
  ∃ entry ∈ pending, q.release = entry.1.release ∨
    ∃ written ∈ entry.2.types, ∃ text, written.reference? = some text ∧
      QualifiedName.parse? text = some q

namespace Closed

variable {E : Type} {P : ⦃α : Type⦄ → (E → Loading α) → Prop} (hP : Closed P)
  {lookup : E → QualifiedName → Loading Ref} {scope : Decl}

include hP

theorem mapM {α γ : Type} {g : E → γ → Loading α} {list : List γ}
    (hg : ∀ c ∈ list, P fun e => g e c) : P fun e => list.mapM (g e) := by
  induction list with
  | nil => exact hP.pure []
  | cons c rest ih =>
      obtain ⟨hc, hrest⟩ := List.forall_mem_cons.mp hg
      simp only [List.mapM_cons]
      exact hP.bind hc fun _ => hP.bind (ih hrest) fun _ => hP.pure _

theorem resolveName (reference : String)
    (hrelative : ∀ q, q.release = scope.name.release → P fun e => lookup e q)
    (hqualified : ∀ q, QualifiedName.parse? reference = some q → P fun e => lookup e q) :
    P fun e => Resolver.resolveName (lookup e) scope reference := by
  unfold Resolver.resolveName
  split
  · cases hparse : QualifiedName.parse reference with
    | error error =>
        cases error with
        | malformed => exact hP.throw _
        | overlong length => exact hP.throw _
    | ok q => exact hqualified q (QualifiedName.parse_eq_some_iff.mpr hparse)
  · refine hP.catalog (fun r => ?_) fun r r' hcatalog => by simp only [hcatalog]
    split
    · exact hP.pure _
    · exact hrelative _ rfl

theorem resolveType (written : TypeRef)
    (hrelative : ∀ q, q.release = scope.name.release → P fun e => lookup e q)
    (hqualified : ∀ text q, written.reference? = some text → QualifiedName.parse? text = some q →
      P fun e => lookup e q) :
    P fun e => Resolver.resolveType (lookup e) scope written := by
  induction written using Resolver.resolveType.induct with
  | case1 _ _ _ _ scalar hscalar =>
      simp only [Resolver.resolveType, hscalar]
      exact hP.pure _
  | case2 _ _ _ _ hscalar =>
      simp only [Resolver.resolveType, hscalar]
      exact hP.throw _
  | case3 => exact hP.pure _
  | case4 | case6 | case8 | case9 => exact hP.throw _
  | case5 _ _ _ _ ih =>
      rw [TypeRef.reference?] at hqualified
      exact hP.bind (ih hqualified) fun _ => hP.pure _
  | case7 _ _ _ size ih =>
      rw [TypeRef.reference?] at hqualified
      refine hP.bind (ih hqualified) fun element => ?_
      cases size with
      | none => exact hP.throw _
      | some size =>
          dsimp only
          split
          · exact hP.pure _
          · exact hP.throw _
  | case10 _ _ _ reference =>
      rw [TypeRef.reference?] at hqualified
      simp only [Resolver.resolveType]
      exact hP.bind (hP.resolveName reference hrelative fun q => hqualified reference q rfl)
        fun _ => hP.pure _
  | case11 _ _ _ _ _ _ _ _ _ _ _ _ special hspecial =>
      simp only [Resolver.resolveType, hspecial]
      exact hP.pure _
  | case12 _ _ _ _ _ _ _ _ _ _ _ _ hspecial =>
      simp only [Resolver.resolveType, hspecial]
      exact hP.throw _

theorem resolveField (entry : Option FieldDef)
    (hrelative : ∀ q, q.release = scope.name.release → P fun e => lookup e q)
    (hqualified : ∀ written ∈ (entry.bind FieldDef.type).toList, ∀ text q,
      written.reference? = some text → QualifiedName.parse? text = some q → P fun e => lookup e q) :
    P fun e => Resolver.resolveField (lookup e) scope entry := by
  unfold Resolver.resolveField
  split
  · exact hP.throw _
  · exact hP.throw _
  · rename_i name written comment
    refine hP.bind (hP.resolveType written hrelative ?_) fun _ => hP.pure _
    exact hqualified written (List.mem_singleton_self _)

theorem resolveDecl (definition : TypeDef)
    (hrelative : ∀ q, q.release = scope.name.release → P fun e => lookup e q)
    (hqualified : ∀ written ∈ definition.types, ∀ text q, written.reference? = some text →
      QualifiedName.parse? text = some q → P fun e => lookup e q) :
    P fun e => Resolver.resolveDecl (lookup e) scope definition := by
  unfold Resolver.resolveDecl
  cases scope.body with
  | interface => exact hP.pure _
  | compound style old =>
      dsimp only
      cases hfields : definition.fields with
      | none => exact hP.throw _
      | some fields =>
          dsimp only
          refine hP.bind (hP.mapM fun entry hentry => ?_) fun _ => hP.setBody _ _
          refine hP.resolveField entry hrelative fun written hwritten => hqualified written ?_
          simp only [TypeDef.types, hfields, Option.getD_some, List.mem_append]
          exact Or.inl (Or.inl (List.mem_filterMap.mpr
            ⟨entry, hentry, Option.mem_toList.mp hwritten⟩))
  | enum old values =>
      dsimp only
      cases hstorage : definition.storage with
      | none => exact hP.throw _
      | some written =>
          have hmem : written ∈ definition.types := by simp [TypeDef.types, hstorage]
          dsimp only
          refine hP.bind (hP.resolveType written hrelative (hqualified written hmem)) fun storage =>
            hP.bind (hP.setBody _ _) fun _ => ?_
          refine hP.catalog (fun r => ?_) fun r r' hcatalog => by simp only [hcatalog]
          split
          · exact hP.throw _
          · exact hP.pure _
  | typedef old =>
      dsimp only
      cases haliased : definition.aliased with
      | none => exact hP.throw _
      | some written =>
          have hmem : written ∈ definition.types := by simp [TypeDef.types, haliased]
          exact hP.bind (hP.resolveType written hrelative (hqualified written hmem)) fun _ =>
            hP.setBody _ _

/-- What holds of looking up each name that may be asked for holds of resolving what is pending. -/
theorem resolvePending (lookup : E → QualifiedName → Loading Ref) (pending : Pending)
    (hlookup : ∀ q, Asks pending q → P fun e => lookup e q) :
    P fun e => Resolver.resolvePending (lookup e) pending := by
  induction pending with
  | nil => exact hP.pure _
  | cons first rest ih =>
      obtain ⟨q, definition⟩ := first
      have hrest := ih fun r ⟨entry, hentry, hasked⟩ =>
        hlookup r ⟨entry, List.mem_cons_of_mem _ hentry, hasked⟩
      unfold Resolver.resolvePending
      refine hP.catalog (fun r => ?_) fun r r' hcatalog => by simp only [hcatalog]
      dsimp only
      cases hfind : r.catalog.find? q with
      | none => exact hrest
      | some scope =>
          have hname : scope.name = q := Catalog.name_of_find hfind
          refine hP.bind (hP.resolveDecl definition ?_ ?_) fun _ => hrest
          · intro r hr
            exact hlookup r ⟨_, List.mem_cons_self, Or.inl (hname ▸ hr)⟩
          · intro written hwritten text r htext hparse
            exact hlookup r ⟨_, List.mem_cons_self, Or.inr ⟨written, hwritten, text, htext, hparse⟩⟩

end Closed

end HalBridge.Resolver
