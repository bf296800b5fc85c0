import HalBridge.Merge
import Mathlib.Data.List.Nodup
import Mathlib.Data.List.Perm.Basic
import Mathlib.Logic.Relation

/-!
# The walk of a merge

Merging a compound type walks its fields depth first and enters the versions that they embed.
`Expands` gives the walk by rules, with no bound on its depth. The walk that runs follows these
rules, since every type it enters is a declaration of its own; and the rules reach exactly the
types that version references lead to, each of them once.
-/

namespace HalBridge

open Merge

namespace Merge

def Step.field? : Step → Option Field
  | .field met => some met
  | .back _ _ _ => none

/-- The fields met by a walk, with their access paths. -/
def Walk.fields (walk : Walk) : List Field :=
  walk.steps.filterMap Step.field?

end Merge

/-- A field as it is declared, whatever path reaches it. -/
def Field.withoutAccess (field : Field) : Field :=
  { field with access := none }

namespace Catalog

/-- The type of a field of `q` is the other version `target` of `q`: a compound that is declared
under the same names in the same package. -/
structure EmbedsIn (catalog : Catalog) (q : QualifiedName) (field : Field)
    (target : QualifiedName) : Prop where
  type : field.type = .named (.declared target)
  compound : (catalog.compound? target).isSome
  other : target ≠ q
  package : target.package = q.package
  names : target.names = q.names

theorem versionTarget_eq_some_iff {catalog : Catalog} {q target : QualifiedName} {field : Field} :
    catalog.versionTarget? q field = some target ↔ catalog.EmbedsIn q field target := by
  have hguard : ∀ r : QualifiedName,
      ((catalog.compound? r).isSome && r ≠ q && r.sameLineage q) = true ↔
        (catalog.compound? r).isSome ∧ r ≠ q ∧ r.package = q.package ∧ r.names = q.names := by
    intro r
    simp [QualifiedName.sameLineage, and_assoc]
  constructor
  · intro h
    unfold versionTarget? at h
    split at h
    · rename_i r htype
      split at h
      · rename_i hfound
        obtain rfl := Option.some.inj h
        obtain ⟨hcompound, hother, hpackage, hnames⟩ := (hguard r).mp hfound
        exact ⟨htype, hcompound, hother, hpackage, hnames⟩
      · cases h
    · cases h
  · rintro ⟨htype, hcompound, hother, hpackage, hnames⟩
    simp only [versionTarget?, htype]
    exact if_pos ((hguard target).mpr ⟨hcompound, hother, hpackage, hnames⟩)

/-- A field of `q` embeds the other version `target` of it, as `versionTarget_eq_some_iff` says. -/
def Embeds (catalog : Catalog) (q target : QualifiedName) : Prop :=
  ∃ field ∈ catalog.fieldsOf q, catalog.versionTarget? q field = some target

/-- Version references lead from `q` to `target` in any number of steps. -/
def Reaches (catalog : Catalog) : QualifiedName → QualifiedName → Prop :=
  Relation.ReflTransGen catalog.Embeds

/-- Those among fields of `q` that embed no other version of it. -/
def plainAmong (catalog : Catalog) (q : QualifiedName) (fields : List Field) : List Field :=
  fields.filter fun field => (catalog.versionTarget? q field).isNone

/-- The declared fields of a type that merging takes over. -/
def plainFields (catalog : Catalog) (q : QualifiedName) : List Field :=
  catalog.plainAmong q (catalog.fieldsOf q)

/-- Walking `fields` of `q`, which `path` reaches, after the types `seen` were entered, leads to
`seen'` and meets `steps`. A version reference, which `versionTarget_eq_some_iff` spells out, is
expanded in place, unless its target was entered before. -/
inductive Expands (catalog : Catalog) :
    List QualifiedName → QualifiedName → String → List Field →
      List QualifiedName → List Step → Prop where
  | done {seen q path} : Expands catalog seen q path [] seen []
  | plain {seen q path field rest seen' steps} :
      catalog.versionTarget? q field = none →
      Expands catalog seen q path rest seen' steps →
      Expands catalog seen q path (field :: rest) seen'
        (.field { field with access := field.name.map (path ++ ·) } :: steps)
  | back {seen q path field rest target seen' steps} :
      catalog.versionTarget? q field = some target →
      target ∈ seen →
      Expands catalog seen q path rest seen' steps →
      Expands catalog seen q path (field :: rest) seen'
        (.back (path ++ Text.orNone field.name) q target :: steps)
  | descend {seen q path field rest target seen' seen'' inner outer} :
      catalog.versionTarget? q field = some target →
      target ∉ seen →
      Expands catalog (seen ++ [target]) target (path ++ Text.orNone field.name ++ ".")
        (catalog.fieldsOf target) seen' inner →
      Expands catalog seen' q path rest seen'' outer →
      Expands catalog seen q path (field :: rest) seen'' (inner ++ outer)

namespace Expands

variable {catalog : Catalog} {seen seen' : List QualifiedName} {q : QualifiedName}
  {path : String} {fields : List Field} {steps : List Step}

theorem isPrefix (h : catalog.Expands seen q path fields seen' steps) : seen <+: seen' := by
  induction h with
  | done => exact List.prefix_rfl
  | plain _ _ ih => exact ih
  | back _ _ _ ih => exact ih
  | descend _ _ _ _ inner outer => exact ((List.prefix_append _ _).trans inner).trans outer

theorem mem_of_mem (h : catalog.Expands seen q path fields seen' steps) {t : QualifiedName}
    (ht : t ∈ seen) : t ∈ seen' :=
  h.isPrefix.subset ht

theorem nodup (h : catalog.Expands seen q path fields seen' steps) (hseen : seen.Nodup) :
    seen'.Nodup := by
  induction h with
  | done => exact hseen
  | plain _ _ ih => exact ih hseen
  | back _ _ _ ih => exact ih hseen
  | descend _ hnew _ _ inner outer =>
      refine outer (inner ?_)
      rw [List.nodup_append]
      refine ⟨hseen, List.nodup_singleton _, ?_⟩
      intro a ha b hb heq
      exact hnew (List.mem_singleton.mp hb ▸ heq ▸ ha)

/-- What is entered is reached from the type whose fields are walked. -/
theorem reaches (h : catalog.Expands seen q path fields seen' steps)
    (hfields : ∀ field ∈ fields, field ∈ catalog.fieldsOf q) {t : QualifiedName}
    (ht : t ∈ seen') : t ∈ seen ∨ catalog.Reaches q t := by
  induction h with
  | done => exact Or.inl ht
  | plain _ _ ih => exact ih (List.forall_mem_of_forall_mem_cons hfields) ht
  | back _ _ _ ih => exact ih (List.forall_mem_of_forall_mem_cons hfields) ht
  | @descend seen q path field rest target seen' seen'' inner outer htarget _ _ _ hinner houter =>
      have hstep : catalog.Embeds q target :=
        ⟨field, hfields field (List.mem_cons_self ..), htarget⟩
      rcases houter (List.forall_mem_of_forall_mem_cons hfields) ht with hmid | hreach
      · rcases hinner (fun _ h => h) hmid with hbefore | hreach
        · rcases List.mem_append.mp hbefore with hseen | heq
          · exact Or.inl hseen
          · rw [List.mem_singleton.mp heq]
            exact Or.inr (Relation.ReflTransGen.single hstep)
        · exact Or.inr (Relation.ReflTransGen.head hstep hreach)
      · exact Or.inr hreach

/-- Every version that the walked fields embed is entered. -/
theorem target_mem (h : catalog.Expands seen q path fields seen' steps) {field : Field}
    (hfield : field ∈ fields) {t : QualifiedName}
    (ht : catalog.versionTarget? q field = some t) : t ∈ seen' := by
  induction h with
  | done => cases hfield
  | plain hplain _ ih =>
      rcases List.mem_cons.mp hfield with rfl | hrest
      · rw [hplain] at ht
        cases ht
      · exact ih hrest ht
  | back htarget hseen hrest ih =>
      rcases List.mem_cons.mp hfield with rfl | hmem
      · rw [htarget] at ht
        cases ht
        exact hrest.mem_of_mem hseen
      · exact ih hmem ht
  | descend htarget _ hinner houter _ ih =>
      rcases List.mem_cons.mp hfield with rfl | hmem
      · rw [htarget] at ht
        cases ht
        exact houter.mem_of_mem (hinner.mem_of_mem (List.mem_append_right _ List.mem_cons_self))
      · exact ih hmem ht

/-- What is newly entered has all the versions that it embeds entered too. -/
theorem closed (h : catalog.Expands seen q path fields seen' steps) {t u : QualifiedName}
    (ht : t ∈ seen') (hnew : t ∉ seen) (htu : catalog.Embeds t u) : u ∈ seen' := by
  induction h with
  | done => exact absurd ht hnew
  | plain _ _ ih => exact ih ht hnew
  | back _ _ _ ih => exact ih ht hnew
  | @descend seen q path field rest target seen' seen'' inner outer _ _ hinner houter ihin ihout =>
      by_cases hmid : t ∈ seen'
      · refine houter.mem_of_mem ?_
        by_cases heq : t = target
        · subst heq
          obtain ⟨embedding, hmem, htarget⟩ := htu
          exact hinner.target_mem hmem htarget
        · refine ihin hmid ?_
          rw [List.mem_append, List.mem_singleton]
          exact fun hor => hor.elim hnew heq
      · exact ihout ht hmid

/-- The fields met are the plain ones among the walked fields and those of the types newly
entered, each as often as it is declared. -/
theorem fields_perm (h : catalog.Expands seen q path fields seen' steps) :
    ∃ new, seen' = seen ++ new ∧
      ((steps.filterMap Step.field?).map Field.withoutAccess).Perm
        ((catalog.plainAmong q fields ++ new.flatMap catalog.plainFields).map
          Field.withoutAccess) := by
  induction h with
  | done => exact ⟨[], by simp, by simp [plainAmong]⟩
  | plain hplain _ ih =>
      obtain ⟨new, hseen, hperm⟩ := ih
      refine ⟨new, hseen, ?_⟩
      simp only [List.filterMap_cons, Step.field?, plainAmong, List.filter_cons, hplain,
        Option.isNone_none, if_true, List.map_cons, List.cons_append]
      exact hperm.cons _
  | back htarget _ _ ih =>
      obtain ⟨new, hseen, hperm⟩ := ih
      refine ⟨new, hseen, ?_⟩
      simp only [List.filterMap_cons, Step.field?, plainAmong, List.filter_cons, htarget,
        Option.isNone_some]
      exact hperm
  | @descend seen q path field rest target seen' seen'' inner outer htarget _ _ _ ihin ihout =>
      obtain ⟨newin, hin, hpermin⟩ := ihin
      obtain ⟨newout, hout, hpermout⟩ := ihout
      refine ⟨target :: newin ++ newout, by simp [hout, hin], ?_⟩
      have hrest : catalog.plainAmong q (field :: rest) = catalog.plainAmong q rest := by
        simp [plainAmong, htarget]
      rw [hrest, List.filterMap_append, List.map_append]
      refine (hpermin.append hpermout).trans ?_
      rw [← List.map_append]
      refine List.Perm.map _ ?_
      rw [List.flatMap_append, List.flatMap_cons]
      -- Only the plain fields of `q` change places with those of the types entered below it.
      change (catalog.plainFields target ++ newin.flatMap catalog.plainFields ++
        (catalog.plainAmong q rest ++ newout.flatMap catalog.plainFields)).Perm _
      rw [← List.append_assoc, ← List.append_assoc]
      exact List.perm_append_comm.append_right _

end Expands

/-! ### The walk that runs

Its depth is bounded by the number of declarations. The bound is never met: one more type is
entered on every level, and what is entered is declared. -/

section Bounded

variable {catalog : Catalog} {q : QualifiedName}

theorem compound_of_mem_fieldsOf {field : Field} (h : field ∈ catalog.fieldsOf q) :
    (catalog.compound? q).isSome := by
  unfold fieldsOf at h
  cases hq : catalog.compound? q with
  | none =>
      rw [hq] at h
      cases h
  | some compound => rfl

theorem mem_names_of_compound (hq : (catalog.compound? q).isSome) :
    q ∈ catalog.decls.map Decl.name := by
  unfold compound? at hq
  cases hfind : catalog.find? q with
  | none => simp [hfind] at hq
  | some decl =>
      rw [List.mem_map]
      exact ⟨decl, List.mem_of_find?_eq_some hfind, by simpa using List.find?_some hfind⟩

/-- The declared names that are still to be entered. -/
def unentered (catalog : Catalog) (seen : List QualifiedName) : List QualifiedName :=
  (catalog.decls.map Decl.name).filter (· ∉ seen)

theorem length_unentered_le {seen seen' : List QualifiedName} (hsub : seen ⊆ seen') :
    (catalog.unentered seen').length ≤ (catalog.unentered seen).length := by
  refine (List.monotone_filter_right _ ?_).length_le
  intro name hname
  simp only [decide_eq_true_eq] at hname ⊢
  exact fun hmem => hname (hsub hmem)

/-- One more declared name is entered. -/
theorem length_unentered_lt {seen seen' : List QualifiedName} (hsub : seen ⊆ seen')
    (hq : q ∈ catalog.decls.map Decl.name) (hnew : q ∉ seen) (hentered : q ∈ seen') :
    (catalog.unentered seen').length < (catalog.unentered seen).length := by
  have hsplit : catalog.unentered seen' = (catalog.unentered seen).filter (· ∉ seen') := by
    unfold unentered
    rw [List.filter_filter]
    refine List.filter_congr fun name _ => ?_
    simp only [← Bool.decide_and, decide_eq_decide]
    exact ⟨fun hname => ⟨hname, fun hmem => hname (hsub hmem)⟩, And.left⟩
  rw [hsplit]
  refine List.length_filter_lt_length_iff_exists.mpr ⟨q, ?_, by simpa using hentered⟩
  exact List.mem_filter.mpr ⟨hq, by simpa using hnew⟩

theorem length_unentered_append_lt {seen : List QualifiedName}
    (hq : (catalog.compound? q).isSome) (hnew : q ∉ seen) :
    (catalog.unentered (seen ++ [q])).length < (catalog.unentered seen).length :=
  length_unentered_lt (List.subset_append_left _ _) (mem_names_of_compound hq) hnew
    (List.mem_append_right _ (List.mem_singleton_self q))

/-- `after` is what walking `fields` of `q` makes of `before`. -/
def Follows (catalog : Catalog) (q : QualifiedName) (path : String) (fields : List Field)
    (before after : Walk) : Prop :=
  ∃ steps, catalog.Expands before.entered q path fields after.entered steps ∧
    after.steps = before.steps ++ steps

theorem walkFields_follows {depth : Nat} {descend : QualifiedName → String → Walk → Walk}
    (hdescend : ∀ target path walk, (catalog.compound? target).isSome → target ∉ walk.entered →
      (catalog.unentered walk.entered).length ≤ depth →
      catalog.Follows target path (catalog.fieldsOf target) (walk.enter target)
        (descend target path walk))
    (path : String) (fields : List Field) (walk : Walk)
    (hdepth : (catalog.unentered walk.entered).length ≤ depth) :
    catalog.Follows q path fields walk (catalog.walkFields descend q path fields walk) := by
  induction fields generalizing walk with
  | nil => exact ⟨[], .done, by simp [walkFields]⟩
  | cons field rest ih =>
      rw [walkFields]
      cases htarget : catalog.versionTarget? q field with
      | none =>
          obtain ⟨steps, hsteps, hmet⟩ :=
            ih (walk.meet (.field { field with access := field.name.map (path ++ ·) })) hdepth
          exact ⟨_, .plain htarget hsteps, by simp [hmet]⟩
      | some target =>
          by_cases hseen : target ∈ walk.entered
          · obtain ⟨steps, hsteps, hmet⟩ :=
              ih (walk.meet (.back (path ++ Text.orNone field.name) q target)) hdepth
            simp only [hseen, if_true]
            exact ⟨_, .back htarget hseen hsteps, by simp [hmet]⟩
          · obtain ⟨inner, hinner, hmetin⟩ :=
              hdescend target (path ++ Text.orNone field.name ++ ".") walk
                (versionTarget_eq_some_iff.mp htarget).compound hseen hdepth
            have hsub : walk.entered ⊆
                (descend target (path ++ Text.orNone field.name ++ ".") walk).entered :=
              fun _ hmem => hinner.mem_of_mem (List.mem_append_left _ hmem)
            obtain ⟨outer, houter, hmetout⟩ :=
              ih (descend target (path ++ Text.orNone field.name ++ ".") walk)
                (Nat.le_trans (length_unentered_le hsub) hdepth)
            simp only [hseen, if_false]
            refine ⟨_, .descend htarget hseen hinner houter, ?_⟩
            rw [hmetout, hmetin]
            simp

theorem walkAt_follows (depth : Nat) (path : String) (walk : Walk)
    (hq : (catalog.compound? q).isSome) (hnew : q ∉ walk.entered)
    (hdepth : (catalog.unentered walk.entered).length ≤ depth) :
    catalog.Follows q path (catalog.fieldsOf q) (walk.enter q)
      (catalog.walkAt depth q path walk) := by
  induction depth generalizing q path walk with
  | zero =>
      have hlt := length_unentered_append_lt hq hnew
      omega
  | succ depth ih =>
      rw [walkAt]
      refine walkFields_follows (fun target path walk => ih path walk) path _ (walk.enter q) ?_
      have hlt := length_unentered_append_lt hq hnew
      change (catalog.unentered (walk.entered ++ [q])).length ≤ depth
      omega

/-- The walk that runs is the one that the rules describe. -/
theorem walk_expands (hq : (catalog.compound? q).isSome) :
    catalog.Expands [q] q "" (catalog.fieldsOf q) (catalog.walk q).entered
      (catalog.walk q).steps := by
  have hdepth : (catalog.unentered ({} : Walk).entered).length ≤ catalog.decls.length := by
    simp [unentered]
  obtain ⟨steps, hsteps, hmet⟩ :=
    walkAt_follows catalog.decls.length "" {} hq (by simp) hdepth
  have hmet' : (catalog.walk q).steps = steps := by simpa [walk] using hmet
  rw [hmet']
  exact hsteps

theorem nodup_entered_walk (hq : (catalog.compound? q).isSome) :
    (catalog.walk q).entered.Nodup :=
  (walk_expands hq).nodup (List.nodup_singleton q)

/-- The walk enters what version references lead to, and nothing else. -/
theorem mem_entered_walk_iff (hq : (catalog.compound? q).isSome) (t : QualifiedName) :
    t ∈ (catalog.walk q).entered ↔ catalog.Reaches q t := by
  have hwalk := walk_expands hq
  constructor
  · intro ht
    rcases hwalk.reaches (fun _ h => h) ht with hstart | hreach
    · rw [List.mem_singleton.mp hstart]
      exact Relation.ReflTransGen.refl
    · exact hreach
  · intro hreach
    induction hreach with
    | refl => exact hwalk.mem_of_mem (List.mem_singleton_self q)
    | @tail t u _ htu ht =>
        by_cases heq : t = q
        · subst heq
          obtain ⟨field, hfield, htarget⟩ := htu
          exact hwalk.target_mem hfield htarget
        · exact hwalk.closed ht (fun hmem => heq (List.mem_singleton.mp hmem)) htu

/-- Every declared field that embeds no version is met once for each type entered. -/
theorem fields_walk_perm (hq : (catalog.compound? q).isSome) :
    ((catalog.walk q).fields.map Field.withoutAccess).Perm
      (((catalog.walk q).entered.flatMap catalog.plainFields).map Field.withoutAccess) := by
  obtain ⟨new, hentered, hperm⟩ := (walk_expands hq).fields_perm
  rw [hentered]
  exact hperm

end Bounded

end Catalog

end HalBridge
