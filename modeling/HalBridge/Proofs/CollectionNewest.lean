import HalBridge.Proofs.CollectionWalk
import HalBridge.Proofs.ResolverWellFormed
import HalBridge.Proofs.SampleDocuments

/-!
# The types of a run

Of all types that the walk visits, the newest of each lineage is kept in the place where its
lineage came up first. Releases are loaded between the parts of the walk; what is loaded later
changes nothing that was walked before, so the parts make up one walk in the final catalogue.
-/

namespace HalBridge

namespace Collection

variable {q : QualifiedName} {newest : List (Lineage × QualifiedName)}

/-- Each type is kept under its own lineage. -/
def Keyed (newest : List (Lineage × QualifiedName)) : Prop :=
  ∀ entry ∈ newest, entry.1 = entry.2.lineage

theorem Keyed.map_eq (h : Keyed newest) :
    newest.map Prod.fst = (newest.map Prod.snd).map QualifiedName.lineage := by
  rw [List.map_map]
  exact List.map_congr_left h

/-- A type is added at the end, or it meets the entry of its lineage, which it replaces unless it is
older. -/
theorem choose_cases (q : QualifiedName) (newest : List (Lineage × QualifiedName)) :
    (q.lineage ∉ newest.map Prod.fst ∧ choose q newest = newest ++ [(q.lineage, q)]) ∨
    ∃ front current back, newest = front ++ (q.lineage, current) :: back ∧
      ((current.version ≤ q.version ∧ choose q newest = front ++ (q.lineage, q) :: back) ∨
        (¬current.version ≤ q.version ∧ choose q newest = newest)) := by
  induction newest with
  | nil => exact Or.inl ⟨by simp, rfl⟩
  | cons entry rest ih =>
      obtain ⟨lineage, current⟩ := entry
      by_cases hsame : lineage = q.lineage
      · subst hsame
        refine Or.inr ⟨[], current, rest, rfl, ?_⟩
        by_cases hle : current.version ≤ q.version
        · exact Or.inl ⟨hle, by simp [choose, hle]⟩
        · exact Or.inr ⟨hle, by simp [choose, hle]⟩
      · rcases ih with ⟨hnew, heq⟩ | ⟨front, found, back, rfl, hcase⟩
        · refine Or.inl ⟨?_, by simp [choose, hsame, heq]⟩
          rw [List.map_cons, List.mem_cons, not_or]
          exact ⟨fun h => hsame h.symm, hnew⟩
        · refine Or.inr ⟨(lineage, current) :: front, found, back, rfl, ?_⟩
          rcases hcase with ⟨hle, heq⟩ | ⟨hle, heq⟩
          · exact Or.inl ⟨hle, by simp [choose, hsame, heq]⟩
          · exact Or.inr ⟨hle, by simp [choose, hsame, heq]⟩

theorem choose_keeps (h : Keyed newest) (q : QualifiedName) :
    Keyed (choose q newest) ∧
      Keeps QualifiedName.lineage QualifiedName.version q (newest.map Prod.snd)
        ((choose q newest).map Prod.snd) := by
  rcases choose_cases q newest with ⟨hnew, heq⟩ | ⟨front, current, back, rfl, hcase⟩
  · rw [heq]
    refine ⟨?_, ?_⟩
    · intro entry hentry
      rcases List.mem_append.mp hentry with hold | hadded
      · exact h entry hold
      · rw [List.mem_singleton.mp hadded]
    · rw [h.map_eq] at hnew
      rw [List.map_append]
      exact .added hnew
  · have hcurrent : q.lineage = current.lineage :=
      h _ (List.mem_append_right _ List.mem_cons_self)
    rcases hcase with ⟨hle, heq⟩ | ⟨hle, heq⟩
    · rw [heq]
      refine ⟨?_, ?_⟩
      · intro entry hentry
        rcases List.mem_cons.mp (List.perm_middle.mem_iff.mp hentry) with rfl | hother
        · rfl
        · exact h entry (List.perm_middle.mem_iff.mpr (List.mem_cons_of_mem _ hother))
      · rw [List.map_append, List.map_append, List.map_cons, List.map_cons]
        exact .replaced rfl hcurrent hle
    · rw [heq]
      refine ⟨h, .refused ?_ hcurrent hle⟩
      exact List.mem_map_of_mem (List.mem_append_right front List.mem_cons_self)

/-- After any visits the newest type of each lineage is kept. -/
theorem keptNewest_visits (visits : List QualifiedName) :
    Keyed (visits.foldl visit {}).newest ∧
      KeptNewest QualifiedName.lineage QualifiedName.version visits
        ((visits.foldl visit {}).newest.map Prod.snd) := by
  induction visits using List.reverseRecOn with
  | nil => exact ⟨fun _ h => absurd h List.not_mem_nil, .nil⟩
  | append_singleton visits q ih =>
      rw [List.foldl_append, List.foldl_cons, List.foldl_nil]
      obtain ⟨hkeyed, hkept⟩ := ih
      obtain ⟨hkeyed', hkeeps⟩ := choose_keeps hkeyed q
      exact ⟨hkeyed', hkept.offer hkeeps⟩

end Collection

theorem QualifiedName.eq_of_lineage {q r : QualifiedName} (hq : q.namesType) (hr : r.namesType)
    (hlineage : q.lineage = r.lineage) (hversion : q.version = r.version) : q = r := by
  obtain ⟨package, version, name, scope⟩ := q
  obtain ⟨package', version', name', scope'⟩ := r
  cases name with
  | none => cases hq
  | some name =>
      cases name' with
      | none => cases hr
      | some name' =>
          simp only [namesType, Bool.not_eq_true'] at hq hr
          simp only [lineage, names, hq, hr, Lineage.mk.injEq] at hlineage
          obtain ⟨rfl, -, hnames⟩ := hlineage
          obtain ⟨rfl, hname⟩ := List.append_inj' hnames rfl
          obtain rfl := List.singleton_inj.mp hname
          obtain rfl : version = version' := hversion
          rfl

namespace Catalog

def isInterface (catalog : Catalog) (q : QualifiedName) : Bool :=
  (catalog.find? q).any Decl.isInterface

/-- `q` is in scope, and nothing in scope is a newer version of it. -/
structure NewestInScope (catalog : Catalog) (roots : List QualifiedName) (q : QualifiedName) :
    Prop where
  inScope : catalog.InScope roots q
  newest : ∀ r, catalog.InScope roots r → r.lineage = q.lineage → r.version ≤ q.version

/-- `types` is what collecting from `roots` has to give, and `visits` is the walk that it follows:
the newest type of each lineage in scope without the interfaces, in the order in which the lineages
come up. Of two types with one lineage and one version, which have no names to tell them apart, it
is the one visited last. -/
structure Collects (catalog : Catalog) (roots visits types : List QualifiedName) : Prop where
  walk : catalog.Visits [] roots visits
  visited : ∀ q, q ∈ visits ↔ catalog.InScope roots q
  once : visits.Nodup
  last : ∀ q, q ∈ types ↔
    LastNewest QualifiedName.lineage QualifiedName.version visits q ∧ ¬catalog.isInterface q
  newest : (∀ q, catalog.InScope roots q → q.namesType) →
    ∀ q, q ∈ types ↔ catalog.NewestInScope roots q ∧ ¬catalog.isInterface q
  ordered : types.Pairwise fun q r =>
    (visits.map QualifiedName.lineage).idxOf q.lineage <
      (visits.map QualifiedName.lineage).idxOf r.lineage

variable {catalog : Catalog} {roots visits : List QualifiedName} {q : QualifiedName}

theorem lastNewest_iff (hvisited : ∀ q, q ∈ visits ↔ catalog.InScope roots q)
    (hnamed : ∀ q, catalog.InScope roots q → q.namesType) {kept : List QualifiedName}
    (hkept : KeptNewest QualifiedName.lineage QualifiedName.version visits kept) :
    LastNewest QualifiedName.lineage QualifiedName.version visits q ↔
      catalog.NewestInScope roots q := by
  constructor
  · intro hq
    refine ⟨(hvisited q).mp hq.mem, fun r hr hsame => ?_⟩
    exact hq.version_le ((hvisited r).mpr hr) hsame
  · intro hq
    -- The kept type of the lineage has the same version, hence it is `q`.
    have hlineage := (hkept.keys.mem_iff q.lineage).mpr
      (List.mem_map_of_mem ((hvisited q).mpr hq.inScope))
    obtain ⟨r, hr, hsame⟩ := List.mem_map.mp hlineage
    have hlast := hkept.newest r hr
    have hscope := (hvisited r).mp hlast.mem
    have hversion : r.version = q.version := Version.le_antisymm (hq.newest r hscope hsame)
      (hlast.version_le ((hvisited q).mpr hq.inScope) hsame.symm)
    rwa [← QualifiedName.eq_of_lineage (hnamed r hscope) (hnamed q hq.inScope) hsame hversion]

theorem mem_chosenTypes_iff {collection : Collection} :
    q ∈ catalog.chosenTypes collection ↔
      q ∈ collection.newest.map Prod.snd ∧ ¬catalog.isInterface q := by
  simp [chosenTypes, isInterface, List.mem_filter]

theorem collects_chosenTypes (h : catalog.Visits [] roots visits) :
    catalog.Collects roots visits
      (catalog.chosenTypes (visits.foldl Collection.visit {})) := by
  obtain ⟨hkeyed, hkept⟩ := Collection.keptNewest_visits visits
  have hlast : ∀ q, q ∈ catalog.chosenTypes (visits.foldl Collection.visit {}) ↔
      LastNewest QualifiedName.lineage QualifiedName.version visits q ∧ ¬catalog.isInterface q := by
    intro q
    rw [mem_chosenTypes_iff, hkept.mem_iff]
  refine ⟨h, fun q => h.mem_iff, h.nodup, hlast, ?_, ?_⟩
  · intro hnamed q
    rw [hlast, lastNewest_iff (fun q => h.mem_iff) hnamed hkept]
  · have hordered := hkept.keys.ordered
    rw [List.pairwise_map] at hordered
    exact hordered.filter _

end Catalog

/-! ### Loading between the parts of the walk -/

namespace Resolver

open Document

variable {s t : Resolver} {key q : QualifiedName}

/-- What occurs in the document of a loaded release is declared. -/
theorem Accounted.mem_names_of_occurs {release : Release} {inner : List QualifiedName}
    {definition : TypeDef} (h : Accounted s) (hkey : key.release = key) (hloaded : s.isLoaded key)
    (hread : s.repository.read.lookup key = some release)
    (hoccurs : Occurs key [] (release.types.getD []) inner definition) :
    nameOf key inner definition ∈ s.catalog.names := by
  have hentry : (declOf key inner definition, definition) ∈ s.repository.declared key :=
    mem_declared_iff.mpr ⟨release, inner, hread, hoccurs, rfl⟩
  have hrelease : (nameOf key inner definition).release = key := hoccurs.release hkey
  rw [h.mem_names_iff, hrelease]
  exact ⟨hloaded, List.mem_map.mpr ⟨_, hentry, rfl⟩⟩

theorem Accounted.listsDeclared (h : Accounted s) : s.catalog.ListsDeclared := by
  intro q r hr
  unfold Catalog.subTypesOf at hr
  cases hfind : s.catalog.find? q with
  | none =>
      rw [hfind] at hr
      exact absurd hr List.not_mem_nil
  | some decl =>
      rw [hfind, Option.map_some, Option.getD_some] at hr
      obtain ⟨hloaded, definition, hentry⟩ := h.exists_definition (Catalog.mem_of_find hfind)
      obtain ⟨release, inner, hread, hoccurs, hsame⟩ := mem_declared_iff.mp hentry
      have hlisted : decl.subTypes = memberNames (nameOf decl.name.release inner definition)
          (definition.subTypes.getD []) := congrArg Decl.subTypes hsame
      rw [hlisted] at hr
      obtain ⟨member, hmember, rfl⟩ := mem_memberNames_iff.mp hr
      cases hmembers : definition.subTypes with
      | none =>
          rw [hmembers] at hmember
          exact absurd hmember List.not_mem_nil
      | some members =>
          rw [hmembers] at hmember
          exact h.mem_names_of_occurs rfl hloaded hread (.nested hoccurs hmembers hmember)

theorem Accounted.roots_declared {names : List QualifiedName} (h : Accounted s)
    (hroot : (key, names) ∈ s.roots) : ∀ q ∈ names, q ∈ s.catalog.names := by
  obtain ⟨hkey, release, definitions, hread, htypes, hnames, -⟩ := h.documented _ hroot
  obtain rfl : names = memberNames key definitions := hnames
  intro q hq
  obtain ⟨definition, hdefinition, rfl⟩ := mem_memberNames_iff.mp hq
  refine h.mem_names_of_occurs hkey (isLoaded_of_mem hroot) hread (.top ?_)
  rw [htypes]
  exact hdefinition

theorem Continues.partOf (h : Continues s t) (hs : s.Idle) : s.catalog.PartOf t.catalog where
  find := fun _ hq => Catalog.find_of_isPrefix h.decls (Catalog.contains_iff.mpr hq)
  closed := hs.consistent.covers

theorem loadReleases_ok {releases : List QualifiedName} {roots : List (List QualifiedName)}
    (hs : s.Idle) (h : releases.mapM loadRelease s = .ok roots t) : t.Idle ∧ Continues s t := by
  induction releases generalizing s roots with
  | nil =>
      rw [List.mapM_nil] at h
      obtain ⟨-, rfl⟩ := Outcome.pure_ok_iff.mp h
      exact ⟨hs, .refl s⟩
  | cons release rest ih =>
      rw [List.mapM_cons] at h
      obtain ⟨names, middle, hload, h⟩ := Outcome.bind_ok_iff.mp h
      obtain ⟨others, final, hothers, h⟩ := Outcome.bind_ok_iff.mp h
      obtain ⟨-, rfl⟩ := Outcome.pure_ok_iff.mp h
      obtain ⟨hmiddle, hfirst, -⟩ := loadRelease_ok hs hload
      obtain ⟨ht, hrest⟩ := ih hmiddle hothers
      exact ⟨ht, hfirst.trans hrest⟩

/-- Collecting while releases are loaded is collecting after all of them are. -/
theorem collectReleases_collects {releases : List QualifiedName}
    {roots : List (List QualifiedName)} (hs : s.Idle)
    (h : releases.mapM loadRelease s = .ok roots t)
    (hnested : ∀ q, t.catalog.InScope roots.flatten q →
      ∃ nested, t.catalog.nestedTypes q = .ok nested)
    (collection : Collection) :
    ∃ visits, t.catalog.Visits collection.seen roots.flatten visits ∧
      collectReleases releases collection s =
        .ok (visits.foldl Collection.visit collection) t := by
  induction releases generalizing s roots collection with
  | nil =>
      rw [List.mapM_nil] at h
      obtain ⟨rfl, rfl⟩ := Outcome.pure_ok_iff.mp h
      exact ⟨[], .done, rfl⟩
  | cons release rest ih =>
      rw [List.mapM_cons] at h
      obtain ⟨names, middle, hload, h⟩ := Outcome.bind_ok_iff.mp h
      obtain ⟨others, final, hothers, h⟩ := Outcome.bind_ok_iff.mp h
      obtain ⟨rfl, rfl⟩ := Outcome.pure_ok_iff.mp h
      rw [List.flatten_cons] at hnested ⊢
      have hfront : ∀ q ∈ names, final.catalog.InScope (names ++ others.flatten) q :=
        fun q hq => .root (List.mem_append_left _ hq)
      have hback : ∀ q ∈ others.flatten, final.catalog.InScope (names ++ others.flatten) q :=
        fun q hq => .root (List.mem_append_right _ hq)
      obtain ⟨hmiddle, -, hroot⟩ := loadRelease_ok hs hload
      obtain ⟨-, hrest⟩ := loadReleases_ok hmiddle hothers
      have hnames := hmiddle.consistent.toAccounted.roots_declared hroot
      have hlists := hmiddle.consistent.toAccounted.listsDeclared
      -- What is collected from the loaded part is collected so from the final catalogue.
      have hcollects := (Catalog.collectsFrom_collectFrom hlists hnames collection).of_partOf
        (hrest.partOf hmiddle) hlists hnames
      generalize hresult : middle.catalog.collectFrom names collection = result at hcollects
      cases hcollects with
      | failed hq hfault =>
          obtain ⟨nested, hok⟩ := hnested _ (hq.trans hfront)
          rw [hfault] at hok
          cases hok
      | @walked visits hvisits =>
          obtain ⟨later, hlater, hrun⟩ := ih hmiddle hothers
            (fun q hq => hnested q (hq.trans hback)) (visits.foldl Collection.visit collection)
          rw [Catalog.seen_foldl_visit] at hlater
          refine ⟨visits ++ later, hvisits.append hlater, ?_⟩
          rw [List.foldl_append]
          refine Outcome.bind_ok_iff.mpr ⟨names, middle, hload, ?_⟩
          rw [Outcome.get_bind, hresult]
          exact hrun

/-- **Collected types.** Whatever was loaded before, if all releases load and the fields that are
merged have names, then collecting gives the newest type of each lineage in scope that is no
interface. -/
theorem collectTypes_newest (repository : Repository) (hread : repository.Faithful)
    (calls : List Call) (s : Resolver) (hs : performAll calls { repository } = .ok () s)
    (releases : List QualifiedName) (roots : List (List QualifiedName)) (t : Resolver)
    (hload : releases.mapM loadRelease s = .ok roots t)
    (hnamed : ∀ q r, t.catalog.InScope roots.flatten q → t.catalog.Reaches q r →
      ∀ field ∈ t.catalog.plainFields r, field.name ≠ none) :
    ∃ types visits, collectTypes releases s = .ok types t ∧
      t.catalog.Collects roots.flatten visits types := by
  have hidle := (performAll_ok (idle_fresh hread) hs).1
  have hnested : ∀ q, t.catalog.InScope roots.flatten q →
      ∃ nested, t.catalog.nestedTypes q = .ok nested := by
    intro q hq
    refine Catalog.exists_nestedTypes fun r hr => hnamed q r hq hr
  obtain ⟨visits, hvisits, hrun⟩ := collectReleases_collects hidle hload hnested {}
  refine ⟨_, visits, ?_, Catalog.collects_chosenTypes hvisits⟩
  exact Outcome.bind_ok_iff.mpr ⟨_, t, hrun, rfl⟩

/-- Two versions of a structure, and an interface; the older version has a nested structure. -/
def nestedVersions : Repository :=
  Sample.repository [
    Sample.release "p" "1.0"
      [Sample.struct "S" [] [Sample.struct "N" [("a", Sample.plain "string")]],
        Sample.interface "I"],
    Sample.release "p" "1.1" [Sample.struct "S" [("v1_0", Sample.named "p@1.0::S")]]]
where
  releases : List QualifiedName := [⟨"p", ⟨1, 0⟩, some "", []⟩, ⟨"p", ⟨1, 1⟩, some "", []⟩]
  types : List QualifiedName := [⟨"p", ⟨1, 1⟩, some "S", []⟩, ⟨"p", ⟨1, 0⟩, some "N", ["S"]⟩]

/-- The newer structure takes the place of the older one, what is nested in the older one stays, and
the interface is left out. -/
theorem collectTypes_nestedVersions :
    ∃ roots t visits,
      nestedVersions.releases.mapM loadRelease { repository := nestedVersions } = .ok roots t ∧
      collectTypes nestedVersions.releases { repository := nestedVersions } =
        .ok nestedVersions.types t ∧
      t.catalog.Collects roots.flatten visits nestedVersions.types := by
  obtain ⟨hfields, htypes⟩ :
      (match nestedVersions.releases.mapM loadRelease { repository := nestedVersions } with
        | .ok _ t => t.catalog.names.all fun q => (t.catalog.fieldsOf q).all (·.name.isSome)
        | .error _ _ => false) = true ∧
      (match collectTypes nestedVersions.releases { repository := nestedVersions } with
        | .ok types _ => types
        | .error _ _ => []) = nestedVersions.types := by
    decide +kernel
  cases hload : nestedVersions.releases.mapM loadRelease { repository := nestedVersions } with
  | error fault t =>
      rw [hload] at hfields
      cases hfields
  | ok roots t =>
      simp only [hload, List.all_eq_true] at hfields
      obtain ⟨types, visits, hrun, hcollects⟩ := collectTypes_newest nestedVersions
        (Repository.faithful_of_read_eq_nil rfl) [] _ rfl _ roots t hload (by
          intro q r _ _ field hfield hnone
          have hmem := List.mem_of_mem_filter hfield
          have hr := Catalog.mem_names_of_compound (Catalog.compound_of_mem_fieldsOf hmem)
          have hsome := hfields r hr field hmem
          rw [hnone] at hsome
          cases hsome)
      simp only [hrun] at htypes
      subst htypes
      exact ⟨roots, t, visits, rfl, hrun, hcollects⟩

end Resolver

end HalBridge
