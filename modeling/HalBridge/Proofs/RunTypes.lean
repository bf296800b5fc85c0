import HalBridge.Proofs.ConverterCalls

/-!
# The types of a run

A run collects from the releases of the package it was asked for. What is nested in a type is named
inside it and a version reference stays in the lineage of its type, so all types of a run are types
of that package, and no two of them are versions of one type under one major version.
-/

namespace HalBridge

namespace Catalog

variable {catalog : Catalog} {roots : List QualifiedName} {q r : QualifiedName}

theorem Reaches.package (h : catalog.Reaches q r) : r.package = q.package := by
  induction h with
  | refl => rfl
  | tail _ hembeds ih =>
      obtain ⟨field, -, htarget⟩ := hembeds
      exact (versionTarget_eq_some_iff.mp htarget).package.trans ih

/-- What is nested in a type of a package belongs to the package. -/
def NestsInPackage (catalog : Catalog) : Prop :=
  ∀ q, ∀ r ∈ catalog.subTypesOf q, r.package = q.package

theorem InScope.package {package : String} (hnests : catalog.NestsInPackage)
    (hroots : ∀ root ∈ roots, root.package = package) (h : catalog.InScope roots q) :
    q.package = package := by
  induction h with
  | root hroot => exact hroots _ hroot
  | nested _ hnested ih => exact (hnests _ _ hnested).trans ih
  | @merged outer q schema notes _ hmerge hmerged ih =>
      have hmerges := mergesTo_of_merge hmerge
      obtain ⟨fields, hcompound⟩ := hmerges.compound
      obtain ⟨t, ht, hq⟩ := List.mem_flatMap.mp ((hmerges.nested.mem_iff q).mp hmerged)
      have hreach := (mem_entered_walk_iff (by rw [hcompound]; rfl) t).mp ht
      calc
        q.package = t.package := hnests t q hq
        _ = outer.package := hreach.package
        _ = package := ih

end Catalog

namespace Resolver

open Document

variable {s t : Resolver} {releases types : List QualifiedName} {key q : QualifiedName}

theorem Accounted.nestsInPackage (h : Accounted s) : s.catalog.NestsInPackage := by
  intro q r hr
  unfold Catalog.subTypesOf at hr
  cases hfind : s.catalog.find? q with
  | none =>
      rw [hfind] at hr
      exact absurd hr List.not_mem_nil
  | some decl =>
      rw [hfind, Option.map_some, Option.getD_some] at hr
      obtain ⟨-, definition, hentry⟩ := h.exists_definition (Catalog.mem_of_find hfind)
      obtain ⟨release, inner, -, -, hsame⟩ := mem_declared_iff.mp hentry
      have hlisted : decl.subTypes = memberNames (nameOf decl.name.release inner definition)
          (definition.subTypes.getD []) := congrArg Decl.subTypes hsame
      have hname : decl.name = nameOf decl.name.release inner definition :=
        congrArg Decl.name hsame
      rw [hlisted, ← hname] at hr
      obtain ⟨member, -, rfl⟩ := mem_memberNames_iff.mp hr
      have hdecl : decl.name = q := by simpa using List.find?_some hfind
      rw [← hdecl]
      rfl

theorem Accounted.package_of_root {names : List QualifiedName} (h : Accounted s)
    (hroot : (key, names) ∈ s.roots) : ∀ q ∈ names, q.package = key.package := by
  obtain ⟨-, release, definitions, -, -, hnames, -⟩ := h.documented _ hroot
  obtain rfl : names = memberNames key definitions := hnames
  intro q hq
  obtain ⟨definition, -, rfl⟩ := mem_memberNames_iff.mp hq
  rfl

theorem Collected.package {package : String} (h : Collected releases t q)
    (hreleases : ∀ release ∈ releases, release.package = package) : q.package = package := by
  obtain ⟨release, hrelease, u, roots, hu, -, hroot, hscope⟩ := h
  refine hscope.package hu.consistent.toAccounted.nestsInPackage ?_
  intro root hmem
  rw [hu.consistent.toAccounted.package_of_root hroot root hmem]
  exact hreleases release hrelease

theorem collectTypes_collected (hs : s.Idle) (h : collectTypes releases s = .ok types t) :
    (types.map QualifiedName.lineage).Nodup ∧ ∀ q ∈ types, Collected releases t q := by
  obtain ⟨collection, middle, hcollect, h⟩ := Outcome.bind_ok_iff.mp h
  rw [Outcome.get_bind] at h
  obtain ⟨rfl, rfl⟩ := Outcome.pure_ok_iff.mp h
  obtain ⟨-, -, visits, rfl, hvisits⟩ := collectReleases_ok hs hcollect
  have hkept := (Collection.keptNewest_visits visits).2
  refine ⟨?_, fun q hq => ?_⟩
  · exact hkept.keys.nodup.sublist (List.filter_sublist.map _)
  · exact hvisits q (hkept.newest q (List.mem_of_mem_filter hq)).mem

end Resolver

namespace Conversion

variable {repository : Repository} {request : String} {force : Bool} {registry : Registry}
  {conversion : Conversion} {t : Resolver}

theorem read_of_checkRequest {q : QualifiedName}
    (h : repository.checkRequest request force = .ok q) : QualifiedName.read request = .ok q := by
  cases hread : QualifiedName.read request with
  | error fault =>
      unfold Repository.checkRequest at h
      rw [hread] at h
      cases h
  | ok r =>
      by_cases hr : r.namesType
      · simp [Repository.checkRequest, hread, hr, bind, Except.bind, throw, throwThe,
          MonadExceptOf.throw] at h
      · rw [Bool.not_eq_true] at hr
        cases hholds : repository.holds r with
        | error fault =>
            rw [checkRequest_of_checkPath hread hr (Repository.holds_eq_error_iff.mp hholds)] at h
            cases h
        | ok present =>
            cases present with
            | false =>
                simp [Repository.checkRequest, hread, hr, hholds, bind, Except.bind, throw,
                  throwThe, MonadExceptOf.throw] at h
            | true =>
                rw [checkRequest_of_present hread hr hholds] at h
                split at h
                · exact h
                · obtain ⟨-, -, h⟩ := Outcome.except_bind_ok_iff.mp h
                  split at h
                  · exact h
                  · cases h

/-- The parts of a run that gives a result, one after the other. -/
theorem run_phases (h : run request force registry { repository } = .ok conversion t) :
    repository.checkRequest request force = .ok conversion.name ∧
      ∃ notes read,
        commentNotes (repository.window conversion.name) {} { repository } = .ok notes read ∧
        Resolver.collectTypes (repository.window conversion.name) read =
          .ok conversion.types t ∧
        ∃ made, t.catalog.generate registry conversion.name conversion.types notes =
          .ok (conversion.schemas, made) conversion.notes := by
  obtain ⟨q, hchecked⟩ := checkRequest_of_run h
  rw [run_of_accepted hchecked] at h
  obtain ⟨notes, read, hnotes, h⟩ := Outcome.bind_ok_iff.mp h
  obtain ⟨types, found, htypes, h⟩ := Outcome.bind_ok_iff.mp h
  rw [Outcome.get_bind] at h
  cases hgenerate : (found.catalog.generate registry q types).run notes with
  | error fault _ =>
      rw [hgenerate] at h
      exact absurd h Outcome.throw_ne_ok
  | ok made left =>
      rw [hgenerate] at h
      obtain ⟨rfl, rfl⟩ := Outcome.pure_ok_iff.mp h
      exact ⟨hchecked, notes, read, hnotes, htypes, made.2, hgenerate⟩

/-- The types of a run are types of the requested package, of different lineages. -/
theorem run_types (hfaithful : repository.Faithful)
    (h : run request force registry { repository } = .ok conversion t) :
    (conversion.types.map QualifiedName.lineage).Nodup ∧
      ∀ q ∈ conversion.types, q.package = conversion.name.package := by
  obtain ⟨-, notes, read, hnotes, htypes, -⟩ := run_phases h
  obtain ⟨after, rfl, -, hafter⟩ := commentNotes_ok hfaithful hnotes
  obtain ⟨hlineages, hcollected⟩ :=
    Resolver.collectTypes_collected (Resolver.idle_fresh hafter) htypes
  refine ⟨hlineages, fun q hq => (hcollected q hq).package ?_⟩
  exact fun release hrelease => Repository.package_of_mem_block hrelease

end Conversion

end HalBridge
