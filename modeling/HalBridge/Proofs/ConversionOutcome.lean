import HalBridge.Proofs.CollectionNewest
import HalBridge.Proofs.GenerationTotal
import HalBridge.Proofs.LoadingFaults
import HalBridge.Proofs.ReleaseWindow
import HalBridge.Proofs.SampleDocuments

/-!
# How a conversion run ends

A run over legible documents in which no typedef contains itself gives a result, or it ends with an
error of the input, or some release that it has to ask for has a name longer than the disk allows,
or the version of a name that it has to read has too many digits.
Every step of a run is taken apart by how it can fail: the check of the request by `RequestOutcome`,
loading by `Repository.Refuses`; what comes after loading cannot fail in a catalogue that is
`Generable`.
-/

namespace HalBridge

open Document

/-- Some declared type refers to a type of this release. -/
def Catalog.RefersTo (catalog : Catalog) (key : QualifiedName) : Prop :=
  ∃ decl ∈ catalog.decls, ∃ type ∈ decl.body.types, ∃ ref, type.ref? = some ref ∧
    ref.name.release = key

namespace Resolver

variable {base : Repository} {s t : Resolver} {fault : Fault}

theorem named_of_denotes {refer : String → Option Ref} {definitions : List (Option FieldDef)}
    {fields : List Field} (h : List.Forall₂ (DenotesField refer) definitions fields)
    (hcomplete : ∀ entry ∈ definitions, ∃ field : FieldDef, entry = some field ∧ field.isComplete) :
    ∀ field ∈ fields, field.name ≠ none := by
  induction h with
  | nil => exact fun _ hfield => absurd hfield List.not_mem_nil
  | cons hfield _ ih =>
      rw [List.forall_mem_cons] at hcomplete ⊢
      refine ⟨?_, ih hcomplete.2⟩
      obtain ⟨written, rfl, -⟩ := hfield
      obtain ⟨found, hfound, hnamed⟩ := hcomplete.1
      rw [← Option.some.inj hfound, FieldDef.isComplete, Bool.and_eq_true] at hnamed
      exact Option.isSome_iff_ne_none.mp hnamed.1

/-- The fields of a resolved compound have the names that its definition gives. -/
theorem Idle.generable (hs : s.Idle) (hbase : base.ReadsMore s.repository)
    (hlegible : base.Legible) (hfounded : base.Founded) : s.catalog.Generable := by
  refine ⟨hs.unfoldable hbase hfounded, ?_⟩
  intro q field hfield
  have hcompound := Catalog.compound_of_mem_fieldsOf hfield
  obtain ⟨decl, entry, hfind, hentry, -, hdescribes⟩ :=
    hs.finished q (Catalog.mem_names_of_compound hcompound)
  have hloaded := (hs.consistent.toAccounted.sited (Catalog.mem_of_find hfind)).loaded
  rw [Catalog.name_of_find hfind] at hloaded
  rw [hs.consistent.toAccounted.declared_eq hbase hloaded] at hentry
  have hparts := TypeDef.complete_of_isComplete (hlegible.isComplete hentry)
  obtain ⟨definitions, hdefinitions, hcomplete⟩ := hparts.fields
  rw [Catalog.fieldsOf, Catalog.compound?, hfind] at hfield
  cases hbody : decl.body with
  | compound style fields =>
      simp only [Describes, hbody] at hdescribes
      obtain ⟨listed, hlisted, hdenotes⟩ := hdescribes
      obtain rfl := Option.some.inj (hlisted.symm.trans hdefinitions)
      simp only [Option.map_some, hbody, Option.getD_some] at hfield
      exact named_of_denotes hdenotes hcomplete field hfield
  | enum | typedef | interface => simp [hbody] at hfield

/-- Whether the releases that resolved types refer to exist could be asked. -/
theorem Idle.checkPath {key : QualifiedName} (hs : s.Idle) (h : s.catalog.RefersTo key) :
    s.repository.checkPath key = .ok () := by
  obtain ⟨decl, hdecl, type, htype, ref, href, rfl⟩ := h
  have hsettled := (hs.consistent.resolved decl hdecl).refs type htype ref href
  exact hsettled.checkPath hs.consistent.toAccounted

/-! ### Collecting the types of a run -/

variable {releases : List QualifiedName} {collection found : Collection}

/-- `q` is in scope of what was declared when one of the releases had been loaded. -/
def Collected (releases : List QualifiedName) (t : Resolver) (q : QualifiedName) : Prop :=
  ∃ release ∈ releases, ∃ (u : Resolver) (roots : List QualifiedName),
    u.Idle ∧ Continues u t ∧ (release.release, roots) ∈ u.roots ∧ u.catalog.InScope roots q

theorem collectReleases_ok (hs : s.Idle)
    (h : collectReleases releases collection s = .ok found t) :
    t.Idle ∧ Continues s t ∧
      ∃ visits : List QualifiedName, found = visits.foldl Collection.visit collection ∧
        ∀ q ∈ visits, Collected releases t q := by
  induction releases generalizing s collection with
  | nil =>
      obtain ⟨rfl, rfl⟩ := Outcome.pure_ok_iff.mp h
      exact ⟨hs, .refl s, [], rfl, fun _ hq => absurd hq List.not_mem_nil⟩
  | cons release rest ih =>
      obtain ⟨roots, middle, hload, h⟩ := Outcome.bind_ok_iff.mp h
      obtain ⟨hmiddle, hfirst, hroot⟩ := loadRelease_ok hs hload
      have hcollects := Catalog.collectsFrom_collectFrom
        hmiddle.consistent.toAccounted.listsDeclared
        (hmiddle.consistent.toAccounted.roots_declared hroot) collection
      rw [Outcome.get_bind] at h
      cases hcollect : middle.catalog.collectFrom roots collection with
      | error fault =>
          rw [hcollect] at h
          exact absurd h Outcome.throw_ne_ok
      | ok after =>
          rw [hcollect] at h hcollects
          obtain ⟨ht, hrest, others, rfl, hothers⟩ := ih hmiddle h
          cases hcollects with
          | @walked visits hvisits =>
              refine ⟨ht, hfirst.trans hrest, visits ++ others, List.foldl_append.symm, ?_⟩
              rw [List.forall_mem_append]
              refine ⟨fun q hq => ?_, fun q hq => ?_⟩
              · exact ⟨release, List.mem_cons_self, middle, roots, hmiddle, hrest, hroot,
                  hvisits.inScope (fun _ hmem => .root hmem) q hq⟩
              · obtain ⟨other, hother, hscope⟩ := hothers q hq
                exact ⟨other, List.mem_cons_of_mem _ hother, hscope⟩

theorem collectReleases_error (hlegible : base.Legible) (hfounded : base.Founded) (hs : s.Idle)
    (hbase : base.ReadsMore s.repository)
    (hreleases : ∀ release ∈ releases, base.contains release.release)
    (h : collectReleases releases collection s = .error fault t) : base.Refuses fault := by
  induction releases generalizing s collection with
  | nil => exact absurd h Outcome.pure_ne_error
  | cons release rest ih =>
      rcases Outcome.bind_error_iff.mp h with hload | ⟨roots, middle, hload, h⟩
      · exact loadRelease_error hlegible hs hbase (hreleases release List.mem_cons_self) hload
      · obtain ⟨hmiddle, hfirst, -⟩ := loadRelease_ok hs hload
        have hmore := hbase.trans hfirst.repository
        rw [Outcome.get_bind] at h
        obtain ⟨after, hafter⟩ :=
          (hmiddle.generable hmore hlegible hfounded).collectFrom roots collection
        rw [hafter] at h
        refine ih hmiddle hmore ?_ h
        exact fun other hother => hreleases other (List.mem_cons_of_mem _ hother)

theorem collectTypes_ok {types : List QualifiedName} (hs : s.Idle)
    (h : collectTypes releases s = .ok types t) : t.Idle ∧ Continues s t ∧ types.Nodup := by
  obtain ⟨collection, middle, hcollect, h⟩ := Outcome.bind_ok_iff.mp h
  rw [Outcome.get_bind] at h
  obtain ⟨rfl, rfl⟩ := Outcome.pure_ok_iff.mp h
  obtain ⟨ht, hcontinues, visits, rfl, -⟩ := collectReleases_ok hs hcollect
  -- The lineages of the collected types are distinct.
  have hkeys := (Collection.keptNewest_visits visits).2.keys.nodup
  exact ⟨ht, hcontinues, hkeys.of_map.filter _⟩

theorem collectTypes_error (hlegible : base.Legible) (hfounded : base.Founded) (hs : s.Idle)
    (hbase : base.ReadsMore s.repository)
    (hreleases : ∀ release ∈ releases, base.contains release.release)
    (h : collectTypes releases s = .error fault t) : base.Refuses fault := by
  rcases Outcome.bind_error_iff.mp h with hcollect | ⟨collection, middle, -, h⟩
  · exact collectReleases_error hlegible hfounded hs hbase hreleases hcollect
  · rw [Outcome.get_bind] at h
    exact absurd h Outcome.pure_ne_error

end Resolver

theorem Disk.find_child_of_long {disk : Disk} {path : Path} {directory : Place} {name : String}
    (htext : checkText (path.child name) = .ok ())
    (hpath : path.parts.foldlM disk.enter (if path.isAbsolute then [] else disk.working) =
      .ok directory)
    (hlong : nameLimit < name.utf8ByteSize) :
    disk.find (path.child name) = .error .nameTooLong := by
  have hname : name ≠ ".." := by
    rintro rfl
    exact absurd hlong (by decide)
  have hparts : (path.child name).parts = path.parts ++ [name] := rfl
  have hstart : (path.child name).isAbsolute = path.isAbsolute := rfl
  unfold find place
  rw [htext, hparts, hstart, List.dropLast_concat, List.getLast?_concat]
  simp only [hpath, bind, Except.bind, if_neg hname, if_pos hlong]
  rfl

namespace Repository

variable {repository : Repository} {q key : QualifiedName} {fault : Fault}

theorem checkPath_error (h : repository.checkPath q = .error fault) :
    fault = .path .nameTooLong := by
  unfold checkPath at h
  split at h
  · exact (Except.error.inj h).symm
  · cases h

/-- A release cannot be asked for if the name of its file is longer than the disk allows. -/
theorem checkPath_of_long {directory : Place}
    (htext : Disk.checkText (repository.path q) = .ok ())
    (hdirectory : (repository.directory q).parts.foldlM repository.disk.enter
      (if (repository.directory q).isAbsolute then [] else repository.disk.working) =
      .ok directory)
    (hlong : Disk.nameLimit < (fileName q).utf8ByteSize) :
    repository.checkPath q = .error (.path .nameTooLong) := by
  unfold checkPath
  rw [path, Disk.find_child_of_long htext hdirectory hlong]

end Repository

namespace Conversion

/-- The releases whose presence the check of a request asks for: the one requested, and unless the
run is forced the one after the newest that is there. -/
inductive Requests (repository : Repository) (request : String) (force : Bool) :
    QualifiedName → Prop
  | given {q : QualifiedName} (h : QualifiedName.read request = .ok q) :
      Requests repository request force q
  | newer {q : QualifiedName} (h : QualifiedName.read request = .ok q) (hforce : force = false) :
      Requests repository request force (Repository.withMinor (repository.highest q)
        ((repository.highest q).version.minor + 1))

/-- Every way in which the check of a request can end. -/
inductive RequestOutcome (repository : Repository) (request : String) (force : Bool) :
    Except Fault QualifiedName → Prop
  | refused (error : InputError) : RequestOutcome repository request force (.error (.input error))
  | unread {length : Nat} (h : QualifiedName.OverlongText request length) :
      RequestOutcome repository request force (.error (.overlongVersion length))
  | unaskable {key : QualifiedName} {fault : Fault} (hkey : Requests repository request force key)
      (hpath : repository.checkPath key = .error fault) :
      RequestOutcome repository request force (.error fault)
  | accepted (q : QualifiedName) (hq : repository.contains q)
      (hasked : ∀ key, Requests repository request force key → repository.checkPath key = .ok ()) :
      RequestOutcome repository request force (.ok q)

variable {repository after : Repository} {request : String} {force : Bool} {registry : Registry}
  {fault : Fault} {s t : Resolver}

theorem Requests.eq_or_newer {q key : QualifiedName} (hread : QualifiedName.read request = .ok q)
    (h : Requests repository request force key) :
    key = q ∨ force = false ∧ key = Repository.withMinor (repository.highest q)
      ((repository.highest q).version.minor + 1) := by
  rcases h with hother | ⟨hother, hforce⟩
  · exact Or.inl (Except.ok.inj (hother.symm.trans hread))
  · obtain rfl := Except.ok.inj (hother.symm.trans hread)
    exact Or.inr ⟨hforce, rfl⟩

/-- A release whose name is too long cannot be requested. -/
theorem checkRequest_of_checkPath {q : QualifiedName} (hread : QualifiedName.read request = .ok q)
    (hq : q.namesType = false) (hpath : repository.checkPath q = .error fault) :
    repository.checkRequest request force = .error fault := by
  unfold Repository.checkRequest
  refine Outcome.except_bind_error_iff.mpr (Or.inr ⟨q, hread, ?_⟩)
  dsimp only
  rw [hq, if_neg Bool.false_ne_true]
  exact Outcome.except_bind_error_iff.mpr (Or.inl (Repository.holds_eq_error_iff.mpr hpath))

/-- A release that is there is converted if nothing newer is, or if the run is forced. -/
theorem checkRequest_of_present {q : QualifiedName} (hread : QualifiedName.read request = .ok q)
    (hq : q.namesType = false) (hholds : repository.holds q = .ok true) :
    repository.checkRequest request force =
      if force then .ok q
      else (repository.checkPath (Repository.withMinor (repository.highest q)
          ((repository.highest q).version.minor + 1))).bind fun _ =>
        if repository.highest q = q then .ok q
        else .error (.input (.outdated (repository.highest q) q)) := by
  cases force with
  | true =>
      simp [Repository.checkRequest, hread, hq, hholds, bind, Except.bind, pure, Except.pure]
  | false =>
      by_cases hnewest : repository.highest q = q
      · simp [Repository.checkRequest, hread, hq, hholds, hnewest, bind, Except.bind, pure,
          Except.pure]
      · simp [Repository.checkRequest, hread, hq, hholds, hnewest, bind, Except.bind, throw,
          throwThe, MonadExceptOf.throw]

theorem requestOutcome_of_present {q : QualifiedName} (hread : QualifiedName.read request = .ok q)
    (hq : q.namesType = false) (hholds : repository.holds q = .ok true) :
    RequestOutcome repository request force (repository.checkRequest request force) := by
  obtain ⟨hpath, hpresent⟩ := Repository.holds_eq_ok_iff.mp hholds
  rw [checkRequest_of_present hread hq hholds]
  cases force with
  | true =>
      refine .accepted q hpresent fun key hkey => ?_
      rcases hkey.eq_or_newer hread with rfl | ⟨hforce, -⟩
      · exact hpath
      · cases hforce
  | false =>
      rw [if_neg Bool.false_ne_true]
      cases hnext : repository.checkPath (Repository.withMinor (repository.highest q)
          ((repository.highest q).version.minor + 1)) with
      | error fault => exact .unaskable (.newer hread rfl) hnext
      | ok _ =>
          rw [Except.bind]
          split
          · refine .accepted q hpresent fun key hkey => ?_
            rcases hkey.eq_or_newer hread with rfl | ⟨-, rfl⟩
            · exact hpath
            · exact hnext
          · exact .refused _

theorem requestOutcome_checkRequest (repository : Repository) (request : String) (force : Bool) :
    RequestOutcome repository request force (repository.checkRequest request force) := by
  cases hread : QualifiedName.read request with
  | error fault =>
      have hchecked : repository.checkRequest request force = .error fault := by
        unfold Repository.checkRequest
        rw [hread]
        rfl
      rw [hchecked]
      unfold QualifiedName.read at hread
      split at hread
      · cases hread
      · obtain rfl := Except.error.inj hread
        exact .refused _
      · rename_i length hparse
        obtain rfl := Except.error.inj hread
        exact .unread (QualifiedName.parse_eq_overlong_iff.mp hparse)
  | ok q =>
      by_cases hq : q.namesType
      · unfold Repository.checkRequest
        simp only [hread, hq, if_true, bind, Except.bind]
        exact .refused _
      rw [Bool.not_eq_true] at hq
      cases hholds : repository.holds q with
      | error fault =>
          have hpath := Repository.holds_eq_error_iff.mp hholds
          rw [checkRequest_of_checkPath hread hq hpath]
          exact .unaskable (.given hread) hpath
      | ok present =>
          cases present with
          | true => exact requestOutcome_of_present hread hq hholds
          | false =>
              unfold Repository.checkRequest
              simp only [hread, hq, hholds, bind, Except.bind]
              exact .refused _

theorem commentNotes_ok {releases : List QualifiedName} {notes found : Notes}
    (hfaithful : repository.Faithful)
    (h : commentNotes releases notes { repository } = .ok found t) :
    ∃ after, t = { repository := after } ∧ repository.ReadsMore after ∧ after.Faithful := by
  induction releases generalizing repository notes with
  | nil =>
      obtain ⟨-, rfl⟩ := Outcome.pure_ok_iff.mp h
      exact ⟨repository, rfl, .refl repository, hfaithful⟩
  | cons release rest ih =>
      obtain ⟨document, read, hdocument, h⟩ := Outcome.bind_ok_iff.mp h
      obtain ⟨middle, hload, rfl⟩ := Resolver.document_ok hdocument
      have hloads := Repository.load_loads repository release
      rw [hload] at hloads
      cases hcomments : document.unhandledComments with
      | none =>
          rw [hcomments] at h
          exact absurd h Outcome.throw_ne_ok
      | some comments =>
          rw [hcomments] at h
          obtain ⟨after, hafter, hmore, hlast⟩ := ih (hloads.faithful hfaithful) h
          exact ⟨after, hafter, hloads.readsMore.trans hmore, hlast⟩

theorem commentNotes_error {base : Repository} {releases : List QualifiedName} {notes : Notes}
    (hlegible : base.Legible) (hfaithful : repository.Faithful)
    (hbase : base.ReadsMore repository)
    (hreleases : ∀ release ∈ releases, base.contains release ∧ release.release = release)
    (h : commentNotes releases notes { repository } = .error fault t) :
    ∃ error, fault = .input error := by
  induction releases generalizing repository notes with
  | nil => exact absurd h Outcome.pure_ne_error
  | cons release rest ih =>
      obtain ⟨hcontains, hkey⟩ := hreleases release List.mem_cons_self
      rcases Outcome.bind_error_iff.mp h with hdocument | ⟨document, read, hdocument, h⟩
      · exact Resolver.document_error_input hlegible hbase hkey hcontains hdocument
      · obtain ⟨middle, hload, rfl⟩ := Resolver.document_ok hdocument
        have hcomplete := Resolver.isComplete_of_load hlegible hfaithful hbase hkey hload
        obtain ⟨comments, hcomments⟩ := Release.comments_of_isComplete hcomplete
        have hloads := Repository.load_loads repository release
        rw [hload] at hloads
        rw [hcomments] at h
        refine ih (hloads.faithful hfaithful) (hbase.trans hloads.readsMore) ?_ h
        exact fun other hother => hreleases other (List.mem_cons_of_mem _ hother)

theorem accepted_of_checkRequest {q : QualifiedName}
    (h : repository.checkRequest request force = .ok q) :
    repository.contains q ∧
      ∀ key, Requests repository request force key → repository.checkPath key = .ok () := by
  have houtcome := requestOutcome_checkRequest repository request force
  rw [h] at houtcome
  cases houtcome with
  | accepted _ hq hasked => exact ⟨hq, hasked⟩

theorem run_of_refused {fault : Fault} (h : repository.checkRequest request force = .error fault)
    (registry : Registry) :
    run request force registry { repository } = .error fault { repository } := by
  unfold run
  rw [Outcome.get_bind]
  simp only [h]
  rfl

/-- A run that accepts its request goes through the unbroken block of releases that ends at it. -/
theorem run_of_accepted {q : QualifiedName} (h : repository.checkRequest request force = .ok q)
    (registry : Registry) :
    run request force registry { repository } =
      convert q (repository.window q) registry { repository } := by
  unfold run
  rw [Outcome.get_bind]
  simp only [h, Repository.covered_eq_window (accepted_of_checkRequest h).1]

theorem checkRequest_of_run {conversion : Conversion}
    (h : run request force registry { repository } = .ok conversion t) :
    ∃ q, repository.checkRequest request force = .ok q := by
  cases hchecked : repository.checkRequest request force with
  | error fault =>
      rw [run_of_refused hchecked] at h
      cases h
  | ok q => exact ⟨q, rfl⟩

/-- What a run has done that gives this result and leaves the resolver `t`. -/
structure Completed (registry : Registry) (conversion : Conversion) (t : Resolver) : Prop where
  idle : t.Idle
  catalog : conversion.catalog = t.catalog
  distinct : conversion.types.Nodup
  generated : ∃ notes made,
    t.catalog.generate registry conversion.name conversion.types notes =
      .ok (conversion.schemas, made) conversion.notes ∧
    conversion.files = (({} : FileSet).putAll made).put logFile
      (conversion.notes.log (logTitle conversion.name))

theorem run_completed {conversion : Conversion} (hfaithful : repository.Faithful)
    (h : run request force registry { repository } = .ok conversion t) :
    Completed registry conversion t ∧ repository.ReadsMore t.repository ∧
      ∀ key, Requests repository request force key → repository.checkPath key = .ok () := by
  obtain ⟨q, hchecked⟩ := checkRequest_of_run h
  rw [run_of_accepted hchecked] at h
  obtain ⟨notes, read, hnotes, h⟩ := Outcome.bind_ok_iff.mp h
  obtain ⟨after, rfl, hmore, hafter⟩ := commentNotes_ok hfaithful hnotes
  obtain ⟨types, found, htypes, h⟩ := Outcome.bind_ok_iff.mp h
  obtain ⟨hfound, hcontinues, hdistinct⟩ :=
    Resolver.collectTypes_ok (Resolver.idle_fresh hafter) htypes
  rw [Outcome.get_bind] at h
  cases hgenerate : (found.catalog.generate registry q types).run notes with
  | error fault _ =>
      rw [hgenerate] at h
      exact absurd h Outcome.throw_ne_ok
  | ok made left =>
      rw [hgenerate] at h
      obtain ⟨rfl, rfl⟩ := Outcome.pure_ok_iff.mp h
      exact ⟨⟨hfound, rfl, hdistinct, notes, made.2, hgenerate, rfl⟩,
        hmore.trans hcontinues.repository, (accepted_of_checkRequest hchecked).2⟩

/-- A run that gives a result could ask for every release that it had to ask for. -/
theorem run_ok {conversion : Conversion} {key : QualifiedName} (hfaithful : repository.Faithful)
    (h : run request force registry { repository } = .ok conversion t)
    (hkey : Requests repository request force key ∨ conversion.catalog.RefersTo key) :
    repository.checkPath key = .ok () := by
  obtain ⟨hcompleted, hmore, hasked⟩ := run_completed hfaithful h
  rcases hkey with hkey | hkey
  · exact hasked key hkey
  · rw [← hmore.checkPath_eq]
    rw [hcompleted.catalog] at hkey
    exact hcompleted.idle.checkPath hkey

theorem convert_error {q : QualifiedName} {releases : List QualifiedName}
    (hfaithful : repository.Faithful) (hlegible : repository.Legible)
    (hfounded : repository.Founded)
    (hreleases : ∀ release ∈ releases, repository.contains release ∧ release.release = release)
    (h : convert q releases registry { repository } = .error fault t) :
    repository.Refuses fault := by
  rcases Outcome.bind_error_iff.mp h with hnotes | ⟨notes, read, hnotes, h⟩
  · exact Or.inl (commentNotes_error hlegible hfaithful (.refl repository) hreleases hnotes)
  obtain ⟨after, rfl, hmore, hafter⟩ := commentNotes_ok hfaithful hnotes
  have hidle := Resolver.idle_fresh hafter
  rcases Outcome.bind_error_iff.mp h with htypes | ⟨types, found, htypes, h⟩
  · have hpresent : ∀ release ∈ releases, repository.contains release.release := by
      intro release hrelease
      rw [(hreleases release hrelease).2]
      exact (hreleases release hrelease).1
    exact Resolver.collectTypes_error hlegible hfounded hidle hmore hpresent htypes
  obtain ⟨hfound, hcontinues, -⟩ := Resolver.collectTypes_ok hidle htypes
  rw [Outcome.get_bind] at h
  have hgenerable :=
    hfound.generable (hmore.trans hcontinues.repository) hlegible hfounded
  obtain ⟨⟨schemas, files⟩, left, hgenerate, -⟩ := hgenerable.generate registry q types notes
  simp only [EStateM.run, hgenerate] at h
  exact absurd h Outcome.pure_ne_error

/-- The faults of a run: those of its request and those of loading. -/
theorem run_error (hfaithful : repository.Faithful) (hlegible : repository.Legible)
    (hfounded : repository.Founded)
    (h : run request force registry { repository } = .error fault t) :
    (∃ error, fault = .input error) ∨
      (∃ key, (Requests repository request force key ∨ repository.RefersTo key) ∧
        repository.checkPath key = .error fault) ∨
      ∃ text length, (text = request ∨ repository.Mentions text) ∧
        QualifiedName.OverlongText text length ∧ fault = .overlongVersion length := by
  have houtcome := requestOutcome_checkRequest repository request force
  cases hchecked : repository.checkRequest request force with
  | error refused =>
      rw [run_of_refused hchecked] at h
      cases h
      rw [hchecked] at houtcome
      cases houtcome with
      | refused error => exact Or.inl ⟨error, rfl⟩
      | unread hlong => exact Or.inr (Or.inr ⟨request, _, Or.inl rfl, hlong, rfl⟩)
      | unaskable hkey hpath => exact Or.inr (Or.inl ⟨_, Or.inl hkey, hpath⟩)
  | ok q =>
      obtain ⟨hq, -⟩ := accepted_of_checkRequest hchecked
      rw [run_of_accepted hchecked] at h
      have hreleases : ∀ release ∈ repository.window q,
          repository.contains release ∧ release.release = release := fun release hrelease =>
        ⟨Repository.contains_of_mem_window hq release hrelease,
          Repository.release_of_mem_block release hrelease⟩
      rcases convert_error hfaithful hlegible hfounded hreleases h with
        hinput | ⟨key, hrefers, hpath⟩ | ⟨text, length, hmentions, hlong, hfault⟩
      · exact Or.inl hinput
      · exact Or.inr (Or.inl ⟨key, Or.inr hrefers, hpath⟩)
      · exact Or.inr (Or.inr ⟨text, length, Or.inr hmentions, hlong, hfault⟩)

/-- **How a run ends.** It gives a result, reports an error of the input, has to ask for a release
whose name is too long, or has to read a name whose version has a number with too many digits. It
gives no result if a name that it asks for is too long, and a request that names such a release, or
that has such a number, ends with that fault. -/
theorem run_outcome (repository : Repository) (request : String) (force : Bool)
    (registry : Registry) (hfaithful : repository.Faithful) (hlegible : repository.Legible)
    (hfounded : repository.Founded) :
    ((∃ conversion s, run request force registry { repository } = .ok conversion s ∧
        ∀ key, Requests repository request force key ∨ conversion.catalog.RefersTo key →
          repository.checkPath key = .ok ()) ∨
      (∃ error s, run request force registry { repository } = .error (.input error) s) ∨
      (∃ key s, (Requests repository request force key ∨ repository.RefersTo key) ∧
        repository.checkPath key = .error (.path .nameTooLong) ∧
        run request force registry { repository } = .error (.path .nameTooLong) s) ∨
      ∃ text length s, (text = request ∨ repository.Mentions text) ∧
        QualifiedName.OverlongText text length ∧
        run request force registry { repository } = .error (.overlongVersion length) s) ∧
    (∀ q fault, QualifiedName.read request = .ok q → q.namesType = false →
      repository.checkPath q = .error fault →
      run request force registry { repository } = .error fault { repository }) ∧
    ∀ length, QualifiedName.OverlongText request length →
      run request force registry { repository } =
        .error (.overlongVersion length) { repository } := by
  refine ⟨?_, ?_, ?_⟩
  · cases hrun : run request force registry { repository } with
    | ok conversion s =>
        exact Or.inl ⟨conversion, s, rfl, fun key hkey => run_ok hfaithful hrun hkey⟩
    | error fault s =>
        rcases run_error hfaithful hlegible hfounded hrun with
          ⟨error, rfl⟩ | ⟨key, hkey, hpath⟩ | ⟨text, length, htext, hlong, rfl⟩
        · exact Or.inr (Or.inl ⟨error, s, rfl⟩)
        · obtain rfl := Repository.checkPath_error hpath
          exact Or.inr (Or.inr (Or.inl ⟨key, s, hkey, hpath, rfl⟩))
        · exact Or.inr (Or.inr (Or.inr ⟨text, length, s, htext, hlong, rfl⟩))
  · intro q fault hread hq hpath
    exact run_of_refused (checkRequest_of_checkPath hread hq hpath) registry
  · intro length hlong
    refine run_of_refused ?_ registry
    unfold Repository.checkRequest
    rw [QualifiedName.read_eq_overlong_iff.mpr (QualifiedName.parse_eq_overlong_iff.mpr hlong)]
    rfl

/-- A directory with one release, in which a typedef stands for a vector. -/
def vectorRelease : Repository where
  disk := {
    nodes := [(["schemas"], .directory), (["schemas", "p@1.0.json"], .file document)] }
  root := { parts := ["schemas"] }
where
  document : String :=
    Sample.document "p" "1.0" [Sample.typeAlias "V" (Sample.vec (Sample.named "S"))]

theorem file_vectorRelease {key : QualifiedName} {text : String}
    (h : vectorRelease.file? key = some text) : text = vectorRelease.document := by
  obtain ⟨place, hplace⟩ := Disk.node_of_read (Repository.read_of_file h)
  have hnode := Disk.mem_nodes_of_node hplace
  simp only [vectorRelease, List.mem_cons, Prod.mk.injEq, reduceCtorEq, and_false, false_or,
    Node.file.injEq, List.not_mem_nil, or_false] at hnode
  exact hnode.2

theorem legible_vectorRelease : vectorRelease.Legible := by
  intro key text hfile
  rw [file_vectorRelease hfile]
  decide +kernel

/-- Its only typedef is `V`, and that is written with `S`. -/
theorem spells_vectorRelease {written : TypeRef} {q r : QualifiedName}
    (h : vectorRelease.Spells written q r) : q.name = some "V" ∧ r.name = some "S" := by
  obtain ⟨entry, hentry, rfl, -, haliased, text, htext, hmeant⟩ := h
  have hrelease : entry.1.name.release = ⟨"p", ⟨1, 0⟩, some "", []⟩ := by
    obtain ⟨file, release, hfile, hdecode, -⟩ := Repository.mem_definitions_iff.mp hentry
    rw [file_vectorRelease hfile] at hdecode
    have hread : (Repository.decodeRelease ⟨"p", ⟨1, 0⟩, some "", []⟩
        vectorRelease.document).isOk := by
      decide +kernel
    cases hother : Repository.decodeRelease ⟨"p", ⟨1, 0⟩, some "", []⟩ vectorRelease.document with
    | error fault =>
        rw [hother] at hread
        cases hread
    | ok other => exact Repository.eq_of_decode_same_text rfl rfl hdecode hother
  rw [hrelease] at hentry hmeant
  have hall : ∀ entry ∈ vectorRelease.definitions ⟨"p", ⟨1, 0⟩, some "", []⟩,
      entry.1.name.name = some "V" ∧ ∀ text ∈ entry.2.aliased.bind TypeRef.reference?,
        ∀ r ∈ Resolver.meant? ⟨(vectorRelease.definitions ⟨"p", ⟨1, 0⟩, some "", []⟩).map Prod.fst⟩
          entry.1 text, r.name = some "S" := by
    decide +kernel
  obtain ⟨hname, hrefers⟩ := hall entry hentry
  refine ⟨hname, hrefers text ?_ r hmeant⟩
  rw [haliased]
  exact htext

theorem founded_vectorRelease : vectorRelease.Founded := by
  intro written q r hspells _ hback
  obtain ⟨hq, hr⟩ := spells_vectorRelease hspells
  rcases hback.cases_head with rfl | ⟨next, ⟨other, hnext⟩, -⟩
  · exact absurd (hq.symm.trans hr) (by decide)
  · exact absurd ((spells_vectorRelease hnext).1.symm.trans hr) (by decide)

/-- A release whose file would have a name of 256 bytes. -/
def overlongName : QualifiedName :=
  { package := String.ofList (List.replicate 247 'p'), version := ⟨1, 0⟩ }

theorem toList_overlongName : overlongName.package.toList = List.replicate 247 'p' :=
  String.toList_ofList

theorem read_overlongName : QualifiedName.read overlongName.toText = .ok overlongName := by
  refine QualifiedName.read_eq_ok_iff.mpr (QualifiedName.parse_eq_some_iff.mpr
    (QualifiedName.Regular.parse_toText ?_ (by decide +kernel)))
  refine ⟨⟨[overlongName.package], List.cons_ne_nil _ _, ?_, ?_⟩, Or.inl ⟨rfl, rfl⟩⟩
  · intro name hname
    rw [List.mem_singleton.mp hname, QualifiedName.Token.isName, toList_overlongName]
    decide +kernel
  · rw [String.intercalate_singleton]

theorem checkPath_overlongName :
    vectorRelease.checkPath overlongName = .error (.path .nameTooLong) := by
  have hsplit : Text.split '/' overlongName.package = [overlongName.package] := by
    have hchars : Text.splitChars '/' (List.replicate 247 'p') = [List.replicate 247 'p'] := by
      decide +kernel
    rw [Text.split, toList_overlongName, hchars]
    rfl
  have hfile : Repository.fileName overlongName = overlongName.package ++ "@1.0.json" := by
    have hend : "@" ++ (overlongName.version.toText ++ ".json") = "@1.0.json" := by decide +kernel
    rw [Repository.fileName, hsplit, List.getLast?_singleton, Option.getD_some,
      String.append_assoc, String.append_assoc, hend]
  have hdirectory : vectorRelease.directory overlongName = { parts := ["schemas"] } := by
    have hanchor : Path.anchorOf overlongName.package = "" := by
      rw [Path.anchorOf, toList_overlongName]
      decide +kernel
    rw [Repository.directory, hsplit, hanchor]
    rfl
  have htext : (Path.child { parts := ["schemas"] } (overlongName.package ++ "@1.0.json")).toText =
      "schemas" ++ "/" ++ (overlongName.package ++ "@1.0.json") := by
    simp [Path.toText, Path.child]
  have hnull : ("schemas" ++ "/" ++ (overlongName.package ++ "@1.0.json")).toList.contains
      (Char.ofNat 0) = false := by
    simp only [String.toList_append, toList_overlongName]
    decide +kernel
  have hcheck : Disk.checkText (vectorRelease.path overlongName) = .ok () := by
    rw [Repository.path, hdirectory, hfile, Disk.checkText, htext, hnull,
      if_neg Bool.false_ne_true, if_neg (by decide +kernel)]
  have hplace : (vectorRelease.directory overlongName).parts.foldlM vectorRelease.disk.enter
      (if (vectorRelease.directory overlongName).isAbsolute then []
        else vectorRelease.disk.working) = .ok ["schemas"] := by
    rw [hdirectory]
    rfl
  have hlong : Disk.nameLimit < (Repository.fileName overlongName).utf8ByteSize := by
    rw [hfile]
    decide +kernel
  exact Repository.checkPath_of_long hcheck hplace hlong

/-- A request for it ends with a path that is too long, and one for a release of version 1.0 with
very many leading zeros with a version that is too long, though nothing is wrong with any file. -/
theorem run_overlong_requests :
    vectorRelease.Faithful ∧ vectorRelease.Legible ∧ vectorRelease.Founded ∧
      run overlongName.toText false .default { repository := vectorRelease } =
        .error (.path .nameTooLong) { repository := vectorRelease } ∧
      run QualifiedName.paddedText false .default { repository := vectorRelease } =
        .error (.overlongVersion (Text.digitLimit + 1)) { repository := vectorRelease } := by
  have hfaithful : vectorRelease.Faithful := Repository.faithful_of_read_eq_nil rfl
  obtain ⟨-, hname, -⟩ := run_outcome vectorRelease overlongName.toText false .default hfaithful
    legible_vectorRelease founded_vectorRelease
  obtain ⟨-, -, hversion⟩ := run_outcome vectorRelease QualifiedName.paddedText false .default
    hfaithful legible_vectorRelease founded_vectorRelease
  exact ⟨hfaithful, legible_vectorRelease, founded_vectorRelease,
    hname overlongName _ read_overlongName rfl checkPath_overlongName,
    hversion _ QualifiedName.overlong_paddedText⟩

end Conversion

end HalBridge
