import HalBridge.Repository
import HalBridge.Proofs.NameRoundTrip
import Mathlib.Data.List.Nodup
import Mathlib.Data.List.Perm.Subperm

/-!
# Releases and their files

A repository keeps the documents it has read, and it is faithful as long as they are what the files
say. In a faithful repository every release that was read has a file of its own, since a document
names its release; so no more releases are read than there are places on the disk.
-/

namespace HalBridge

theorem Version.eq_of_toText_eq {v w : Version} (h : v.toText = w.toText) : v = w := by
  -- Names have different texts, so the versions are compared as parts of a name.
  have hregular : ∀ version : Version, QualifiedName.Regular ⟨"p", version, some "", []⟩ := by
    refine fun version => ⟨⟨["p"], by simp, ?_, rfl⟩, Or.inl ⟨rfl, rfl⟩⟩
    intro name hname
    rw [List.mem_singleton.mp hname]
    decide
  have hsame : QualifiedName.toText ⟨"p", v, some "", []⟩ =
      QualifiedName.toText ⟨"p", w, some "", []⟩ := by
    simp only [QualifiedName.toText, h]
    rfl
  exact congrArg QualifiedName.version ((hregular v).toText_inj (hregular w) hsame)

/-- The text of a file. -/
def Node.text? : Node → Option String
  | .directory => none
  | .file text => some text

theorem Disk.node_of_read {disk : Disk} {path : Path} {text : String}
    (h : disk.read path = .ok text) : ∃ place, disk.node? place = some (.file text) := by
  unfold Disk.read Disk.find at h
  cases hplace : disk.place path with
  | error error =>
      rw [hplace] at h
      cases h
  | ok place =>
      rw [hplace] at h
      refine ⟨place, ?_⟩
      cases hnode : disk.node? place with
      | none =>
          simp only [Except.map, hnode] at h
          cases h
      | some node =>
          simp only [Except.map, hnode] at h
          cases node with
          | directory => cases h
          | file found => rw [← Except.ok.inj h]

theorem Disk.mem_nodes_of_node {disk : Disk} {place : Place} {text : String}
    (h : disk.node? place = some (.file text)) : (place, Node.file text) ∈ disk.nodes := by
  unfold Disk.node? at h
  split at h
  · cases h
  · obtain ⟨front, back, hnodes, -⟩ := List.lookup_eq_some_iff.mp h
    rw [hnodes]
    exact List.mem_append_right _ List.mem_cons_self

namespace Repository

open Document

/-- The documents read so far are those of the files. -/
def Faithful (repository : Repository) : Prop :=
  ∀ key release, repository.read.lookup key = some release →
    ∃ text, repository.file? key = some text ∧ decodeRelease key text = .ok release

/-- A repository that has read nothing yet is faithful. -/
theorem faithful_of_read_eq_nil {repository : Repository} (h : repository.read = []) :
    repository.Faithful := by
  intro key release hread
  rw [h] at hread
  cases hread

/-- Both are about the same directory of the same disk. -/
structure SameFiles (repository other : Repository) : Prop where
  disk : other.disk = repository.disk
  root : other.root = repository.root

/-- More documents of the same directory were read. -/
structure ReadsMore (before after : Repository) : Prop extends SameFiles before after where
  kept : ∀ {key : QualifiedName} {release : Release}, before.read.lookup key = some release →
    after.read.lookup key = some release

variable {repository before after : Repository} {key q : QualifiedName} {release : Release}

theorem SameFiles.symm (h : before.SameFiles after) : after.SameFiles before :=
  ⟨h.disk.symm, h.root.symm⟩

theorem SameFiles.trans {last : Repository} (h : before.SameFiles after)
    (h' : after.SameFiles last) : before.SameFiles last :=
  ⟨h'.disk.trans h.disk, h'.root.trans h.root⟩

theorem ReadsMore.refl (repository : Repository) : repository.ReadsMore repository :=
  ⟨⟨rfl, rfl⟩, id⟩

theorem ReadsMore.trans {last : Repository} (h : before.ReadsMore after)
    (h' : after.ReadsMore last) : before.ReadsMore last :=
  ⟨h.toSameFiles.trans h'.toSameFiles, fun hread => h'.kept (h.kept hread)⟩

theorem SameFiles.file_eq (h : before.SameFiles after) (q : QualifiedName) :
    after.file? q = before.file? q := by
  unfold file? path directory
  rw [h.disk, h.root]

theorem SameFiles.contains_eq (h : before.SameFiles after) (q : QualifiedName) :
    after.contains q = before.contains q := by
  unfold contains
  rw [h.file_eq]

theorem SameFiles.checkPath_eq (h : before.SameFiles after) (q : QualifiedName) :
    after.checkPath q = before.checkPath q := by
  unfold checkPath path directory
  rw [h.disk, h.root]

theorem SameFiles.holds_eq (h : before.SameFiles after) (q : QualifiedName) :
    after.holds q = before.holds q := by
  rw [holds, holds, h.checkPath_eq, h.contains_eq]

theorem holds_eq_ok_iff {present : Bool} :
    repository.holds q = .ok present ↔
      repository.checkPath q = .ok () ∧ repository.contains q = present := by
  unfold holds
  cases repository.checkPath q with
  | error fault => simp [Except.map]
  | ok _ => simp [Except.map]

theorem holds_eq_error_iff {fault : Fault} :
    repository.holds q = .error fault ↔ repository.checkPath q = .error fault := by
  unfold holds
  cases repository.checkPath q with
  | error error => simp [Except.map]
  | ok _ => simp [Except.map]

theorem read_of_file {text : String} (h : repository.file? q = some text) :
    repository.disk.read (repository.path q) = .ok text := by
  unfold file? at h
  split at h
  · rename_i found hread
    rw [hread, Option.some.inj h]
  · cases h

/-- A file that is there has a name that can be asked for. -/
theorem checkPath_of_contains (h : repository.contains q) : repository.checkPath q = .ok () := by
  obtain ⟨text, htext⟩ := Option.isSome_iff_exists.mp h
  have hread := read_of_file htext
  unfold Disk.read at hread
  unfold checkPath
  cases hfind : repository.disk.find (repository.path q) with
  | error error =>
      rw [hfind] at hread
      cases hread
  | ok node => rfl

/-- What reading the document of a release comes to. -/
inductive Loads (repository : Repository) (key : QualifiedName) :
    Except Fault Release × Repository → Prop
  | known (release : Release) (hread : repository.read.lookup key = some release) :
      Loads repository key (.ok release, repository)
  | unasked (fault : Fault) (hpath : repository.checkPath key = .error fault) :
      Loads repository key (.error fault, repository)
  | missing (hfile : repository.file? key = none) :
      Loads repository key (.error (.input (.missingRelease key)), repository)
  | refused (fault : Fault) (text : String) (hfile : repository.file? key = some text)
      (hdecode : decodeRelease key text = .error fault) :
      Loads repository key (.error fault, repository)
  | fresh (release : Release) (text : String) (hread : repository.read.lookup key = none)
      (hfile : repository.file? key = some text) (hdecode : decodeRelease key text = .ok release) :
      Loads repository key
        (.ok release, { repository with read := repository.read ++ [(key, release)] })

theorem load_loads (repository : Repository) (q : QualifiedName) :
    Loads repository q.release (repository.load q) := by
  cases hread : repository.read.lookup q.release with
  | some release =>
      simp only [load, hread]
      exact .known release hread
  | none =>
      cases hpath : repository.checkPath q.release with
      | error fault =>
          simp only [load, hread, hpath]
          exact .unasked fault hpath
      | ok _ =>
          cases hfile : repository.file? q.release with
          | none =>
              simp only [load, hread, hpath, hfile]
              exact .missing hfile
          | some text =>
              cases hdecode : decodeRelease q.release text with
              | error fault =>
                  simp only [load, hread, hpath, hfile, hdecode]
                  exact .refused fault text hfile hdecode
              | ok release =>
                  simp only [load, hread, hpath, hfile, hdecode]
                  exact .fresh release text hread hfile hdecode

/-- What was read of one file is one document. -/
theorem SameFiles.release_eq {found : Release} (h : before.SameFiles after)
    (hbefore : before.Faithful) (hafter : after.Faithful)
    (hread : before.read.lookup key = some release) (hfound : after.read.lookup key = some found) :
    found = release := by
  obtain ⟨text, hfile, hdecode⟩ := hbefore key release hread
  obtain ⟨text', hfile', hdecode'⟩ := hafter key found hfound
  rw [h.file_eq, hfile] at hfile'
  rw [← Option.some.inj hfile', hdecode] at hdecode'
  exact (Except.ok.inj hdecode').symm

section Loads

variable {outcome : Except Fault Release}

theorem Loads.readsMore (h : Loads repository key (outcome, after)) :
    repository.ReadsMore after := by
  cases h with
  | known | unasked | missing | refused => exact ReadsMore.refl repository
  | fresh =>
      refine ⟨⟨rfl, rfl⟩, ?_⟩
      intro key found hfound
      rw [List.lookup_append, hfound, Option.some_or]

theorem Loads.faithful (h : Loads repository key (outcome, after))
    (hfaithful : repository.Faithful) : after.Faithful := by
  intro asked found hfound
  rw [h.readsMore.file_eq]
  cases h with
  | known | unasked | missing | refused => exact hfaithful asked found hfound
  | fresh release text hread hfile hdecode =>
      rw [List.lookup_append, Option.or_eq_some_iff] at hfound
      rcases hfound with hfound | ⟨-, hfound⟩
      · exact hfaithful asked found hfound
      · rw [List.lookup_cons] at hfound
        split at hfound
        · rename_i hasked
          rw [beq_iff_eq.mp hasked, ← Option.some.inj hfound]
          exact ⟨text, hfile, hdecode⟩
        · cases hfound

/-- A document that loading gives was read. -/
theorem Loads.read (h : Loads repository key (.ok release, after)) :
    after.read.lookup key = some release := by
  cases h with
  | known _ hread => exact hread
  | fresh _ text hread hfile hdecode =>
      rw [List.lookup_append, hread, Option.none_or, List.lookup_cons_self]

/-- A document that a file holds is what loading gives. -/
theorem Faithful.exists_load {text : String} (h : repository.Faithful) (hkey : key.release = key)
    (hfile : repository.file? key = some text) (hdecode : decodeRelease key text = .ok release) :
    ∃ after, repository.load key = (.ok release, after) := by
  have hloads := load_loads repository key
  rw [hkey] at hloads
  generalize repository.load key = result at hloads
  cases hloads with
  | known found hread =>
      obtain ⟨text', hfile', hdecode'⟩ := h key found hread
      rw [← Option.some.inj (hfile.symm.trans hfile'), hdecode] at hdecode'
      rw [Except.ok.inj hdecode']
      exact ⟨_, rfl⟩
  | unasked fault hpath =>
      have hcontains : repository.contains key := by
        rw [contains, hfile]
        rfl
      rw [checkPath_of_contains hcontains] at hpath
      cases hpath
  | missing hmissing =>
      rw [hfile] at hmissing
      cases hmissing
  | refused fault text' hfile' hdecode' =>
      rw [← Option.some.inj (hfile.symm.trans hfile'), hdecode] at hdecode'
      cases hdecode'
  | fresh found text' _ hfile' hdecode' =>
      rw [← Option.some.inj (hfile.symm.trans hfile'), hdecode] at hdecode'
      rw [Except.ok.inj hdecode']
      exact ⟨_, rfl⟩

end Loads

/-! ### Every release has a file of its own -/

theorem decodeRelease_eq_ok_iff {text : String} :
    decodeRelease key text = .ok release ↔
      ∃ value, Json.parse? text = some value ∧ Release.decode value = .ok release ∧
        release.package = some key.package ∧ release.version = some key.version.toText := by
  unfold decodeRelease
  cases Json.parse? text with
  | none => simp
  | some value =>
      cases hdecode : Release.decode value with
      | error error => cases error <;> simp [hdecode]
      | ok found =>
          simp only [Option.some.injEq, exists_eq_left', hdecode, Except.ok.injEq]
          constructor
          · intro h
            split at h
            · rename_i habout
              rw [Bool.and_eq_true, decide_eq_true_eq, decide_eq_true_eq] at habout
              obtain rfl := Except.ok.inj h
              exact ⟨rfl, habout⟩
            · cases h
          · rintro ⟨rfl, hpackage, hversion⟩
            rw [if_pos]
            rw [hpackage, hversion, decide_eq_true rfl, decide_eq_true rfl]
            rfl

theorem eq_of_decode_same_text {text : String} {other : QualifiedName} {release' : Release}
    (hkey : key.release = key) (hother : other.release = other)
    (h : decodeRelease key text = .ok release) (h' : decodeRelease other text = .ok release') :
    key = other := by
  obtain ⟨value, hvalue, hdecode, hpackage, hversion⟩ := decodeRelease_eq_ok_iff.mp h
  obtain ⟨value', hvalue', hdecode', hpackage', hversion'⟩ := decodeRelease_eq_ok_iff.mp h'
  obtain rfl : value = value' := Option.some.inj (hvalue.symm.trans hvalue')
  obtain rfl : release = release' := Except.ok.inj (hdecode.symm.trans hdecode')
  have hpackages : key.package = other.package :=
    Option.some.inj (hpackage.symm.trans hpackage')
  have hversions : key.version = other.version :=
    Version.eq_of_toText_eq (Option.some.inj (hversion.symm.trans hversion'))
  rw [← hkey, ← hother, QualifiedName.release, hpackages, hversions]
  rfl

/-- Different releases that were read have different files. -/
theorem Faithful.length_le_size (h : repository.Faithful) {keys : List QualifiedName}
    (hnodup : keys.Nodup) (hkeys : ∀ key ∈ keys, key.release = key)
    (hread : ∀ key ∈ keys, (repository.read.lookup key).isSome) :
    keys.length ≤ repository.disk.size := by
  have hfile : ∀ key ∈ keys, ∃ release text,
      repository.file? key = some text ∧ decodeRelease key text = .ok release := by
    intro key hkey
    obtain ⟨release, hrelease⟩ := Option.isSome_iff_exists.mp (hread key hkey)
    exact ⟨release, h key release hrelease⟩
  have hdistinct : (keys.map repository.file?).Nodup := by
    refine hnodup.map_on ?_
    intro key hkey other hother hsame
    obtain ⟨release, text, htext, hdecode⟩ := hfile key hkey
    obtain ⟨release', text', htext', hdecode'⟩ := hfile other hother
    obtain rfl : text = text' := Option.some.inj (htext.symm.trans (hsame.trans htext'))
    exact eq_of_decode_same_text (hkeys key hkey) (hkeys other hother) hdecode hdecode'
  have hsubset : keys.map repository.file? ⊆
      repository.disk.nodes.map fun entry => entry.2.text? := by
    intro found hfound
    obtain ⟨key, hkey, rfl⟩ := List.mem_map.mp hfound
    obtain ⟨release, text, htext, -⟩ := hfile key hkey
    obtain ⟨place, hnode⟩ := Disk.node_of_read (read_of_file htext)
    rw [htext]
    exact List.mem_map.mpr ⟨_, Disk.mem_nodes_of_node hnode, rfl⟩
  have hle := (List.subperm_of_subset hdistinct hsubset).length_le
  rwa [List.length_map, List.length_map] at hle

end Repository

end HalBridge
