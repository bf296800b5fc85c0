import HalBridge.Proofs.Outcomes
import HalBridge.Proofs.ReleaseFiles

/-!
# Repositories that agree

Two repositories agree on a release if asking for it and reading it give the same in both. What is
read of a release then does not depend on the repository, and if they agree on all releases of a
package then they find the same oldest and newest releases of it and accept the same requests. The
search for the newest release is bounded by the size of the disk, which is no limit to it, since
releases of one package have places of their own.
-/

namespace HalBridge

/-! ### Places of releases -/

theorem Disk.getLast_of_place {disk : Disk} {path : Path} {place : Place} {name : String}
    (h : disk.place path = .ok place) (hlast : path.parts.getLast? = some name)
    (hname : name ≠ "..") : place.getLast? = some name := by
  unfold Disk.place at h
  obtain ⟨_, -, h⟩ := Outcome.except_bind_ok_iff.mp h
  obtain ⟨directory, -, h⟩ := Outcome.except_bind_ok_iff.mp h
  simp only [hlast, if_neg hname] at h
  split at h
  · cases h
  · rw [← Except.ok.inj h, List.getLast?_concat]

namespace Repository

open Document

variable {repository : Repository} {q r : QualifiedName}

theorem fileName_ne_back (q : QualifiedName) : fileName q ≠ ".." := by
  intro hback
  have hlast : (fileName q).toList.getLast? = some 'n' := by
    rw [fileName, String.toList_append, List.getLast?_append]
    rfl
  rw [hback] at hlast
  revert hlast
  decide

theorem version_eq_of_fileName (hpackage : q.package = r.package)
    (h : fileName q = fileName r) : q.version = r.version := by
  unfold fileName at h
  rw [hpackage] at h
  simp only [String.append_left_inj, String.append_right_inj] at h
  exact Version.eq_of_toText_eq h

theorem place_of_contains (h : repository.contains q) :
    ∃ entry ∈ repository.disk.nodes, entry.1.getLast? = some (fileName q) := by
  obtain ⟨text, htext⟩ := Option.isSome_iff_exists.mp h
  have hread := read_of_file htext
  unfold Disk.read Disk.find at hread
  cases hplace : repository.disk.place (repository.path q) with
  | error error =>
      rw [hplace] at hread
      cases hread
  | ok place =>
      rw [hplace] at hread
      have hlast : place.getLast? = some (fileName q) := by
        refine Disk.getLast_of_place hplace ?_ (fileName_ne_back q)
        rw [path, Path.child, List.getLast?_concat]
      cases hnode : repository.disk.node? place with
      | none =>
          simp only [Except.map, hnode] at hread
          cases hread
      | some node =>
          cases node with
          | directory =>
              simp only [Except.map, hnode] at hread
              cases hread
          | file found => exact ⟨_, Disk.mem_nodes_of_node hnode, hlast⟩

/-- Releases of one package have places of their own. -/
theorem length_le_size_of_contains (q : QualifiedName) (keys : List QualifiedName)
    (hpackage : ∀ key ∈ keys, key.package = q.package)
    (hversions : (keys.map QualifiedName.version).Nodup)
    (hcontains : ∀ key ∈ keys, repository.contains key) :
    keys.length ≤ repository.disk.size := by
  have hdistinct : (keys.map fun key => some (fileName key)).Nodup := by
    refine (List.Nodup.of_map _ hversions).map_on ?_
    intro key hkey other hother hsame
    refine List.inj_on_of_nodup_map hversions hkey hother ?_
    refine version_eq_of_fileName ?_ (Option.some.inj hsame)
    rw [hpackage key hkey, hpackage other hother]
  have hsubset : keys.map (fun key => some (fileName key)) ⊆
      repository.disk.nodes.map fun entry => entry.1.getLast? := by
    intro name hname
    obtain ⟨key, hkey, rfl⟩ := List.mem_map.mp hname
    obtain ⟨entry, hentry, hlast⟩ := place_of_contains (hcontains key hkey)
    exact List.mem_map.mpr ⟨entry, hentry, hlast⟩
  have hle := (List.subperm_of_subset hdistinct hsubset).length_le
  rwa [List.length_map, List.length_map] at hle

/-! ### The newest release -/

theorem highestMinor_cases (present : Nat → Bool) (bound minor : Nat) :
    (∀ step < bound, present (minor + 1 + step)) ∧
        highestMinor present bound minor = minor + bound ∨
      present (highestMinor present bound minor + 1) = false := by
  induction bound generalizing minor with
  | zero => exact Or.inl ⟨fun _ hstep => absurd hstep (Nat.not_lt_zero _), rfl⟩
  | succ bound ih =>
      unfold highestMinor
      by_cases hnext : present (minor + 1)
      · rw [if_pos hnext]
        rcases ih (minor + 1) with ⟨hall, hhighest⟩ | hstops
        · left
          refine ⟨?_, by omega⟩
          intro step hstep
          cases step with
          | zero => exact hnext
          | succ step =>
              have hpresent := hall step (by omega)
              rwa [show minor + 1 + 1 + step = minor + 1 + (step + 1) by omega] at hpresent
        · exact Or.inr hstops
      · rw [if_neg hnext]
        exact Or.inr (Bool.eq_false_iff.mpr hnext)

/-- How far one looks makes no difference, if one stops where nothing follows. -/
theorem highestMinor_eq {present : Nat → Bool} {bound bound' minor : Nat}
    (h : present (highestMinor present bound minor + 1) = false)
    (h' : present (highestMinor present bound' minor + 1) = false) :
    highestMinor present bound' minor = highestMinor present bound minor := by
  induction bound generalizing bound' minor with
  | zero =>
      cases bound' with
      | zero => rfl
      | succ bound' =>
          rw [highestMinor] at h ⊢
          simp [highestMinor, h]
  | succ bound ih =>
      by_cases hnext : present (minor + 1)
      · cases bound' with
        | zero =>
            rw [highestMinor, hnext] at h'
            cases h'
        | succ bound' =>
            simp only [highestMinor, hnext, if_true] at h h' ⊢
            exact ih h h'
      · cases bound' with
        | zero => simp [highestMinor, hnext]
        | succ bound' => simp [highestMinor, hnext]

theorem contains_after_highest (repository : Repository) (q : QualifiedName) :
    repository.contains (withMinor q ((repository.highest q).version.minor + 1)) = false := by
  have hminor : (repository.highest q).version.minor =
      highestMinor (fun minor => repository.contains (withMinor q minor)) repository.disk.size
        q.version.minor := rfl
  rw [hminor]
  rcases highestMinor_cases (fun minor => repository.contains (withMinor q minor))
    repository.disk.size q.version.minor with ⟨hall, hhighest⟩ | hstops
  · rw [hhighest, Bool.eq_false_iff]
    intro hnext
    -- Otherwise there were more releases than places.
    have hle : ((List.range (repository.disk.size + 1)).map fun step =>
        withMinor q (q.version.minor + 1 + step)).length ≤ repository.disk.size := by
      apply length_le_size_of_contains q
      · intro key hkey
        obtain ⟨step, -, rfl⟩ := List.mem_map.mp hkey
        rfl
      · rw [List.map_map]
        refine List.nodup_range.map_on ?_
        intro step _ step' _ hsame
        have hminors : q.version.minor + 1 + step = q.version.minor + 1 + step' :=
          congrArg Version.minor hsame
        omega
      · intro key hkey
        obtain ⟨step, hstep, rfl⟩ := List.mem_map.mp hkey
        rcases Nat.lt_succ_iff_lt_or_eq.mp (List.mem_range.mp hstep) with hlt | rfl
        · exact hall step hlt
        · rwa [show q.version.minor + 1 + repository.disk.size =
            q.version.minor + repository.disk.size + 1 by omega]
    rw [List.length_map, List.length_range] at hle
    omega
  · exact hstops

/-! ### Agreement -/

/-- Asking for the release and reading its file give the same in both: the same text, or none. -/
structure AgreesOn (first second : Repository) (key : QualifiedName) : Prop where
  path : second.checkPath key = first.checkPath key
  file : second.file? key = first.file? key

variable {first second : Repository} {key : QualifiedName}

theorem AgreesOn.contains_eq (h : first.AgreesOn second key) :
    second.contains key = first.contains key := by
  rw [contains, contains, h.file]

theorem AgreesOn.holds_eq (h : first.AgreesOn second key) :
    second.holds key = first.holds key := by
  rw [holds, holds, h.path, h.contains_eq]

/-- A file with another name is none of a release in the same directory. -/
theorem agreesOn_addFile {nodes : List (Place × Node)} {name text : String} {key : QualifiedName}
    (hflat : ({} : Repository).directory key = {}) (hname : fileName key ≠ name) :
    AgreesOn { disk := { nodes } }
      { disk := { nodes := nodes ++ [([name], .file text)] } } key := by
  let before : Disk := { nodes }
  let after : Disk := { nodes := nodes ++ [([name], .file text)] }
  let path : Path := { parts := [fileName key] }
  have hpath : ∀ disk : Disk, ({ disk } : Repository).path key = path := by
    intro disk
    change Path.child (({} : Repository).directory key) _ = path
    rw [hflat]
    rfl
  have hfind : after.find path = before.find path := by
    unfold Disk.find
    rw [show after.place path = before.place path from rfl]
    cases hplace : before.place path with
    | error error => rfl
    | ok place =>
        have hlast := Disk.getLast_of_place hplace rfl (fileName_ne_back key)
        have hother : place ≠ [name] := by
          rintro rfl
          exact hname (Option.some.inj hlast).symm
        have hnone : [([name], Node.file text)].lookup place = none := by
          rw [List.lookup_cons, beq_eq_false_iff_ne.mpr hother]
          rfl
        simp only [Except.map, Disk.node?, before, after, List.lookup_append, hnone, Option.or_none]
  constructor
  · unfold checkPath
    rw [hpath, hpath, hfind]
  · unfold file? Disk.read
    rw [hpath, hpath, hfind]

/-- The document of a release, or why there is none, by what is on the disk. -/
def reading (repository : Repository) (key : QualifiedName) : Except Fault Release :=
  (repository.checkPath key).bind fun _ =>
    match repository.file? key with
    | none => .error (.input (.missingRelease key))
    | some text => decodeRelease key text

theorem AgreesOn.reading_eq (h : first.AgreesOn second key) :
    second.reading key = first.reading key := by
  rw [reading, reading, h.path, h.file]

theorem SameFiles.reading_eq (h : first.SameFiles second) (key : QualifiedName) :
    second.reading key = first.reading key := by
  rw [reading, reading, h.checkPath_eq, h.file_eq]

/-- What was read before makes no difference. -/
theorem Faithful.load_eq (h : repository.Faithful) (q : QualifiedName) :
    (repository.load q).1 = repository.reading q.release := by
  cases hread : repository.read.lookup q.release with
  | some release =>
      obtain ⟨text, hfile, hdecode⟩ := h q.release release hread
      have hcontains : repository.contains q.release := by
        rw [contains, hfile]
        rfl
      simp only [load, hread, reading, checkPath_of_contains hcontains, hfile, Except.bind, hdecode]
  | none =>
      cases hpath : repository.checkPath q.release with
      | error fault => simp only [load, hread, hpath, reading, Except.bind]
      | ok _ =>
          cases hfile : repository.file? q.release with
          | none => simp only [load, hread, hpath, hfile, reading, Except.bind]
          | some text =>
              cases hdecode : decodeRelease q.release text with
              | error fault => simp only [load, hread, hpath, hfile, hdecode, reading, Except.bind]
              | ok release => simp only [load, hread, hpath, hfile, hdecode, reading, Except.bind]

section Package

variable (h : ∀ key, key.package = q.package → first.AgreesOn second key)

include h

theorem contains_eq_of_agrees :
    (fun minor => second.contains (withMinor q minor)) =
      fun minor => first.contains (withMinor q minor) := by
  funext minor
  exact (h (withMinor q minor) rfl).contains_eq

theorem highest_eq_of_agrees : second.highest q = first.highest q := by
  have hfirst := first.contains_after_highest q
  have hsecond := second.contains_after_highest q
  have hnext := h (withMinor q ((second.highest q).version.minor + 1)) rfl
  rw [hnext.contains_eq] at hsecond
  unfold highest at hfirst hsecond ⊢
  rw [contains_eq_of_agrees h] at hsecond ⊢
  exact congrArg (withMinor q) (highestMinor_eq hfirst hsecond)

theorem lowest_eq_of_agrees : second.lowest q = first.lowest q := by
  unfold lowest
  rw [contains_eq_of_agrees h]

end Package

theorem checkRequest_eq_of_agrees {request : String} (force : Bool)
    (h : ∀ q, QualifiedName.read request = .ok q → ∀ key, key.package = q.package →
      first.AgreesOn second key) :
    second.checkRequest request force = first.checkRequest request force := by
  cases hread : QualifiedName.read request with
  | error fault => simp only [checkRequest, hread, bind, Except.bind]
  | ok q =>
      have hq := h q hread
      have hholds := (hq q rfl).holds_eq
      have hhighest := highest_eq_of_agrees hq
      have hnext := hq (withMinor (first.highest q) ((first.highest q).version.minor + 1)) rfl
      simp only [checkRequest, hread, hholds, hhighest, hnext.path, bind, Except.bind]

end Repository

end HalBridge
