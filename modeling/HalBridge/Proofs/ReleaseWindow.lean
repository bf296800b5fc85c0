import HalBridge.Proofs.NameTexts
import HalBridge.Proofs.RepositoryAgreement
import HalBridge.Proofs.SampleDocuments
import Mathlib.Order.Bounds.Basic

/-!
# The releases around a release

Around a release the minor versions are tried one by one, downwards and upwards, and the first that
is missing ends the search. So what is found is the unbroken block of minor versions around the
release, however many more there are beyond a gap. Whether a release exists cannot be asked if its
path is too long. A path grows with the minor version, so on the way down the first question decides
and on the way up the last one.
-/

namespace HalBridge

/-! ### Lengths of paths -/

theorem utf8ByteSize_toString_le {m n : Nat} (h : m ≤ n) :
    (toString m).utf8ByteSize ≤ (toString n).utf8ByteSize := by
  have hdigit : ∀ k < 10, (Nat.digitChar k).utf8Size = 1 := by decide
  change m.repr.utf8ByteSize ≤ n.repr.utf8ByteSize
  induction n using Nat.strongRecOn generalizing m with
  | ind n ih =>
      by_cases hn : n < 10
      · have hm : m < 10 := by omega
        rw [Nat.repr_of_lt hm, Nat.repr_of_lt hn, String.utf8ByteSize_singleton,
          String.utf8ByteSize_singleton, hdigit m hm, hdigit n hn]
      · rw [Nat.repr_of_ge (by omega : 10 ≤ n), String.utf8ByteSize_append,
          String.utf8ByteSize_singleton, hdigit _ (Nat.mod_lt n (by decide))]
        by_cases hm : m < 10
        · rw [Nat.repr_of_lt hm, String.utf8ByteSize_singleton, hdigit m hm]
          omega
        · rw [Nat.repr_of_ge (by omega : 10 ≤ m), String.utf8ByteSize_append,
            String.utf8ByteSize_singleton, hdigit _ (Nat.mod_lt m (by decide))]
          have hprefix := ih (n / 10) (by omega) (Nat.div_le_div_right h)
          omega

/-- The text of a path ends in its last part. -/
theorem Path.exists_toText_child (path : Path) :
    ∃ front, ∀ name, (path.child name).toText = front ++ name := by
  by_cases hparts : path.parts = []
  · refine ⟨path.anchor, fun name => ?_⟩
    simp [toText, child, hparts]
  · refine ⟨path.anchor ++ String.intercalate "/" path.parts ++ "/", fun name => ?_⟩
    simp [toText, child, String.intercalate_append_of_ne_nil hparts, String.append_assoc]

/-- A path is too long as a whole, or because of a directory on the way, or because of its last
part. -/
theorem Disk.find_child_tooLong_iff {disk : Disk} {path : Path} {name : String}
    (hname : name ≠ "..") :
    disk.find (path.child name) = .error .nameTooLong ↔
      Char.ofNat 0 ∉ (path.child name).toText.toList ∧
        (pathLimit < (path.child name).toText.utf8ByteSize ∨
          path.parts.foldlM disk.enter (if path.isAbsolute then [] else disk.working) =
            .error .nameTooLong ∨
          (∃ directory, path.parts.foldlM disk.enter
            (if path.isAbsolute then [] else disk.working) = .ok directory) ∧
            nameLimit < name.utf8ByteSize) := by
  have hparts : (path.child name).parts = path.parts ++ [name] := rfl
  have hstart : (path.child name).isAbsolute = path.isAbsolute := rfl
  unfold find place checkText
  rw [hparts, hstart, List.dropLast_concat, List.getLast?_concat]
  by_cases hnull : Char.ofNat 0 ∈ (path.child name).toText.toList
  · simp [hnull, bind, Except.bind, Except.map]
  · by_cases hlong : pathLimit < (path.child name).toText.utf8ByteSize
    · simp [hnull, hlong, bind, Except.bind, Except.map]
    · cases hfold : path.parts.foldlM disk.enter
        (if path.isAbsolute then [] else disk.working) with
      | error error => simp [hnull, hlong, hfold, bind, Except.bind, Except.map]
      | ok directory =>
          by_cases hlast : nameLimit < name.utf8ByteSize
          · simp [hnull, hlong, hfold, hlast, hname, bind, Except.bind, Except.map, throw,
              throwThe, MonadExceptOf.throw]
          · simp [hnull, hlong, hfold, hlast, hname, bind, Except.bind, Except.map, pure,
              Except.pure]

namespace Repository

variable {repository : Repository} {q key low high : QualifiedName} {k m : Nat} {fault : Fault}

theorem exists_fileName_withMinor (q : QualifiedName) :
    ∃ front, ∀ minor, fileName (withMinor q minor) = front ++ toString minor ++ ".json" := by
  refine ⟨(Text.split '/' q.package).getLast?.getD "" ++ "@" ++ toString q.version.major ++ ".",
    fun minor => ?_⟩
  simp [fileName, withMinor, QualifiedName.withVersion, Version.toText, String.append_assoc]

theorem checkPath_eq_error_iff :
    repository.checkPath q = .error fault ↔
      fault = .path .nameTooLong ∧
        repository.disk.find (repository.path q) = .error .nameTooLong := by
  unfold checkPath
  split
  · rename_i hfind
    simp [hfind, eq_comm]
  · rename_i hfind
    simp only [reduceCtorEq, false_iff, not_and]
    exact fun _ => hfind

/-- If the path of an older minor version is too long, then so is that of a newer one. -/
theorem checkPath_error_of_le (hle : k ≤ m)
    (h : repository.checkPath (withMinor q k) = .error fault) :
    repository.checkPath (withMinor q m) = .error fault := by
  obtain ⟨front, hfront⟩ := (repository.directory q).exists_toText_child
  obtain ⟨lead, hlead⟩ := exists_fileName_withMinor q
  have hpath : ∀ minor, repository.path (withMinor q minor) =
      (repository.directory q).child (fileName (withMinor q minor)) := fun _ => rfl
  have hname : ∀ minor, fileName (withMinor q minor) ≠ ".." := fun _ => fileName_ne_back _
  have hsize := utf8ByteSize_toString_le hle
  -- A number is written in digits, so only the rest of a path can have a null character.
  have hnull : ∀ minor : Nat, Char.ofNat 0 ∉ (front ++ (lead ++ toString minor ++ ".json")).toList ↔
      Char.ofNat 0 ∉ front.toList ∧ Char.ofNat 0 ∉ lead.toList := by
    intro minor
    have hdigits : Char.ofNat 0 ∉ (toString minor).toList := by
      intro hmem
      exact absurd (isDigit_of_mem_toString hmem) (by decide)
    have hjson : Char.ofNat 0 ∉ ".json".toList := by decide
    simp only [String.toList_append, List.mem_append, hdigits, hjson, or_false, not_or]
  rw [checkPath_eq_error_iff, hpath, Disk.find_child_tooLong_iff (hname _), hfront, hlead,
    hnull] at h ⊢
  obtain ⟨hfault, hfree, hlong⟩ := h
  refine ⟨hfault, hfree, ?_⟩
  simp only [String.utf8ByteSize_append] at hlong ⊢
  rcases hlong with hlong | hlong | ⟨hdirectory, hlong⟩
  · exact Or.inl (by omega)
  · exact Or.inr (Or.inl hlong)
  · exact Or.inr (Or.inr ⟨hdirectory, by omega⟩)

/-! ### Unbroken minor versions -/

/-- Every minor version from `low` up to that of `q`, which is left out, is there. -/
def UnbrokenBelow (repository : Repository) (q : QualifiedName) (low : Nat) : Prop :=
  low ≤ q.version.minor ∧
    ∀ minor, low ≤ minor → minor < q.version.minor → repository.contains (withMinor q minor)

/-- Every minor version from that of `q`, which is left out, up to `high` is there. -/
def UnbrokenAbove (repository : Repository) (q : QualifiedName) (high : Nat) : Prop :=
  q.version.minor ≤ high ∧
    ∀ minor, q.version.minor < minor → minor ≤ high → repository.contains (withMinor q minor)

theorem isLeast_lowestMinor (present : Nat → Bool) (minor : Nat) :
    IsLeast {low | low ≤ minor ∧ ∀ k, low ≤ k → k < minor → present k}
      (lowestMinor present minor) := by
  induction minor with
  | zero => exact ⟨⟨le_rfl, fun k _ hk => absurd hk (Nat.not_lt_zero k)⟩, fun _ _ => Nat.zero_le _⟩
  | succ minor ih =>
      obtain ⟨⟨hle, hall⟩, hleast⟩ := ih
      unfold lowestMinor
      by_cases hpresent : present minor
      · rw [if_pos hpresent]
        refine ⟨⟨by omega, fun k hk hlt => ?_⟩, fun low hlow => ?_⟩
        · by_cases hlast : k = minor
          · rwa [hlast]
          · exact hall k hk (by omega)
        · by_cases hlast : low ≤ minor
          · exact hleast ⟨hlast, fun k hk hlt => hlow.2 k hk (by omega)⟩
          · omega
      · rw [if_neg hpresent]
        refine ⟨⟨le_rfl, fun k hk hlt => by omega⟩, fun low hlow => ?_⟩
        by_contra hlt
        exact hpresent (hlow.2 minor (by omega) (by omega))

theorem highestMinor_unbroken (present : Nat → Bool) (bound minor : Nat) :
    minor ≤ highestMinor present bound minor ∧
      ∀ k, minor < k → k ≤ highestMinor present bound minor → present k := by
  induction bound generalizing minor with
  | zero => exact ⟨le_rfl, fun k hk hle => absurd hle (Nat.not_le.mpr hk)⟩
  | succ bound ih =>
      unfold highestMinor
      by_cases hpresent : present (minor + 1)
      · rw [if_pos hpresent]
        obtain ⟨hle, hall⟩ := ih (minor + 1)
        refine ⟨by omega, fun k hk hhigh => ?_⟩
        by_cases hfirst : k = minor + 1
        · rwa [hfirst]
        · exact hall k (by omega) hhigh
      · rw [if_neg hpresent]
        exact ⟨le_rfl, fun k hk hle => absurd hle (Nat.not_le.mpr hk)⟩

theorem isLeast_lowest (repository : Repository) (q : QualifiedName) :
    IsLeast {low | repository.UnbrokenBelow q low} (repository.lowest q).version.minor :=
  isLeast_lowestMinor (fun minor => repository.contains (withMinor q minor)) q.version.minor

theorem isGreatest_highest (repository : Repository) (q : QualifiedName) :
    IsGreatest {high | repository.UnbrokenAbove q high} (repository.highest q).version.minor := by
  refine ⟨highestMinor_unbroken (fun minor => repository.contains (withMinor q minor))
    repository.disk.size q.version.minor, fun high hhigh => ?_⟩
  by_contra hlt
  have hle : q.version.minor ≤ (repository.highest q).version.minor :=
    (highestMinor_unbroken (fun minor => repository.contains (withMinor q minor))
      repository.disk.size q.version.minor).1
  have hnext := hhigh.2 ((repository.highest q).version.minor + 1) (by omega) (by omega)
  rw [repository.contains_after_highest q] at hnext
  cases hnext

/-! ### What is asked -/

/-- An action that asks for releases ends as `expected` if all of them can be asked for; otherwise
it ends with the fault of one that cannot. -/
structure Answers {α : Type} (repository : Repository) (asked : QualifiedName → Prop)
    (outcome expected : Except Fault α) : Prop where
  answered : (∀ key, asked key → repository.checkPath key = .ok ()) → outcome = expected
  refused : ∀ key fault, asked key → repository.checkPath key = .error fault →
    outcome = .error fault

/-- Stepping down from `q` leads to the question for a release. -/
inductive AsksBelow (repository : Repository) (q : QualifiedName) : QualifiedName → Prop
  | next {minor : Nat} (h : repository.UnbrokenBelow q (minor + 1)) :
      AsksBelow repository q (withMinor q minor)

/-- Stepping up from `q` leads to the question for a release. -/
inductive AsksAbove (repository : Repository) (q : QualifiedName) : QualifiedName → Prop
  | next {minor : Nat} (h : repository.UnbrokenAbove q minor) :
      AsksAbove repository q (withMinor q (minor + 1))

theorem checkPath_ok_or_tooLong (repository : Repository) (key : QualifiedName) :
    repository.checkPath key = .ok () ∨
      repository.checkPath key = .error (.path .nameTooLong) := by
  cases hpath : repository.checkPath key with
  | ok _ => exact Or.inl rfl
  | error fault => exact Or.inr (congrArg _ (checkPath_eq_error_iff.mp hpath).1)

/-- If any question on the way down fails, then so does the first one. -/
theorem AsksBelow.first_error (h : repository.AsksBelow q key)
    (hpath : repository.checkPath key = .error fault) :
    q.version.minor ≠ 0 ∧
      repository.checkPath (withMinor q (q.version.minor - 1)) = .error fault := by
  obtain @⟨minor, hbelow⟩ := h
  have hlt := hbelow.1
  exact ⟨by omega, checkPath_error_of_le (by omega) hpath⟩

/-- Only the last question on the way up can fail, since what is there can be asked for. -/
theorem AsksAbove.eq_of_error (h : repository.AsksAbove q key)
    (hpath : repository.checkPath key = .error fault) :
    key = withMinor q ((repository.highest q).version.minor + 1) := by
  obtain @⟨minor, hhighest⟩ := h
  have hle := (repository.isGreatest_highest q).2 hhighest
  by_cases hlast : minor = (repository.highest q).version.minor
  · rw [hlast]
  · have hcontains : repository.contains (withMinor q (minor + 1)) :=
      (repository.isGreatest_highest q).1.2 (minor + 1) (by have := hhighest.1; omega) (by omega)
    rw [checkPath_of_contains hcontains] at hpath
    cases hpath

theorem AsksAbove.checkPath_ok (h : repository.AsksAbove q key)
    (hlast : repository.checkPath (withMinor q ((repository.highest q).version.minor + 1)) =
      .ok ()) :
    repository.checkPath key = .ok () := by
  rcases repository.checkPath_ok_or_tooLong key with hpath | hpath
  · exact hpath
  · rw [h.eq_of_error hpath, hlast] at hpath
    cases hpath

theorem range_eq (repository : Repository) (q : QualifiedName) :
    repository.range q =
      (if q.version.minor = 0 then .ok ()
        else repository.checkPath (withMinor q (q.version.minor - 1))).bind fun _ =>
      (repository.checkPath (withMinor q ((repository.highest q).version.minor + 1))).bind fun _ =>
      .ok (repository.lowest q, repository.highest q) := by
  have hnext : withMinor (repository.highest q) ((repository.highest q).version.minor + 1) =
      withMinor q ((repository.highest q).version.minor + 1) := rfl
  unfold range
  dsimp only
  rw [hnext]
  by_cases hzero : q.version.minor = 0
  · simp only [hzero, ne_eq, not_true_eq_false, if_false, if_true, bind, pure, Except.pure,
      Except.bind]
  · simp only [hzero, ne_eq, not_false_eq_true, if_false, if_true, bind, pure, Except.pure]

theorem range_answers (repository : Repository) (q : QualifiedName) :
    repository.Answers (fun key => repository.AsksBelow q key ∨ repository.AsksAbove q key)
      (repository.range q) (.ok (repository.lowest q, repository.highest q)) := by
  have hlast : repository.AsksAbove q
      (withMinor q ((repository.highest q).version.minor + 1)) :=
    .next (repository.isGreatest_highest q).1
  constructor
  · intro hasked
    rw [range_eq, hasked _ (Or.inr hlast)]
    by_cases hzero : q.version.minor = 0
    · rw [if_pos hzero]
      rfl
    · have hfirst : repository.AsksBelow q (withMinor q (q.version.minor - 1)) := by
        refine .next ⟨by omega, fun minor hle hlt => ?_⟩
        omega
      rw [if_neg hzero, hasked _ (Or.inl hfirst)]
      rfl
  · intro key fault hasked hpath
    rw [range_eq]
    rcases hasked with hbelow | habove
    · obtain ⟨hzero, hfirst⟩ := hbelow.first_error hpath
      rw [if_neg hzero, hfirst]
      rfl
    · rw [habove.eq_of_error hpath] at hpath
      by_cases hzero : q.version.minor = 0
      · rw [if_pos hzero, hpath]
        rfl
      · rw [if_neg hzero, hpath]
        obtain ⟨rfl, -⟩ := checkPath_eq_error_iff.mp hpath
        rcases repository.checkPath_ok_or_tooLong (withMinor q (q.version.minor - 1)) with
          hfirst | hfirst
        · rw [hfirst]
          rfl
        · rw [hfirst]
          rfl

/-! ### Releases from one minor version to another -/

/-- `found` are the releases that are there from the minor version of `low` up to that of `high`,
oldest first. -/
structure ListsBetween (repository : Repository) (low high : QualifiedName)
    (found : List QualifiedName) : Prop where
  ascending : found.Pairwise fun older newer => older.version.minor < newer.version.minor
  mem_iff : ∀ key, key ∈ found ↔
    (key.release = key ∧ key.package = low.package ∧ key.version.major = low.version.major ∧
      low.version.minor ≤ key.version.minor ∧ key.version.minor ≤ high.version.minor) ∧
    repository.contains key

/-- The releases that are asked for between two others. -/
def AsksBetween (low high key : QualifiedName) : Prop :=
  ∃ minor, low.version.minor ≤ minor ∧ minor ≤ high.version.minor ∧
    key = withMinor low.release minor

/-- The releases with the minor versions from `low` up to `high` that are there. -/
def between (repository : Repository) (q : QualifiedName) (low high : Nat) : List QualifiedName :=
  ((List.range' low (high + 1 - low)).map (withMinor q)).filter repository.contains

theorem listsBetween_between (repository : Repository) (low high : QualifiedName) :
    repository.ListsBetween low high
      (repository.between low.release low.version.minor high.version.minor) := by
  unfold between
  constructor
  · refine List.Pairwise.filter _ ?_
    rw [List.pairwise_map]
    exact List.pairwise_lt_range'
  · intro key
    rw [List.mem_filter, List.mem_map]
    refine and_congr_left fun _ => ?_
    constructor
    · rintro ⟨minor, hminor, rfl⟩
      rw [List.mem_range'_1] at hminor
      exact ⟨rfl, rfl, rfl, hminor.1, by change minor ≤ _; omega⟩
    · rintro ⟨hrelease, hpackage, hmajors, hlow, hhigh⟩
      refine ⟨key.version.minor, List.mem_range'_1.mpr ⟨hlow, by omega⟩, ?_⟩
      rw [← hrelease]
      simp only [withMinor, QualifiedName.withVersion, QualifiedName.release, hpackage, ← hmajors]

theorem between_of_lt (h : m < k) : repository.between q k m = [] := by
  rw [between, Nat.sub_eq_zero_of_le h, List.range'_zero, List.map_nil, List.filter_nil]

theorem between_of_le (h : k ≤ m) :
    repository.between q k m =
      if repository.contains (withMinor q k) then withMinor q k :: repository.between q (k + 1) m
      else repository.between q (k + 1) m := by
  have hlength : m + 1 - k = (m + 1 - (k + 1)) + 1 := by omega
  rw [between, hlength, List.range'_succ, List.map_cons, List.filter_cons]
  rfl

theorem listFrom_of_le {bound : Nat} {high : Version} (h : key.version ≤ high) :
    repository.listFrom high (bound + 1) key =
      (repository.holds key).bind fun present =>
        (repository.listFrom high bound key.up).bind fun newer =>
          .ok (if present then key :: newer else newer) := by
  rw [listFrom, if_pos h]
  rfl

theorem listFrom_of_not_le {bound : Nat} {high : Version} (h : ¬key.version ≤ high) :
    repository.listFrom high bound key = .ok [] := by
  cases bound with
  | zero => exact if_neg h
  | succ bound => exact if_neg h

/-- As long as there are steps for all minor versions, stepping up finds those that are there. -/
theorem listFrom_answers {bound : Nat} {high : Version} (hmajor : key.version.major = high.major)
    (hbound : high.minor + 1 - key.version.minor ≤ bound) :
    repository.Answers
      (fun asked => ∃ minor, key.version.minor ≤ minor ∧ minor ≤ high.minor ∧
        asked = withMinor key minor)
      (repository.listFrom high bound key)
      (.ok (repository.between key key.version.minor high.minor)) := by
  have hend : ∀ {bound key}, ¬key.version.minor ≤ high.minor → key.version.major = high.major →
      repository.Answers
        (fun asked => ∃ minor, key.version.minor ≤ minor ∧ minor ≤ high.minor ∧
          asked = withMinor key minor)
        (repository.listFrom high bound key)
        (.ok (repository.between key key.version.minor high.minor)) := by
    intro bound key hlt hmajor
    rw [listFrom_of_not_le (by rw [Version.le_def]; omega), between_of_lt (by omega)]
    refine ⟨fun _ => rfl, ?_⟩
    rintro asked fault ⟨minor, hle, hhigh, -⟩
    omega
  induction bound generalizing key with
  | zero => exact hend (by omega) hmajor
  | succ bound ih =>
      by_cases hle : key.version.minor ≤ high.minor
      · have hup : key.up.version.minor = key.version.minor + 1 := rfl
        have hrest := @ih key.up hmajor (by omega)
        have hself : withMinor key key.version.minor = key := rfl
        have hsame : ∀ minor, withMinor key.up minor = withMinor key minor := fun _ => rfl
        rw [listFrom_of_le (Version.le_def.mpr (Or.inr ⟨hmajor, hle⟩)), between_of_le hle, hself]
        constructor
        · intro hasked
          have hfirst := hasked key ⟨key.version.minor, le_rfl, hle, rfl⟩
          have hnewer := hrest.answered fun asked hup => hasked asked <| by
            obtain ⟨minor, hminor, hhigh, rfl⟩ := hup
            exact ⟨minor, by omega, hhigh, rfl⟩
          rw [hnewer, holds, hfirst]
          rfl
        · rintro asked fault ⟨minor, hminor, hhigh, rfl⟩ hpath
          rcases repository.checkPath_ok_or_tooLong key with hfirst | hfirst
          · have hlater : minor ≠ key.version.minor := by
              rintro rfl
              rw [hself, hfirst] at hpath
              cases hpath
            have hnewer := hrest.refused (withMinor key minor) fault
              ⟨minor, by omega, hhigh, rfl⟩ hpath
            rw [hnewer, holds, hfirst]
            rfl
          · obtain ⟨rfl, -⟩ := checkPath_eq_error_iff.mp hpath
            rw [holds, hfirst]
            rfl
      · exact hend hle hmajor

theorem listed_answers (repository : Repository)
    (hmajor : low.version.major = high.version.major) :
    repository.Answers (AsksBetween low high) (repository.listed low high)
      (.ok (repository.between low.release low.version.minor high.version.minor)) := by
  unfold listed
  rw [if_pos hmajor]
  exact @listFrom_answers repository low.release _ high.version hmajor le_rfl

/-- Towards a higher major version there is always one more minor version to try. -/
theorem listed_ne_ok_of_major_lt {found : List QualifiedName}
    (hmajor : low.version.major < high.version.major) :
    repository.listed low high ≠ .ok found := by
  have hloop : ∀ bound key found, key.version.major < high.version.major →
      repository.listFrom high.version bound key ≠ .ok found := by
    intro bound
    induction bound with
    | zero =>
        intro key found hlt hlisted
        rw [listFrom, if_pos (Version.le_def.mpr (Or.inl hlt))] at hlisted
        cases hlisted
    | succ bound ih =>
        intro key found hlt hlisted
        rw [listFrom_of_le (Version.le_def.mpr (Or.inl hlt))] at hlisted
        cases hholds : repository.holds key with
        | error fault =>
            rw [hholds] at hlisted
            cases hlisted
        | ok present =>
            cases hnewer : repository.listFrom high.version bound key.up with
            | error fault =>
                rw [hholds, hnewer] at hlisted
                cases hlisted
            | ok newer => exact ih key.up newer hlt hnewer
  exact hloop _ _ found hmajor

/-! ### The window of a release -/

/-- The releases of the package of `q` with the minor versions from `low` up to that of `q`. -/
def block (q : QualifiedName) (low : Nat) : List QualifiedName :=
  (List.range' low (q.version.minor + 1 - low)).map (withMinor q.release)

/-- The unbroken block of releases that ends at `q`. -/
def window (repository : Repository) (q : QualifiedName) : List QualifiedName :=
  block q (repository.lowest q).version.minor

theorem release_of_mem_block {low : Nat} : ∀ key ∈ block q low, key.release = key := by
  intro key hkey
  obtain ⟨minor, -, rfl⟩ := List.mem_map.mp hkey
  rfl

theorem package_of_mem_block {low : Nat} (h : key ∈ block q low) : key.package = q.package := by
  obtain ⟨minor, -, rfl⟩ := List.mem_map.mp h
  rfl

theorem nodup_block {low : Nat} : (block q low).Nodup := by
  refine List.Nodup.map (fun minor other hsame => ?_) List.nodup_range'
  exact congrArg (fun key : QualifiedName => key.version.minor) hsame

/-- A release has the file of every type in it. -/
theorem path_release (repository : Repository) (q : QualifiedName) :
    repository.path q.release = repository.path q := rfl

theorem contains_release (repository : Repository) (q : QualifiedName) :
    repository.contains q.release = repository.contains q := by
  unfold contains file?
  rw [path_release repository q]

/-- What is found below a release that is there has no gap. -/
theorem between_eq_window (hq : repository.contains q) :
    repository.between (repository.lowest q).release (repository.lowest q).version.minor
        q.version.minor =
      repository.window q := by
  obtain ⟨hle, hall⟩ := (repository.isLeast_lowest q).1
  refine List.filter_eq_self.mpr fun key hkey => ?_
  obtain ⟨minor, hminor, rfl⟩ := List.mem_map.mp hkey
  rw [List.mem_range'_1] at hminor
  have hkey : withMinor (repository.lowest q).release minor = (withMinor q minor).release := rfl
  rw [hkey, contains_release]
  by_cases hlast : minor = q.version.minor
  · rw [hlast]
    exact hq
  · exact hall minor hminor.1 (by omega)

/-- The releases below a release that is there have paths no longer than its own, so all of them
can be asked for. -/
theorem covered_eq_window (hq : repository.contains q) :
    repository.covered q = .ok (repository.window q) := by
  have hmajor : (repository.lowest q).version.major = q.version.major := rfl
  rw [covered, ← between_eq_window hq]
  refine (listed_answers repository hmajor).answered ?_
  rintro key ⟨minor, -, hle, rfl⟩
  rcases repository.checkPath_ok_or_tooLong (withMinor (repository.lowest q).release minor) with
    hpath | hpath
  · exact hpath
  · have hlonger := checkPath_error_of_le hle hpath
    have hself : withMinor (repository.lowest q).release q.version.minor = q.release := rfl
    rw [← contains_release] at hq
    rw [hself, checkPath_of_contains hq] at hlonger
    cases hlonger

theorem contains_of_mem_window (hq : repository.contains q) :
    ∀ key ∈ repository.window q, repository.contains key := by
  rw [← between_eq_window hq]
  exact fun key hkey => (List.mem_filter.mp hkey).2

/-- Releases 1.0, 1.2 and 1.3 of a package. -/
def gappedReleases : Repository :=
  Sample.repository
    [Sample.release "p" "1.0" [], Sample.release "p" "1.2" [], Sample.release "p" "1.3" []]

end Repository

end HalBridge
