import HalBridge.Proofs.ConversionOutcome
import HalBridge.Proofs.ReleaseWindow

/-!
# Requests for a release that is not the newest

Unless it is forced, a request is refused if the search upwards finds anything newer. The search
ends at the first minor version that is missing, so the release before a gap passes as the newest
one however many there are after the gap. What a refusal names is the last release before the first
gap.
-/

namespace HalBridge

namespace Repository

variable {repository : Repository} {q : QualifiedName}

/-- The package of `q` has a release with this minor version, and it is newer than `q`. -/
def Newer (repository : Repository) (q : QualifiedName) (minor : Nat) : Prop :=
  q.version.minor < minor ∧ repository.contains (withMinor q minor)

theorem highest_eq_withMinor (repository : Repository) (q : QualifiedName) :
    repository.highest q = withMinor q (repository.highest q).version.minor := rfl

theorem highest_eq_self_iff :
    repository.highest q = q ↔ ¬repository.Newer q (q.version.minor + 1) := by
  constructor
  · intro hself hnewer
    have hend := repository.contains_after_highest q
    rw [hself, hnewer.2] at hend
    cases hend
  · intro hnone
    have hgreatest := (repository.isGreatest_highest q).1
    have hminor : (repository.highest q).version.minor = q.version.minor := by
      by_contra hne
      have hlt : q.version.minor < (repository.highest q).version.minor := by
        have := hgreatest.1
        omega
      exact hnone ⟨by omega, hgreatest.2 _ (by omega) hlt⟩
    rw [highest_eq_withMinor, hminor]
    rfl

theorem newer_highest (h : repository.highest q ≠ q) :
    repository.Newer q (repository.highest q).version.minor := by
  obtain ⟨hle, hall⟩ := (repository.isGreatest_highest q).1
  have hlt : q.version.minor < (repository.highest q).version.minor := by
    refine Nat.lt_of_le_of_ne hle fun hminor => h ?_
    rw [highest_eq_withMinor, ← hminor]
    rfl
  exact ⟨hlt, hall _ hlt le_rfl⟩

/-- Without gaps the next minor version is the first to be there if any newer one is. -/
theorem newer_succ_iff (hunbroken : ∀ minor, repository.Newer q minor →
    repository.UnbrokenAbove q minor) :
    repository.Newer q (q.version.minor + 1) ↔ ∃ minor, repository.Newer q minor := by
  constructor
  · exact fun hnewer => ⟨_, hnewer⟩
  · rintro ⟨minor, hnewer⟩
    have hlt := hnewer.1
    exact ⟨by omega, (hunbroken minor hnewer).2 _ (by omega) (by omega)⟩

end Repository

namespace Conversion

open Repository

variable {repository : Repository} {request : String} {q : QualifiedName}

/-- Of all questions that the search upwards asks only the last one can fail, and that one is asked
in every case. -/
theorem checkRequest_answers (hread : QualifiedName.read request = .ok q)
    (hq : q.namesType = false) (hholds : repository.holds q = .ok true) :
    repository.Answers (repository.AsksAbove q) (repository.checkRequest request false)
      (if repository.highest q = q then .ok q
        else .error (.input (.outdated (repository.highest q) q))) := by
  have hchecked : repository.checkRequest request false = _ :=
    checkRequest_of_present hread hq hholds
  have hnext : withMinor (repository.highest q) ((repository.highest q).version.minor + 1) =
      withMinor q ((repository.highest q).version.minor + 1) := rfl
  rw [if_neg Bool.false_ne_true, hnext] at hchecked
  constructor
  · intro hasked
    rw [hchecked, hasked _ (.next (repository.isGreatest_highest q).1)]
    rfl
  · intro key fault hasked hpath
    rw [hasked.eq_of_error hpath] at hpath
    rw [hchecked, hpath]
    rfl

/-- A request for a release that exists is accepted if and only if the next minor version is
missing, and otherwise the refusal names the newest release before the first gap. If there is no
gap above the release, then this accepts exactly the newest one. All this needs that the releases
on the way up can be asked for; a request for which one of them cannot ends with its fault. -/
theorem checkRequest_accepts_before_gap (hread : QualifiedName.read request = .ok q)
    (hq : q.namesType = false) (hholds : repository.holds q = .ok true) :
    (∀ key fault, repository.AsksAbove q key → repository.checkPath key = .error fault →
      repository.checkRequest request false = .error fault) ∧
    ((∀ key, repository.AsksAbove q key → repository.checkPath key = .ok ()) →
      (repository.checkRequest request false = .ok q ↔
        ¬repository.Newer q (q.version.minor + 1)) ∧
      (repository.Newer q (q.version.minor + 1) →
        ∃ newest, IsGreatest {high | repository.UnbrokenAbove q high} newest ∧
          repository.Newer q newest ∧
          repository.checkRequest request false =
            .error (.input (.outdated (withMinor q newest) q))) ∧
      ((∀ minor, repository.Newer q minor → repository.UnbrokenAbove q minor) →
        (repository.checkRequest request false = .ok q ↔
          ¬∃ minor, repository.Newer q minor))) := by
  have hanswers := checkRequest_answers hread hq hholds
  refine ⟨hanswers.refused, fun hasked => ?_⟩
  have hchecked := hanswers.answered hasked
  have haccepts : repository.checkRequest request false = .ok q ↔
      ¬repository.Newer q (q.version.minor + 1) := by
    rw [← highest_eq_self_iff, hchecked]
    by_cases hself : repository.highest q = q
    · rw [if_pos hself]
      exact iff_of_true rfl hself
    · rw [if_neg hself]
      exact iff_of_false (fun hok => by cases hok) hself
  refine ⟨haccepts, fun hnewer => ?_, fun hunbroken => ?_⟩
  · have hself : repository.highest q ≠ q := by
      rw [Ne, highest_eq_self_iff]
      exact not_not_intro hnewer
    refine ⟨_, repository.isGreatest_highest q, newer_highest hself, ?_⟩
    rw [hchecked, if_neg hself]
    rfl
  · rw [haccepts, newer_succ_iff hunbroken]

/-- With releases 1.0, 1.2 and 1.3 a request for 1.0 is accepted, although there are newer ones, and
one for 1.2 is refused. -/
theorem checkRequest_accepts_before_gap_gappedReleases :
    gappedReleases.Newer ⟨"p", ⟨1, 0⟩, some "", []⟩ 3 ∧
    gappedReleases.checkRequest "p@1.0" false = .ok ⟨"p", ⟨1, 0⟩, some "", []⟩ ∧
    gappedReleases.checkRequest "p@1.2" false =
      .error (.input (.outdated ⟨"p", ⟨1, 3⟩, some "", []⟩ ⟨"p", ⟨1, 2⟩, some "", []⟩)) := by
  refine ⟨⟨by decide, by decide +kernel⟩, ?_, ?_⟩
  · have hread : QualifiedName.read "p@1.0" = .ok ⟨"p", ⟨1, 0⟩, some "", []⟩ := by decide +kernel
    have hholds : gappedReleases.holds ⟨"p", ⟨1, 0⟩, some "", []⟩ = .ok true := by decide +kernel
    obtain ⟨-, haccepts⟩ := checkRequest_accepts_before_gap hread rfl hholds
    obtain ⟨hiff, -⟩ := haccepts fun key hasked => hasked.checkPath_ok (by decide +kernel)
    refine hiff.mpr fun hnext => ?_
    exact absurd hnext.2 (by decide +kernel)
  · have hread : QualifiedName.read "p@1.2" = .ok ⟨"p", ⟨1, 2⟩, some "", []⟩ := by decide +kernel
    have hholds : gappedReleases.holds ⟨"p", ⟨1, 2⟩, some "", []⟩ = .ok true := by decide +kernel
    obtain ⟨-, hrefuses⟩ := checkRequest_accepts_before_gap hread rfl hholds
    obtain ⟨-, hnewest, -⟩ := hrefuses fun key hasked => hasked.checkPath_ok (by decide +kernel)
    obtain ⟨newest, hgreatest, -, hchecked⟩ := hnewest ⟨by decide, by decide +kernel⟩
    rw [hchecked, hgreatest.unique (gappedReleases.isGreatest_highest _)]
    decide +kernel

end Conversion

end HalBridge
