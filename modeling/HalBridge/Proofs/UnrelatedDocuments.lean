import HalBridge.Proofs.RunTypes
import HalBridge.Proofs.SampleDocuments
import HalBridge.Proofs.TwinLoading

/-!
# Documents that a run does not ask for

A run asks for releases of the requested package and for the releases that are named in the
documents it loads. Two repositories that agree on these give the same result, whatever else is in
them, or the same fault.
-/

namespace HalBridge

namespace Resolver

variable {pair : Pairing}

theorem Mirrored.answer_eq {α : Type} {n m : Nat} {left right : EStateM.Result Fault Resolver α}
    (h : Mirrored pair n m left right) : Outcome.answer left = Outcome.answer right := by
  cases h with
  | ok => rfl
  | error => rfl

theorem collectReleases_follows (hcovers : pair.Covers) (releases : List QualifiedName)
    (collection : Collection) :
    Follows pair (pair.first.disk.size + 1) (pair.second.disk.size + 1)
      (∀ release ∈ releases, pair.Agrees release.release) (collectReleases releases collection)
      (collectReleases releases collection) := by
  induction releases generalizing collection with
  | nil => exact follows_pure _
  | cons release rest ih =>
      unfold collectReleases
      refine ((loadRelease_follows hcovers release).imp ?_).bind fun roots => ?_
      · exact fun hagrees => hagrees release List.mem_cons_self
      · refine follows_get_bind fun r repository => ?_
        dsimp only
        split
        · exact follows_throw _
        · exact (ih _).imp fun hagrees => (List.forall_mem_cons.mp hagrees).2

theorem collectTypes_follows (hcovers : pair.Covers) (releases : List QualifiedName) :
    Follows pair (pair.first.disk.size + 1) (pair.second.disk.size + 1)
      (∀ release ∈ releases, pair.Agrees release.release) (collectTypes releases)
      (collectTypes releases) := by
  unfold collectTypes
  exact (collectReleases_follows hcovers releases {}).bind fun _ =>
    follows_get_bind fun _ _ => follows_pure _

/-- The states that runs start from. -/
theorem twins_fresh (hfirst : pair.first.Faithful) (hsecond : pair.second.Faithful)
    (hhomes : pair.homes = []) :
    Twins pair (pair.first.disk.size + 1) (pair.second.disk.size + 1)
      { repository := pair.first } { repository := pair.second } := by
  have hsound : ∀ repository : Repository, repository.Faithful →
      Sound repository (repository.disk.size + 1) { repository } := by
    intro repository hfaithful
    refine ⟨⟨rfl, rfl⟩, hfaithful, ?_, List.nodup_nil, Nat.lt_succ_self _⟩
    exact fun _ hkey => absurd hkey List.not_mem_nil
  refine ⟨rfl, hsound _ hfirst, hsound _ hsecond, ?_⟩
  rw [hhomes]
  exact fun _ hhome => absurd hhome List.not_mem_nil

end Resolver

namespace Conversion

open Resolver

variable {pair : Pairing} {n m : Nat}

theorem commentNotes_follows (releases : List QualifiedName) (notes : Notes) :
    Follows pair n m (∀ release ∈ releases, pair.Agrees release.release)
      (commentNotes releases notes) (commentNotes releases notes) := by
  induction releases generalizing notes with
  | nil => exact follows_pure _
  | cons release rest ih =>
      unfold commentNotes
      refine ((document_follows release).imp ?_).bind fun document => ?_
      · exact fun hagrees => hagrees release List.mem_cons_self
      · cases document.unhandledComments with
        | none => exact follows_throw _
        | some comments => exact (ih _).imp fun hagrees => (List.forall_mem_cons.mp hagrees).2

theorem convert_follows (hcovers : pair.Covers) (q : QualifiedName)
    (releases : List QualifiedName) (registry : Registry) :
    Follows pair (pair.first.disk.size + 1) (pair.second.disk.size + 1)
      (∀ release ∈ releases, pair.Agrees release.release) (convert q releases registry)
      (convert q releases registry) := by
  unfold convert
  refine (commentNotes_follows releases {}).bind fun notes => ?_
  refine (collectTypes_follows hcovers releases).bind fun types => ?_
  refine follows_get_bind fun r repository => ?_
  dsimp only
  split
  · exact follows_throw _
  · exact follows_pure _

/-- **Unrelated documents.** If two repositories agree on the requested package and on what is
named in the documents that the run on the first one loads, then the run on the second one ends
with the same result or with the same fault. -/
theorem answer_eq_of_agreement (first second : Repository) (hfirst : first.Faithful)
    (hsecond : second.Faithful) (request : String) (force : Bool) (registry : Registry)
    (hpackage : ∀ q, QualifiedName.read request = .ok q → ∀ key, key.package = q.package →
      first.AgreesOn second key)
    (hnamed : ∀ home,
      (Outcome.state (run request force registry { repository := first })).isLoaded home →
      ∀ key ∈ first.namedReleases home, first.AgreesOn second key) :
    Outcome.answer (run request force registry { repository := first }) =
      Outcome.answer (run request force registry { repository := second }) := by
  let pair : Pairing := {
    first, second
    known := fun key =>
      (Outcome.state (run request force registry { repository := first })).isLoaded key }
  have hcovers : pair.Covers := hnamed
  have hloaded : ∀ key,
      (Outcome.state (run request force registry { repository := first })).isLoaded key →
        pair.known key := fun _ hkey => hkey
  have hsame := Repository.checkRequest_eq_of_agrees force hpackage
  cases hcheck : first.checkRequest request force with
  | error fault =>
      rw [run_of_refused hcheck, run_of_refused (hsame.trans hcheck)]
      rfl
  | ok q =>
      have hagrees := hpackage q (read_of_checkRequest hcheck)
      have hwindow : ∀ release ∈ first.window q, pair.Agrees release.release := by
        intro release hrelease _
        have hrequested : release.package = q.package :=
          Repository.package_of_mem_block hrelease
        exact hagrees release.release hrequested
      have hcovered : second.window q = first.window q := by
        rw [Repository.window, Repository.lowest_eq_of_agrees hagrees]
        rfl
      rw [run_of_accepted hcheck] at hloaded
      rw [run_of_accepted hcheck, run_of_accepted (hsame.trans hcheck), hcovered]
      exact ((convert_follows hcovers q (first.window q) registry).mirrors hwindow _ _
        (twins_fresh hfirst hsecond rfl) hloaded).answer_eq

/-- A release with a structure that refers to a release of another package. -/
def linkedReleases : Repository :=
  Sample.repository [
    Sample.release "p" "1.0" [Sample.struct "S" [("a", Sample.named "q@1.0::T")]],
    Sample.release "q" "1.0" [Sample.typeAlias "T" (Sample.plain "string")]]

/-- The same with one more file, which is no document. -/
def linkedReleasesAndStray : Repository where
  disk := { nodes := linkedReleases.disk.nodes ++ [(["r@1.0.json"], .file "]")] }

theorem answer_eq_of_agreement_linkedReleases :
    ∃ conversion,
      Outcome.answer (run "p@1.0" false .default { repository := linkedReleases }) =
        .ok conversion ∧
      conversion.types = [⟨"p", ⟨1, 0⟩, some "S", []⟩] ∧
      Outcome.answer (run "p@1.0" false .default { repository := linkedReleasesAndStray }) =
        .ok conversion := by
  have hfound :
      Outcome.view (fun conversion t => (conversion.types, t.roots.map Prod.fst))
        (run "p@1.0" false .default { repository := linkedReleases }) =
        some ([⟨"p", ⟨1, 0⟩, some "S", []⟩],
          [⟨"p", ⟨1, 0⟩, some "", []⟩, ⟨"q", ⟨1, 0⟩, some "", []⟩]) := by
    decide +kernel
  obtain ⟨conversion, t, hrun, hfound⟩ := Outcome.of_view hfound
  obtain ⟨htypes, hroots⟩ := Prod.mk.inj hfound
  have hnamed : linkedReleases.namedReleases ⟨"p", ⟨1, 0⟩, some "", []⟩ =
        [⟨"q", ⟨1, 0⟩, some "", []⟩] ∧
      linkedReleases.namedReleases ⟨"q", ⟨1, 0⟩, some "", []⟩ = [] := by
    decide +kernel
  have hread : (QualifiedName.read "p@1.0").toOption.map QualifiedName.package = some "p" := by
    decide +kernel
  have hagrees : ∀ key : QualifiedName, key.package = "p" ∨ key.package = "q" →
      linkedReleases.AgreesOn linkedReleasesAndStray key := by
    intro key hkey
    apply Repository.agreesOn_addFile
    · rcases hkey with hkey | hkey <;> rw [Repository.directory, hkey] <;> decide
    · intro hname
      have hhead := congrArg (fun name : String => name.toList.head?) hname
      rcases hkey with hkey | hkey <;>
        · rw [Repository.fileName, hkey] at hhead
          simp [String.toList_append, Text.split, Text.splitChars] at hhead
  have hanswer := answer_eq_of_agreement linkedReleases linkedReleasesAndStray
    (Repository.faithful_of_read_eq_nil rfl) (Repository.faithful_of_read_eq_nil rfl) "p@1.0"
    false .default ?_ ?_
  · rw [hrun] at hanswer ⊢
    exact ⟨conversion, rfl, htypes, hanswer.symm⟩
  · intro q hq key hkey
    rw [hq] at hread
    exact hagrees key (Or.inl (hkey.trans (Option.some.inj hread)))
  · intro home hhome key hkey
    rw [hrun] at hhome
    have hhome := Resolver.isLoaded_iff.mp hhome
    rw [Outcome.state, hroots, List.mem_cons, List.mem_singleton] at hhome
    rcases hhome with rfl | rfl
    · rw [hnamed.1, List.mem_singleton] at hkey
      exact hagrees key (Or.inr (congrArg QualifiedName.package hkey))
    · rw [hnamed.2] at hkey
      exact absurd hkey List.not_mem_nil

end Conversion

end HalBridge
