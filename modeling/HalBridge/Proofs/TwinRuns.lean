import HalBridge.Proofs.RepositoryAgreement
import HalBridge.Proofs.WrittenReferences

/-!
# Runs on two repositories

Two runs of one action, on repositories that agree on the releases it asks for, go the same way.
Which releases these are comes out only as documents are loaded, so agreement is assumed of what is
named in the documents that the first run has loaded in the end. No action unloads a release, so
what is loaded at some point is loaded in the end. `Follows` says both of an action, and it is kept
by sequences, so that it can be proved of the steps of loading one by one.
-/

namespace HalBridge

/-- The releases that the document of a release names, by qualified names in its definitions. -/
def Repository.namedReleases (repository : Repository) (home : QualifiedName) :
    List QualifiedName :=
  ((repository.definitions home).flatMap fun entry => entry.2.types).filterMap fun written =>
    (written.reference?.bind QualifiedName.parse?).map QualifiedName.release

namespace Resolver

open Document Repository

/-- Two repositories, the releases that the first run has loaded in the end, and those that are
being loaded now. -/
structure Pairing where
  first : Repository
  second : Repository
  known : QualifiedName → Prop
  homes : List QualifiedName := []

namespace Pairing

/-- One more release is being loaded. -/
def enter (pair : Pairing) (key : QualifiedName) : Pairing :=
  { pair with homes := key :: pair.homes }

/-- The repositories agree on a release, as far as what is being loaded is known in the end. -/
def Agrees (pair : Pairing) (key : QualifiedName) : Prop :=
  (∀ home ∈ pair.homes, pair.known home) → pair.first.AgreesOn pair.second key

/-- The repositories agree on what the known documents of the first one name. -/
def Covers (pair : Pairing) : Prop :=
  ∀ home, pair.known home → ∀ key ∈ pair.first.namedReleases home,
    pair.first.AgreesOn pair.second key

/-- The repositories agree on a release and on what is named in these types. -/
def Meets (pair : Pairing) (home : QualifiedName) (types : List TypeRef) : Prop :=
  pair.Agrees home ∧ ∀ written ∈ types, ∀ text q, written.reference? = some text →
    QualifiedName.parse? text = some q → pair.Agrees q.release

theorem Agrees.enter {pair : Pairing} {key : QualifiedName} (h : pair.Agrees key)
    (home : QualifiedName) : (pair.enter home).Agrees key :=
  fun hknown => h fun other hother => hknown other (List.mem_cons_of_mem _ hother)

end Pairing

/-- The state belongs to the repository, and the depth suffices for the releases that can still be
loaded from it. -/
structure Sound (base : Repository) (depth : Nat) (s : Resolver) : Prop where
  files : base.SameFiles s.repository
  faithful : s.repository.Faithful
  read : ∀ key ∈ s.roots.map Prod.fst,
    key.release = key ∧ (s.repository.read.lookup key).isSome
  distinct : (s.roots.map Prod.fst).Nodup
  bounded : base.disk.size < depth + s.roots.length

/-- The states of the two runs differ in what the repositories have read only. -/
structure Twins (pair : Pairing) (n m : Nat) (s t : Resolver) : Prop where
  state : t = { s with repository := t.repository }
  left : Sound pair.first n s
  right : Sound pair.second m t
  homes : ∀ home ∈ pair.homes, s.isLoaded home

variable {α β : Type} {pair : Pairing} {n m : Nat} {P Q : Prop} {s t : Resolver}
  {x y : Loading α} {f g : α → Loading β} {key q : QualifiedName}

theorem Sound.length_roots_le {base : Repository} {depth : Nat} (h : Sound base depth s) :
    s.roots.length ≤ base.disk.size := by
  have hle := h.faithful.length_le_size h.distinct (fun key hkey => (h.read key hkey).1)
    (fun key hkey => (h.read key hkey).2)
  rwa [List.length_map, h.files.disk] at hle

theorem Sound.mono {base : Repository} {depth depth' : Nat} (h : Sound base depth s)
    (hdepth : depth ≤ depth') : Sound base depth' s :=
  { h with bounded := Nat.lt_of_lt_of_le h.bounded (Nat.add_le_add_right hdepth _) }

theorem Sound.depth_pos {base : Repository} {depth : Nat} (h : Sound base depth s) :
    0 < depth := by
  have hroots := h.length_roots_le
  have hbounded := h.bounded
  omega

/-- A change of what is not the repository and not the list of loaded releases. -/
theorem Sound.withRest {base : Repository} {depth : Nat} (h : Sound base depth s)
    (catalog : Catalog) (resolving : Nat) (unchecked : List QualifiedName) :
    Sound base depth { s with catalog, resolving, unchecked } :=
  ⟨h.files, h.faithful, h.read, h.distinct, h.bounded⟩

theorem Sound.withRepository {base after : Repository} {depth : Nat} (h : Sound base depth s)
    (hmore : s.repository.ReadsMore after) (hafter : after.Faithful) :
    Sound base depth { s with repository := after } := by
  refine ⟨h.files.trans hmore.toSameFiles, hafter, ?_, h.distinct, h.bounded⟩
  intro key hkey
  obtain ⟨hrelease, hread⟩ := h.read key hkey
  obtain ⟨release, hfound⟩ := Option.isSome_iff_exists.mp hread
  exact ⟨hrelease, Option.isSome_iff_exists.mpr ⟨release, hmore.kept hfound⟩⟩

/-- The two outcomes are the same value, in states that are twins again, or the same fault. -/
inductive Mirrored (pair : Pairing) (n m : Nat) {α : Type} :
    EStateM.Result Fault Resolver α → EStateM.Result Fault Resolver α → Prop
  | ok {a : α} {s t : Resolver} (h : Twins pair n m s t) : Mirrored pair n m (.ok a s) (.ok a t)
  | error {fault : Fault} {s t : Resolver} : Mirrored pair n m (.error fault s) (.error fault t)

/-- An action unloads nothing, whatever its outcome. -/
def Grows (x : Loading α) : Prop :=
  ∀ s key, s.isLoaded key → (Outcome.state (x s)).isLoaded key

/-- An action unloads nothing, and if `P` holds then the second action mirrors it in all twin
states in which it loads known releases only. -/
structure Follows (pair : Pairing) (n m : Nat) (P : Prop) (x y : Loading α) : Prop where
  grows : Grows x
  mirrors : P → ∀ s t, Twins pair n m s t →
    (∀ key, (Outcome.state (x s)).isLoaded key → pair.known key) → Mirrored pair n m (x s) (y t)

theorem Follows.imp (h : Follows pair n m P x y) (hQ : Q → P) : Follows pair n m Q x y :=
  ⟨h.grows, fun hq => h.mirrors (hQ hq)⟩

theorem follows_pure (a : α) : Follows pair n m P (pure a) (pure a) :=
  ⟨fun _ _ hkey => hkey, fun _ _ _ htwins _ => .ok htwins⟩

theorem follows_throw (fault : Fault) :
    Follows pair n m P (throw fault : Loading α) (throw fault) :=
  ⟨fun _ _ hkey => hkey, fun _ _ _ _ _ => .error⟩

theorem Mirrored.bind (h : Mirrored pair n m (x s) (y t))
    (hnext : ∀ a u v, x s = .ok a u → y t = .ok a v → Twins pair n m u v →
      Mirrored pair n m (f a u) (g a v)) :
    Mirrored pair n m ((x >>= f) s) ((y >>= g) t) := by
  generalize hleft : x s = left at h
  generalize hright : y t = right at h
  cases h with
  | ok htwins =>
      rw [Outcome.bind_of_ok hleft, Outcome.bind_of_ok hright]
      exact hnext _ _ _ hleft hright htwins
  | error =>
      rw [Outcome.bind_of_error hleft, Outcome.bind_of_error hright]
      exact .error

/-- What the first part of a sequence has loaded is loaded after the whole. -/
theorem isLoaded_bind (hf : ∀ a, Grows (f a)) (h : (Outcome.state (x s)).isLoaded key) :
    (Outcome.state ((x >>= f) s)).isLoaded key := by
  cases hx : x s with
  | ok a u =>
      rw [hx] at h
      rw [Outcome.bind_of_ok hx]
      exact hf a u key h
  | error fault u =>
      rw [hx] at h
      rw [Outcome.bind_of_error hx]
      exact h

theorem Grows.bind (hx : Grows x) (hf : ∀ a, Grows (f a)) : Grows (x >>= f) :=
  fun s key hkey => isLoaded_bind hf (hx s key hkey)

theorem Follows.bind (hx : Follows pair n m P x y) (hf : ∀ a, Follows pair n m P (f a) (g a)) :
    Follows pair n m P (x >>= f) (y >>= g) := by
  have hgrows := fun a => (hf a).grows
  refine ⟨hx.grows.bind hgrows, ?_⟩
  intro hP s t htwins hknown
  refine (hx.mirrors hP s t htwins fun key hkey => hknown key (isLoaded_bind hgrows hkey)).bind ?_
  intro a u v hu _ htwins'
  refine (hf a).mirrors hP u v htwins' ?_
  rwa [Outcome.bind_of_ok hu] at hknown

/-- What an action sees of the state, the repository apart, is the same in both runs. -/
theorem follows_get_bind {f g : Resolver → Loading β}
    (h : ∀ r repository, Follows pair n m P (f r) (g { r with repository })) :
    Follows pair n m P (get >>= f) (get >>= g) := by
  refine ⟨fun s key hkey => (h s s.repository).grows s key hkey, ?_⟩
  intro hP s t htwins hknown
  have hmirrors := (h s t.repository).mirrors hP s t htwins hknown
  rwa [← htwins.state] at hmirrors

theorem Twins.exists_repository (h : Twins pair n m s t) :
    ∃ repository, t = { s with repository } :=
  ⟨t.repository, h.state⟩

theorem Twins.withRest (h : Twins pair n m s t) (catalog : Catalog) (resolving : Nat)
    (unchecked : List QualifiedName) :
    Twins pair n m { s with catalog, resolving, unchecked }
      { t with catalog, resolving, unchecked } := by
  refine ⟨?_, h.left.withRest _ _ _, h.right.withRest _ _ _, h.homes⟩
  rw [h.state]

theorem follows_modifyCatalog (change : Catalog → Catalog) :
    Follows pair n m P (modifyCatalog change) (modifyCatalog change) := by
  refine ⟨fun _ _ hkey => hkey, ?_⟩
  intro _ s t htwins _
  obtain ⟨repository, rfl⟩ := htwins.exists_repository
  exact .ok (htwins.withRest (change s.catalog) s.resolving s.unchecked)

end Resolver

end HalBridge
