import HalBridge.Proofs.ChainEnds

/-!
# Walks along chains

From a typedef one comes to the type that it stands for, from an enum to its storage. Such a chain
either leaves the typedefs, or the enums, or it goes on for ever, and then it leads into a cycle,
which the start need not lie on. The walk looks at the list of members passed to find out which. It
ends on its own: the bound on its steps is never what stops it, because the list holds declared
names and none of them twice.
-/

namespace HalBridge

namespace Chain

variable {next : QualifiedName → Option QualifiedName} {q : QualifiedName}
  {path names : List QualifiedName} {bound : Nat} {chain : Chain}
  {members : Nat → Option QualifiedName}

/-! ### Walks without a bound -/

/-- Following `next` from `q`, which comes after `path`, for as long as it takes. -/
inductive Followed (next : QualifiedName → Option QualifiedName) :
    List QualifiedName → QualifiedName → Chain → Prop
  | again {path : List QualifiedName} {q : QualifiedName} (h : q ∈ path) :
      Followed next path q ⟨path, some q⟩
  | last {path : List QualifiedName} {q : QualifiedName} (hfresh : q ∉ path)
      (h : next q = none) : Followed next path q ⟨path ++ [q], none⟩
  | step {path : List QualifiedName} {q following : QualifiedName} {chain : Chain}
      (hfresh : q ∉ path) (h : next q = some following)
      (rest : Followed next (path ++ [q]) following chain) : Followed next path q chain

theorem nodup_concat (hpath : path.Nodup) (hfresh : q ∉ path) : (path ++ [q]).Nodup := by
  rw [← List.concat_eq_append]
  exact hpath.concat hfresh

/-- The bound is not reached if there are no more names than steps left: all members passed are
different names. -/
theorem followed_followFrom (hnames : ∀ q, (next q).isSome → q ∈ names) (hpath : path.Nodup)
    (hsubset : path ⊆ names) (hbound : names.length ≤ path.length + bound) :
    Followed next path q (followFrom next bound path q) := by
  have hlonger : ∀ {path : List QualifiedName} {q following : QualifiedName}, path ⊆ names →
      next q = some following → path ++ [q] ⊆ names := by
    intro path q following hsubset hnext
    refine List.append_subset.mpr ⟨hsubset, List.cons_subset.mpr ⟨hnames q ?_, List.nil_subset _⟩⟩
    rw [hnext, Option.isSome_some]
  fun_induction followFrom next bound path q with
  | case1 bound path q hagain => exact .again hagain
  | case2 bound path q hfresh hnext => exact .last hfresh hnext
  | case3 path q hfresh following hnext =>
      have hlength := (List.subperm_of_subset (nodup_concat hpath hfresh)
        (hlonger hsubset hnext)).length_le
      rw [List.length_append, List.length_singleton] at hlength
      omega
  | case4 path q hfresh following bound hnext ih =>
      refine .step hfresh hnext (ih (nodup_concat hpath hfresh) (hlonger hsubset hnext) ?_)
      rw [List.length_append, List.length_singleton]
      omega

/-! ### What a walk finds -/

/-- The chain has the first members of a sequence, all of them different, up to the end of the
sequence or up to the first member that has come up before. -/
structure Traces (members : Nat → Option QualifiedName) (chain : Chain) : Prop where
  passed : ∀ n < chain.path.length, chain.path[n]? = members n
  nodup : chain.path.Nodup
  after : members chain.path.length = chain.repeated
  again : ∀ q, chain.repeated = some q → q ∈ chain.path

/-- What one step adds to the members passed. -/
theorem passed_concat (hpassed : ∀ n < path.length, path[n]? = members n)
    (hq : members path.length = some q) :
    ∀ n < (path ++ [q]).length, (path ++ [q])[n]? = members n := by
  intro n hn
  rw [List.length_append, List.length_singleton] at hn
  by_cases hbefore : n < path.length
  · rw [List.getElem?_append_left hbefore, hpassed n hbefore]
  · obtain rfl : n = path.length := by omega
    rw [List.getElem?_concat_length, hq]

theorem Followed.traces (hstep : ∀ n, members (n + 1) = (members n).bind next)
    (h : Followed next path q chain) (hpassed : ∀ n < path.length, path[n]? = members n)
    (hpath : path.Nodup) (hq : members path.length = some q) : Traces members chain := by
  induction h with
  | @again path q hagain =>
      refine ⟨hpassed, hpath, hq, ?_⟩
      rintro _ ⟨⟩
      exact hagain
  | @last path q hfresh hnext =>
      refine ⟨passed_concat hpassed hq, nodup_concat hpath hfresh, ?_, ?_⟩
      · rw [List.length_append, List.length_singleton, hstep, hq, Option.bind_some, hnext]
      · rintro _ ⟨⟩
  | @step path q following chain hfresh hnext _ ih =>
      refine ih (passed_concat hpassed hq) (nodup_concat hpath hfresh) ?_
      rw [List.length_append, List.length_singleton, hstep, hq, Option.bind_some, hnext]

theorem Traces.exists_of_mem (h : Traces members chain) (hq : q ∈ chain.path) :
    ∃ n < chain.path.length, members n = some q := by
  obtain ⟨n, hn, hpassed⟩ := List.getElem_of_mem hq
  refine ⟨n, hn, ?_⟩
  rw [← h.passed n hn, List.getElem?_eq_getElem hn, hpassed]

theorem Traces.ne_of_lt (h : Traces members chain) {m n : Nat} (hn : n < chain.path.length)
    (hmn : m < n) : members m ≠ members n := by
  intro hsame
  rw [← h.passed n hn, ← h.passed m (Nat.lt_trans hmn hn)] at hsame
  exact Nat.ne_of_lt hmn ((List.getElem?_inj (Nat.lt_trans hmn hn) h.nodup).mp hsame)

section Sequence

variable (hstep : ∀ n, members (n + 1) = (members n).bind next)
include hstep

theorem members_shift {m n : Nat} (h : members m = members n) (k : Nat) :
    members (m + k) = members (n + k) := by
  induction k with
  | zero => exact h
  | succ k ih => rw [← Nat.add_assoc, ← Nat.add_assoc, hstep, hstep, ih]

theorem members_eq_none {n : Nat} (h : members n = none) (k : Nat) : members (n + k) = none := by
  induction k with
  | zero => exact h
  | succ k ih => rw [← Nat.add_assoc, hstep, ih, Option.bind_none]

/-- A chain that comes back has no members but those passed. -/
theorem Traces.exists_passed (h : Traces members chain) {again : QualifiedName}
    (hagain : chain.repeated = some again) (n : Nat) :
    ∃ m < chain.path.length, members n = members m := by
  obtain ⟨start, hstart, hpassed⟩ := h.exists_of_mem (h.again again hagain)
  have hback : members start = members chain.path.length := by
    rw [h.after, hagain, hpassed]
  induction n using Nat.strongRecOn with
  | ind n ih =>
      by_cases hbefore : n < chain.path.length
      · exact ⟨n, hbefore, rfl⟩
      · -- One round of the cycle earlier is the same member.
        obtain ⟨k, rfl⟩ := Nat.exists_eq_add_of_le (Nat.le_of_not_lt hbefore)
        obtain ⟨m, hm, hsame⟩ := ih (start + k) (by omega)
        exact ⟨m, hm, (members_shift hstep hback k).symm.trans hsame⟩

/-- Before the end of a chain that ends are the members passed only. -/
theorem Traces.lt_of_eq_some (h : Traces members chain) (hend : chain.repeated = none) {n : Nat}
    (hn : members n = some q) : n < chain.path.length := by
  by_contra hafter
  obtain ⟨k, rfl⟩ := Nat.exists_eq_add_of_le (Nat.le_of_not_lt hafter)
  rw [members_eq_none hstep (h.after.trans hend)] at hn
  cases hn

theorem Traces.mem_iff (h : Traces members chain) :
    q ∈ chain.path ↔ ∃ n, members n = some q := by
  constructor
  · intro hq
    obtain ⟨n, -, hn⟩ := h.exists_of_mem hq
    exact ⟨n, hn⟩
  · rintro ⟨n, hn⟩
    obtain ⟨m, hm, hsame⟩ : ∃ m < chain.path.length, members n = members m := by
      cases hrepeated : chain.repeated with
      | some again => exact h.exists_passed hstep hrepeated n
      | none => exact ⟨n, h.lt_of_eq_some hstep hrepeated hn, rfl⟩
    refine List.mem_of_getElem? (i := m) ?_
    rw [h.passed m hm, ← hsame, hn]

theorem Traces.endless_iff (h : Traces members chain) :
    (∀ n, (members n).isSome) ↔ chain.repeated.isSome := by
  constructor
  · intro hendless
    rw [← h.after]
    exact hendless _
  · intro hrepeated n
    obtain ⟨again, hagain⟩ := Option.isSome_iff_exists.mp hrepeated
    obtain ⟨m, hm, hsame⟩ := h.exists_passed hstep hagain n
    rw [hsame, ← h.passed m hm, List.getElem?_eq_getElem hm, Option.isSome_some]

end Sequence

end Chain

/-! ### Chains among types -/

/-- The links of one kind of chains among the types of a catalogue: the declaration by which a type
is a member of the chain, and the type that comes after it. -/
structure Links (catalog : Catalog) where
  member? : Ty → Option QualifiedName
  behind? : QualifiedName → Option Ty
  goesOn : ∀ type q, member? type = some q → ∃ behind, behind? q = some behind
  declared : ∀ q behind, behind? q = some behind → q ∈ catalog.names

namespace Links

variable {catalog : Catalog} {type final other : Ty} {q : QualifiedName}

/-- The type that `n` links lead to. -/
def typeAfter (links : Links catalog) (type : Ty) : Nat → Option Ty
  | 0 => some type
  | n + 1 => ((links.typeAfter type n).bind links.member?).bind links.behind?

/-- The member that `n` links lead to. -/
def memberAfter (links : Links catalog) (type : Ty) (n : Nat) : Option QualifiedName :=
  (links.typeAfter type n).bind links.member?

/-- Following the links never leaves the members of the chain. -/
def Endless (links : Links catalog) (type : Ty) : Prop :=
  ∀ n, (links.memberAfter type n).isSome

/-- The first type that is no member any more. -/
def EndsAt (links : Links catalog) (type final : Ty) : Prop :=
  ∃ n, links.typeAfter type n = some final ∧ links.member? final = none

/-- The first member that has come up before. -/
def FirstAgain (links : Links catalog) (type : Ty) (q : QualifiedName) : Prop :=
  ∃ n, links.memberAfter type n = some q ∧ (∃ m < n, links.memberAfter type m = some q) ∧
    ∀ k < n, ∀ m < k, links.memberAfter type m ≠ links.memberAfter type k

/-- From one member to the next. -/
def next? (links : Links catalog) (q : QualifiedName) : Option QualifiedName :=
  (links.behind? q).bind links.member?

variable {links : Links catalog}

theorem typeAfter_succ (links : Links catalog) (type : Ty) (n : Nat) :
    links.typeAfter type (n + 1) = (links.memberAfter type n).bind links.behind? :=
  rfl

theorem memberAfter_succ (links : Links catalog) (type : Ty) (n : Nat) :
    links.memberAfter type (n + 1) = (links.memberAfter type n).bind links.next? := by
  rw [memberAfter, typeAfter_succ, Option.bind_assoc]
  rfl

/-- Only one type is the first to leave the chain. -/
theorem EndsAt.unique (h : links.EndsAt type final) (hother : links.EndsAt type other) :
    final = other := by
  obtain ⟨n, hn, hfinal⟩ := h
  obtain ⟨m, hm, hend⟩ := hother
  have hafter : ∀ {k : Nat} {last : Ty}, links.typeAfter type k = some last →
      links.member? last = none → ∀ more, links.memberAfter type (k + more) = none := by
    intro k last hk hlast
    refine Chain.members_eq_none (links.memberAfter_succ type) ?_
    rw [memberAfter, hk, Option.bind_some, hlast]
  rcases Nat.lt_trichotomy n m with hlt | rfl | hlt
  · obtain ⟨k, rfl⟩ := Nat.exists_eq_add_of_lt hlt
    rw [typeAfter_succ, hafter hn hfinal k] at hm
    cases hm
  · exact Option.some.inj (hn.symm.trans hm)
  · obtain ⟨k, rfl⟩ := Nat.exists_eq_add_of_lt hlt
    rw [typeAfter_succ, hafter hm hend k] at hn
    cases hn

theorem EndsAt.not_endless (h : links.EndsAt type final) : ¬links.Endless type := by
  intro hendless
  obtain ⟨n, hn, hfinal⟩ := h
  have hmember := hendless n
  rw [memberAfter, hn, Option.bind_some, hfinal] at hmember
  cases hmember

/-! ### The walk along the links -/

/-- The walk from a declaration, with as many steps as there are declarations. -/
def walk (links : Links catalog) (q : QualifiedName) : Chain :=
  Chain.follow links.next? catalog.decls.length q

/-- The walk ends on its own. -/
theorem followed_walk (links : Links catalog) (q : QualifiedName) :
    Chain.Followed links.next? [] q (links.walk q) := by
  have hnames : ∀ q, (links.next? q).isSome → q ∈ catalog.names := by
    intro q hq
    obtain ⟨behind, hbehind, -⟩ := Option.bind_eq_some_iff.mp (Option.some_get hq).symm
    exact links.declared q behind hbehind
  refine Chain.followed_followFrom hnames List.nodup_nil (List.nil_subset _) (Nat.le_of_eq ?_)
  rw [Catalog.names, List.length_map, List.length_nil, Nat.zero_add]

theorem traces_walk (h : links.member? type = some q) :
    Chain.Traces (links.memberAfter type) (links.walk q) :=
  (links.followed_walk q).traces (links.memberAfter_succ type)
    (fun _ hn => absurd hn (Nat.not_lt_zero _)) List.nodup_nil h

theorem endless_of_repeated {again : QualifiedName} (h : links.member? type = some q)
    (hagain : (links.walk q).repeated = some again) :
    links.Endless type ∧ links.FirstAgain type again := by
  have htraces := traces_walk h
  refine ⟨(htraces.endless_iff (links.memberAfter_succ type)).mpr ?_,
    (links.walk q).path.length, htraces.after.trans hagain, ?_, ?_⟩
  · rw [hagain, Option.isSome_some]
  · exact htraces.exists_of_mem (htraces.again again hagain)
  · intro k hk m hm hsame
    exact htraces.ne_of_lt hk hm hsame

theorem endsAt_of_not_repeated (h : links.member? type = some q)
    (hend : (links.walk q).repeated = none) :
    ∃ final, (links.walk q).path.getLast?.bind links.behind? = some final ∧
      links.EndsAt type final := by
  have htraces := traces_walk h
  have hnone : links.memberAfter type (links.walk q).path.length = none := htraces.after.trans hend
  obtain ⟨last, hlast⟩ : ∃ last, (links.walk q).path.length = last + 1 := by
    refine Nat.exists_eq_succ_of_ne_zero ?_
    intro hempty
    rw [hempty, show links.memberAfter type 0 = some q from h] at hnone
    cases hnone
  have hpath : (links.walk q).path.getLast? = links.memberAfter type last := by
    rw [List.getLast?_eq_getElem?, hlast, Nat.add_sub_cancel, htraces.passed last (by omega)]
  have hmember : (links.memberAfter type last).isSome := by
    rw [← hpath, List.getLast?_isSome]
    intro hempty
    rw [hempty] at hlast
    cases hlast
  obtain ⟨p, hp⟩ := Option.isSome_iff_exists.mp hmember
  obtain ⟨before, -, hbefore⟩ := Option.bind_eq_some_iff.mp hp
  obtain ⟨final, hfinal⟩ := links.goesOn before p hbefore
  have hafter : links.typeAfter type (last + 1) = some final := by
    rw [typeAfter_succ, hp, Option.bind_some, hfinal]
  refine ⟨final, by rw [hpath, hp, Option.bind_some, hfinal], last + 1, hafter, ?_⟩
  rw [hlast, memberAfter, hafter, Option.bind_some] at hnone
  exact hnone

/-- A chain that comes back to a member goes on for ever. -/
theorem FirstAgain.endless (h : links.FirstAgain type q) : links.Endless type := by
  obtain ⟨n, hn, ⟨m, hmn, hm⟩, -⟩ := h
  cases hstart : links.member? type with
  | none =>
      have hnone : links.memberAfter type 0 = none := hstart
      have hlater := Chain.members_eq_none (links.memberAfter_succ type) hnone n
      rw [Nat.zero_add, hn] at hlater
      cases hlater
  | some start =>
      cases hrepeated : (links.walk start).repeated with
      | some again => exact (endless_of_repeated hstart hrepeated).1
      | none =>
          have htraces := traces_walk hstart
          have hbefore := htraces.lt_of_eq_some (links.memberAfter_succ type) hrepeated hn
          exact absurd (hm.trans hn.symm) (htraces.ne_of_lt hbefore hmn)

theorem endless_iff_exists_firstAgain :
    links.Endless type ↔ ∃ again, links.FirstAgain type again := by
  constructor
  · intro hendless
    obtain ⟨q, hq⟩ := Option.isSome_iff_exists.mp (hendless 0)
    cases hrepeated : (links.walk q).repeated with
    | some again => exact ⟨again, (endless_of_repeated hq hrepeated).2⟩
    | none =>
        obtain ⟨final, -, hends⟩ := endsAt_of_not_repeated hq hrepeated
        exact absurd hendless hends.not_endless
  · rintro ⟨again, hagain⟩
    exact hagain.endless

end Links

namespace Catalog

variable {catalog : Catalog} {type : Ty} {q : QualifiedName}

theorem exists_aliased (type : Ty) (q : QualifiedName) (h : catalog.typedefOf? type = some q) :
    ∃ aliased, catalog.aliased? q = some aliased :=
  Option.isSome_iff_exists.mp (typedefOf_eq_some_iff.mp h).2

theorem exists_storage (type : Ty) (q : QualifiedName) (h : catalog.enumOf? type = some q) :
    ∃ storage, catalog.storage? q = some storage :=
  Option.isSome_iff_exists.mp (enumOf_eq_some_iff.mp h).2

/-- From a typedef to the type that it stands for. -/
def typedefs (catalog : Catalog) : Links catalog where
  member? := catalog.typedefOf?
  behind? := catalog.aliased?
  goesOn := exists_aliased
  declared := fun _ _ => mem_names_of_aliased

/-- From an enum to its storage. -/
def enums (catalog : Catalog) : Links catalog where
  member? := catalog.enumOf?
  behind? := catalog.storage?
  goesOn := exists_storage
  declared := fun _ _ => mem_names_of_storage

theorem member_enums (h : catalog.isEnum q) :
    catalog.enums.member? (.named (.declared q)) = some q :=
  enumOf_eq_some_iff.mpr ⟨rfl, h⟩

/-- What comes of a chain of typedefs. -/
theorem resolveAlias_cases (catalog : Catalog) (type : Ty) :
    (∃ again, catalog.resolveAlias type = .error (.typedefCycle again) ∧
      catalog.typedefs.Endless type ∧ catalog.typedefs.FirstAgain type again) ∨
    ∃ final, catalog.resolveAlias type = .ok final ∧ catalog.typedefs.EndsAt type final := by
  cases htypedef : catalog.typedefOf? type with
  | none =>
      refine Or.inr ⟨type, ?_, 0, rfl, htypedef⟩
      rw [resolveAlias, htypedef]
  | some q =>
      have hchain : catalog.typedefChain q = catalog.typedefs.walk q := rfl
      cases hrepeated : (catalog.typedefs.walk q).repeated with
      | some again =>
          refine Or.inl ⟨again, ?_, Links.endless_of_repeated htypedef hrepeated⟩
          simp only [resolveAlias, htypedef, hchain, hrepeated]
      | none =>
          obtain ⟨final, hfinal, hends⟩ := Links.endsAt_of_not_repeated htypedef hrepeated
          refine Or.inr ⟨final, ?_, hends⟩
          have hlast : (catalog.typedefs.walk q).path.getLast?.bind catalog.aliased? =
            some final := hfinal
          simp only [resolveAlias, htypedef, hchain, hrepeated, hlast, Option.getD_some]

/-- What comes of a chain of enums. -/
theorem enumScalar_cases (h : catalog.isEnum q) :
    (catalog.enumScalar q = .error (.enumCycle q) ∧
      catalog.enums.Endless (.named (.declared q))) ∨
    ∃ final, catalog.enums.EndsAt (.named (.declared q)) final ∧
      ((∃ scalar, final = .scalar scalar ∧ catalog.enumScalar q = .ok scalar) ∨
        (∀ scalar, final ≠ .scalar scalar) ∧
          catalog.enumScalar q = .error (.enumWithoutScalar q)) := by
  have henum := member_enums h
  have hchain : catalog.enumChain q = catalog.enums.walk q := rfl
  cases hrepeated : (catalog.enums.walk q).repeated with
  | some again =>
      refine Or.inl ⟨?_, (Links.endless_of_repeated henum hrepeated).1⟩
      simp only [enumScalar, hchain, hrepeated]
  | none =>
      obtain ⟨final, hfinal, hends⟩ := Links.endsAt_of_not_repeated henum hrepeated
      refine Or.inr ⟨final, hends, ?_⟩
      have hlast : (catalog.enums.walk q).path.getLast?.bind catalog.storage? = some final :=
        hfinal
      cases final with
      | scalar scalar =>
          refine Or.inl ⟨scalar, rfl, ?_⟩
          simp only [enumScalar, hchain, hrepeated, hlast]
      | _ =>
          refine Or.inr ⟨fun _ hscalar => Ty.noConfusion hscalar, ?_⟩
          simp only [enumScalar, hchain, hrepeated, hlast]

theorem resolveAlias_error_iff :
    (∃ again, catalog.resolveAlias type = .error (.typedefCycle again)) ↔
      catalog.typedefs.Endless type := by
  rcases catalog.resolveAlias_cases type with ⟨again, herror, hendless, -⟩ | ⟨final, hok, hends⟩
  · exact ⟨fun _ => hendless, fun _ => ⟨again, herror⟩⟩
  · refine ⟨?_, fun hendless => absurd hendless hends.not_endless⟩
    rintro ⟨again, herror⟩
    rw [hok] at herror
    cases herror

/-- Which of the three outcomes an enum has is decided by its chain. -/
theorem enumScalar_outcome (h : catalog.isEnum q) :
    (catalog.enumScalar q = .error (.enumCycle q) ↔
      catalog.enums.Endless (.named (.declared q))) ∧
    (∀ scalar, catalog.enumScalar q = .ok scalar ↔
      catalog.enums.EndsAt (.named (.declared q)) (.scalar scalar)) ∧
    (catalog.enumScalar q = .error (.enumWithoutScalar q) ↔
      ∃ final, catalog.enums.EndsAt (.named (.declared q)) final ∧
        ∀ scalar, final ≠ .scalar scalar) := by
  have hexclusive : ∀ {final : Ty}, catalog.enums.EndsAt (.named (.declared q)) final →
      ¬catalog.enums.Endless (.named (.declared q)) := Links.EndsAt.not_endless
  have hunique : ∀ {final other : Ty}, catalog.enums.EndsAt (.named (.declared q)) final →
      catalog.enums.EndsAt (.named (.declared q)) other → final = other := Links.EndsAt.unique
  rcases enumScalar_cases h with ⟨hresult, hendless⟩ | ⟨final, hends, hfinal⟩
  · rw [hresult]
    grind
  · rcases hfinal with ⟨scalar, rfl, hresult⟩ | ⟨hother, hresult⟩
    · rw [hresult]
      grind
    · rw [hresult]
      grind

/-- The check accepts a declaration just if its chain leaves the typedefs, or ends in a scalar. -/
theorem checkChain_ok_iff :
    Resolver.checkChain catalog q = .ok () ↔
      (catalog.isTypedef q → ¬catalog.typedefs.Endless (.named (.declared q))) ∧
      (catalog.isEnum q →
        ∃ scalar, catalog.enums.EndsAt (.named (.declared q)) (.scalar scalar)) := by
  unfold Resolver.checkChain
  by_cases htypedef : catalog.isTypedef q
  · have henum : ¬catalog.isEnum q := by
      intro henum
      obtain ⟨storage, hstorage⟩ := Option.isSome_iff_exists.mp henum
      exact not_isTypedef_of_storage hstorage htypedef
    rw [if_pos htypedef]
    rcases catalog.resolveAlias_cases (.named (.declared q)) with
      ⟨again, herror, hendless, -⟩ | ⟨final, hok, hends⟩
    · simp [herror, Except.map, htypedef, hendless]
    · simp [hok, Except.map, henum, hends.not_endless]
  · rw [if_neg htypedef]
    by_cases henum : catalog.isEnum q
    · have hscalar := (enumScalar_outcome henum).2.1
      rw [if_pos henum]
      simp only [htypedef, henum, forall_const, ← hscalar]
      cases catalog.enumScalar q with
      | ok scalar => simp [Except.map]
      | error error => simp [Except.map]
    · simp [htypedef, henum]

/-- **Chain walks detect exactly the cycles.** A chain of typedefs is refused just if it never
leaves the typedefs, and the typedef in the message is the first one to come up again; otherwise the
first type that is no typedef is found. An enum is refused as one that extends itself just if its
chain never leaves the enums, that is, if it leads into a cycle, on which the enum lies or not;
otherwise the scalar at the end of the chain is found, and an end that is no scalar is refused. Both
walks end without a bound, and the check of declarations accepts those whose chains end well. -/
theorem chains_refused_iff_endless (catalog : Catalog) :
    (∀ type,
      ((∃ again, catalog.resolveAlias type = .error (.typedefCycle again)) ↔
        catalog.typedefs.Endless type) ∧
      (∀ again, catalog.resolveAlias type = .error (.typedefCycle again) →
        catalog.typedefs.FirstAgain type again) ∧
      (¬catalog.typedefs.Endless type → ∃ final, catalog.resolveAlias type = .ok final ∧
        catalog.typedefs.EndsAt type final)) ∧
    (∀ q, catalog.isEnum q →
      (catalog.enumScalar q = .error (.enumCycle q) ↔
        catalog.enums.Endless (.named (.declared q))) ∧
      (catalog.enums.Endless (.named (.declared q)) ↔
        ∃ again, catalog.enums.FirstAgain (.named (.declared q)) again) ∧
      (∀ scalar, catalog.enumScalar q = .ok scalar ↔
        catalog.enums.EndsAt (.named (.declared q)) (.scalar scalar)) ∧
      (catalog.enumScalar q = .error (.enumWithoutScalar q) ↔
        ∃ final, catalog.enums.EndsAt (.named (.declared q)) final ∧
          ∀ scalar, final ≠ .scalar scalar)) ∧
    ∀ q,
      Chain.Followed catalog.typedefs.next? [] q (catalog.typedefChain q) ∧
      Chain.Followed catalog.enums.next? [] q (catalog.enumChain q) ∧
      (Resolver.checkChain catalog q = .ok () ↔
        (catalog.isTypedef q → ¬catalog.typedefs.Endless (.named (.declared q))) ∧
        (catalog.isEnum q →
          ∃ scalar, catalog.enums.EndsAt (.named (.declared q)) (.scalar scalar))) ∧
      (ChainError.typedefCycle q).message = "Typedef cycle through " ++ q.toText ∧
      (ChainError.enumCycle q).message = "Enum " ++ q.toText ++ " extends itself" ∧
      (ChainError.enumWithoutScalar q).message =
        "Enum " ++ q.toText ++ " is not backed by a scalar" := by
  refine ⟨?_, ?_, ?_⟩
  · intro type
    refine ⟨resolveAlias_error_iff, ?_, ?_⟩
    · intro again herror
      rcases catalog.resolveAlias_cases type with ⟨found, hfound, -, hagain⟩ | ⟨final, hok, -⟩
      · rw [hfound] at herror
        cases herror
        exact hagain
      · rw [hok] at herror
        cases herror
    · intro hnot
      rcases catalog.resolveAlias_cases type with ⟨-, -, hendless, -⟩ | hfound
      · exact absurd hendless hnot
      · exact hfound
  · intro q henum
    obtain ⟨hcycle, hscalar, hother⟩ := enumScalar_outcome henum
    exact ⟨hcycle, Links.endless_iff_exists_firstAgain, hscalar, hother⟩
  · intro q
    refine ⟨catalog.typedefs.followed_walk q, catalog.enums.followed_walk q, checkChain_ok_iff,
      ?_, ?_, ?_⟩
    · rfl
    · rfl
    · rfl

/-- Three enums: two extend each other, and the third extends one of them. -/
def entangled : Catalog where
  decls := [decl outer inner, decl inner other, decl other inner]
where
  outer : QualifiedName := ⟨"p", ⟨1, 0⟩, some "Outer", []⟩
  inner : QualifiedName := ⟨"p", ⟨1, 0⟩, some "Inner", []⟩
  other : QualifiedName := ⟨"p", ⟨1, 0⟩, some "Other", []⟩
  decl (q parent : QualifiedName) : Decl :=
    { name := q, comment := none, scopes := [], subTypes := []
      body := .enum (.named (.declared parent)) [] }

/-- The third is refused although nothing leads back to it. -/
theorem chains_refused_entangled :
    entangled.isEnum entangled.outer ∧
    entangled.enums.FirstAgain (.named (.declared entangled.outer)) entangled.inner ∧
    entangled.enumScalar entangled.outer = .error (.enumCycle entangled.outer) := by
  have henum : entangled.isEnum entangled.outer := by decide
  have hagain :
      entangled.enums.FirstAgain (.named (.declared entangled.outer)) entangled.inner := by
    refine ⟨3, ?_, ⟨1, ?_, ?_⟩, ?_⟩
    · decide
    · decide
    · decide
    · decide
  obtain ⟨hcycle, hendless, -⟩ :=
    (chains_refused_iff_endless entangled).2.1 entangled.outer henum
  exact ⟨henum, hagain, hcycle.mpr (hendless.mpr ⟨_, hagain⟩)⟩

end Catalog

end HalBridge
