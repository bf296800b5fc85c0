import HalBridge.Fault
import HalBridge.Proofs.NameTokens

/-!
# The grammar of qualified names

The sentences of the grammar are `NAME (. NAME)* @ INT . INT (:: NAME (. NAME)*)?`. Reading a text
succeeds exactly if it is written for a sentence whose numbers are not too long; a sentence with a
number that is too long fails in a way of its own.
-/

namespace HalBridge.QualifiedName

open Token

/-- Names with dots between them. -/
def dotted : List String → List Token
  | [] => []
  | [text] => [.name text]
  | text :: rest => .name text :: .dot :: dotted rest

/-- The part of a sentence before the type. -/
def releaseTokens (package : List String) (major minor : List Char) : List Token :=
  dotted package ++ [.atSign, .number major, .dot, .number minor]

/-- The sentences of the grammar and the names they stand for. -/
inductive Sentence : List Token → QualifiedName → Prop where
  | release {package : List String} (major minor : List Char) :
      package ≠ [] →
      Sentence (releaseTokens package major minor)
        { package := String.intercalate "." package
          version := ⟨numberOf major, numberOf minor⟩ }
  | type {package : List String} (major minor : List Char) (scope : List String) (name : String) :
      package ≠ [] →
      Sentence (releaseTokens package major minor ++ .colons :: dotted (scope ++ [name]))
        { package := String.intercalate "." package
          version := ⟨numberOf major, numberOf minor⟩, name := some name, scope }

/-- No number has more digits than are read. -/
def WithinLimit (tokens : List Token) : Prop :=
  ∀ digits, Token.number digits ∈ tokens → digits.length ≤ Text.digitLimit

/-- The first number that has more digits than are read has this many. -/
def FirstOverlong (tokens : List Token) (length : Nat) : Prop :=
  ∃ before digits after, tokens = before ++ .number digits :: after ∧ WithinLimit before ∧
    Text.digitLimit < digits.length ∧ digits.length = length

/-- The text is written for a sentence with a number that has more digits than are read; the first
such number has this many. -/
def OverlongText (text : String) (length : Nat) : Prop :=
  ∃ tokens q, Written tokens text.toList ∧ Sentence tokens q ∧ FirstOverlong tokens length

/-- The name that a text is read as, if it is one. -/
def parse? (text : String) : Option QualifiedName :=
  (parse text).toOption

theorem dotted_cons {text : String} {rest : List String} (hrest : rest ≠ []) :
    dotted (text :: rest) = .name text :: .dot :: dotted rest := by
  cases rest with
  | nil => exact absurd rfl hrest
  | cons => rfl

/-! ### Paths -/

theorem eq_dotted_of_path {tokens rest : List Token} {names : List String}
    (h : path? tokens = some (names, rest)) : names ≠ [] ∧ tokens = dotted names ++ rest := by
  fun_induction path? tokens generalizing names rest with
  | case1 first others ih =>
      obtain ⟨⟨path, remaining⟩, hpath, heq⟩ := Option.map_eq_some_iff.mp h
      cases heq
      obtain ⟨hne, hothers⟩ := ih hpath
      refine ⟨by simp, ?_⟩
      rw [dotted_cons hne, hothers]
      rfl
  | case2 first others _ =>
      cases h
      exact ⟨by simp, rfl⟩
  | case3 => cases h

theorem path_dotted {names : List String} (rest : List Token) (hne : names ≠ [])
    (hrest : rest.head? ≠ some .dot) : path? (dotted names ++ rest) = some (names, rest) := by
  induction names with
  | nil => exact absurd rfl hne
  | cons first others ih =>
      by_cases hothers : others = []
      · subst hothers
        change path? (.name first :: rest) = _
        rw [path?.eq_def]
        split
        · rename_i heq
          cases heq
          exact absurd rfl hrest
        · rename_i heq
          cases heq
          rfl
        · rename_i hnone
          exact absurd rfl (hnone first rest)
      · rw [dotted_cons hothers]
        change path? (.name first :: .dot :: (dotted others ++ rest)) = _
        rw [path?, ih hothers]
        rfl

/-! ### Sentences -/

theorem sentence_of_ofTokens {tokens : List Token} {q : QualifiedName}
    (h : ofTokens? tokens = some q) : Sentence tokens q := by
  unfold ofTokens? at h
  split at h
  · rename_i package major minor rest hpath
    obtain ⟨hne, rfl⟩ := eq_dotted_of_path hpath
    split at h
    · cases h
      exact .release major minor hne
    · rename_i typeTokens
      split at h
      · rename_i path htype
        obtain ⟨hpathNe, rfl⟩ := eq_dotted_of_path htype
        obtain ⟨scope, name, rfl⟩ := List.eq_nil_or_concat path |>.resolve_left hpathNe
        cases h
        have hsentence := Sentence.type major minor scope name hne
        simpa [releaseTokens, ofPath] using hsentence
      · cases h
    · cases h
  · cases h

theorem ofTokens_of_sentence {tokens : List Token} {q : QualifiedName} (h : Sentence tokens q) :
    ofTokens? tokens = some q := by
  cases h with
  | release major minor hne =>
      unfold ofTokens? releaseTokens
      rw [path_dotted _ hne (by simp)]
  | type major minor scope name hne =>
      have hpath : path? (dotted (scope ++ [name])) = some (scope ++ [name], []) := by
        have hne : scope ++ [name] ≠ [] := by simp
        have hdotted := path_dotted [] hne (by simp)
        rwa [List.append_nil] at hdotted
      unfold ofTokens? releaseTokens
      rw [List.append_assoc, path_dotted _ hne (by simp)]
      simp only [List.cons_append, List.nil_append, hpath]
      simp [ofPath]

/-- Every word of a sentence is followed by a sign. -/
theorem separated_dotted (names : List String) {rest : List Token} (hrest : Separated rest)
    (hfirst : ∀ token, rest.head? = some token → token.isWord = false) :
    Separated (dotted names ++ rest) := by
  induction names with
  | nil => exact hrest
  | cons first others ih =>
      by_cases hothers : others = []
      · subst hothers
        change Separated (.name first :: rest)
        cases rest with
        | nil => exact List.IsChain.singleton _
        | cons token tokens =>
            refine List.isChain_cons_cons.mpr ⟨?_, hrest⟩
            simp [hfirst token rfl]
      · rw [dotted_cons hothers]
        change Separated (.name first :: .dot :: (dotted others ++ rest))
        refine List.isChain_cons_cons.mpr ⟨rfl, ?_⟩
        obtain ⟨text, more, rfl⟩ := List.exists_cons_of_ne_nil hothers
        cases more with
        | nil => exact List.isChain_cons_cons.mpr ⟨rfl, ih⟩
        | cons => exact List.isChain_cons_cons.mpr ⟨rfl, ih⟩

theorem Sentence.separated {tokens : List Token} {q : QualifiedName} (h : Sentence tokens q) :
    Separated tokens := by
  cases h with
  | release =>
      refine separated_dotted _ ?_ (by simp [isWord])
      simp [Separated, isWord]
  | type major minor scope name =>
      have htype : Separated (dotted (scope ++ [name])) := by
        have hdotted := separated_dotted (scope ++ [name]) List.IsChain.nil (by simp)
        rwa [List.append_nil] at hdotted
      rw [releaseTokens, List.append_assoc]
      refine separated_dotted _ ?_ (by simp [isWord])
      cases hdotted : dotted (scope ++ [name]) with
      | nil => simp [Separated, isWord]
      | cons token tokens =>
          rw [hdotted] at htype
          simpa [Separated, isWord] using htype

/-! ### Long numbers -/

theorem excess_eq_none_iff {token : Token} :
    excess? token = none ↔ ∀ digits, token = .number digits → digits.length ≤ Text.digitLimit := by
  cases token <;> simp [excess?]

theorem excess_eq_some_iff {token : Token} {length : Nat} :
    excess? token = some length ↔ ∃ digits, token = .number digits ∧
      Text.digitLimit < digits.length ∧ digits.length = length := by
  cases token <;> simp [excess?]

theorem forall_excess_eq_none_iff {tokens : List Token} :
    (∀ token ∈ tokens, excess? token = none) ↔ WithinLimit tokens := by
  simp only [excess_eq_none_iff]
  constructor
  · exact fun h digits hmem => h _ hmem digits rfl
  · rintro h _ hmem digits rfl
    exact h digits hmem

theorem findSome_excess_eq_some_iff {tokens : List Token} {length : Nat} :
    tokens.findSome? excess? = some length ↔ FirstOverlong tokens length := by
  simp only [List.findSome?_eq_some_iff, forall_excess_eq_none_iff, excess_eq_some_iff]
  constructor
  · rintro ⟨before, _, after, htokens, ⟨digits, rfl, hlong, hlength⟩, hbefore⟩
    exact ⟨before, digits, after, htokens, hbefore, hlong, hlength⟩
  · rintro ⟨before, digits, after, htokens, hbefore, hlong, hlength⟩
    exact ⟨before, _, after, htokens, ⟨digits, rfl, hlong, hlength⟩, hbefore⟩

/-! ### Texts -/

variable {text : String} {tokens : List Token} {q : QualifiedName}

/-- A text is written for one sentence at most. -/
theorem Sentence.eq_of_written {others : List Token} {r : QualifiedName} (hq : Sentence tokens q)
    (hr : Sentence others r) (htokens : Written tokens text.toList)
    (hothers : Written others text.toList) : tokens = others ∧ q = r := by
  have hscan := scan_of_written htokens hq.separated
  rw [scan_of_written hothers hr.separated] at hscan
  obtain rfl := Option.some.inj hscan
  have hof := ofTokens_of_sentence hq
  rw [ofTokens_of_sentence hr] at hof
  exact ⟨rfl, (Option.some.inj hof).symm⟩

/-- The ways that reading a text can go. -/
inductive ParseOutcome (text : String) : Except ParseError QualifiedName → Prop where
  | malformed : (¬∃ tokens q, Written tokens text.toList ∧ Sentence tokens q) →
      ParseOutcome text (.error .malformed)
  | overlong {tokens : List Token} {q : QualifiedName} {length : Nat} :
      Written tokens text.toList → Sentence tokens q → FirstOverlong tokens length →
      ParseOutcome text (.error (.overlong length))
  | ok {tokens : List Token} {q : QualifiedName} :
      Written tokens text.toList → Sentence tokens q → WithinLimit tokens →
      ParseOutcome text (.ok q)

theorem parse_outcome (text : String) : ParseOutcome text (parse text) := by
  unfold parse
  split
  · rename_i hnone
    refine .malformed ?_
    rintro ⟨tokens, q, hwritten, hsentence⟩
    rw [scan_of_written hwritten hsentence.separated, Option.bind_some,
      ofTokens_of_sentence hsentence] at hnone
    cases hnone
  · rename_i tokens q hsome
    obtain ⟨scanned, hscan, hof⟩ := Option.bind_eq_some_iff.mp hsome
    obtain ⟨r, hof, heq⟩ := Option.map_eq_some_iff.mp hof
    cases heq
    split
    · rename_i length hexcess
      exact .overlong (written_of_scan hscan) (sentence_of_ofTokens hof)
        (findSome_excess_eq_some_iff.mp hexcess)
    · rename_i hexcess
      exact .ok (written_of_scan hscan) (sentence_of_ofTokens hof)
        (forall_excess_eq_none_iff.mp (List.findSome?_eq_none_iff.mp hexcess))

theorem FirstOverlong.not_withinLimit {length : Nat} (h : FirstOverlong tokens length) :
    ¬WithinLimit tokens := by
  obtain ⟨before, digits, after, rfl, -, hlong, -⟩ := h
  intro hlimit
  have hshort := hlimit digits (List.mem_append_right _ List.mem_cons_self)
  omega

theorem FirstOverlong.unique {length length' : Nat} (h : FirstOverlong tokens length)
    (h' : FirstOverlong tokens length') : length = length' := by
  have hfirst := findSome_excess_eq_some_iff.mpr h
  rw [findSome_excess_eq_some_iff.mpr h'] at hfirst
  exact (Option.some.inj hfirst).symm

theorem ParseOutcome.unique {a b : Except ParseError QualifiedName} (ha : ParseOutcome text a)
    (hb : ParseOutcome text b) : a = b := by
  cases ha with
  | malformed hnone =>
      cases hb with
      | malformed => rfl
      | overlong hwritten hsentence _ => exact absurd ⟨_, _, hwritten, hsentence⟩ hnone
      | ok hwritten hsentence _ => exact absurd ⟨_, _, hwritten, hsentence⟩ hnone
  | overlong hwritten hsentence hfirst =>
      cases hb with
      | malformed hnone => exact absurd ⟨_, _, hwritten, hsentence⟩ hnone
      | overlong hwritten' hsentence' hfirst' =>
          obtain ⟨rfl, rfl⟩ := hsentence.eq_of_written hsentence' hwritten hwritten'
          rw [hfirst.unique hfirst']
      | ok hwritten' hsentence' hlimit =>
          obtain ⟨rfl, rfl⟩ := hsentence.eq_of_written hsentence' hwritten hwritten'
          exact absurd hlimit hfirst.not_withinLimit
  | ok hwritten hsentence hlimit =>
      cases hb with
      | malformed hnone => exact absurd ⟨_, _, hwritten, hsentence⟩ hnone
      | overlong hwritten' hsentence' hfirst =>
          obtain ⟨rfl, rfl⟩ := hsentence.eq_of_written hsentence' hwritten hwritten'
          exact absurd hlimit hfirst.not_withinLimit
      | ok hwritten' hsentence' _ =>
          obtain ⟨rfl, rfl⟩ := hsentence.eq_of_written hsentence' hwritten hwritten'
          rfl

theorem parse_eq_iff {result : Except ParseError QualifiedName} :
    parse text = result ↔ ParseOutcome text result := by
  constructor
  · rintro rfl
    exact parse_outcome text
  · exact (parse_outcome text).unique

/-- Reading succeeds exactly for the texts written for a sentence without long numbers. -/
theorem parse_eq_ok_iff :
    parse text = .ok q ↔
      ∃ tokens, Written tokens text.toList ∧ Sentence tokens q ∧ WithinLimit tokens := by
  rw [parse_eq_iff]
  constructor
  · intro houtcome
    cases houtcome with
    | ok hwritten hsentence hlimit => exact ⟨_, hwritten, hsentence, hlimit⟩
  · rintro ⟨tokens, hwritten, hsentence, hlimit⟩
    exact .ok hwritten hsentence hlimit

theorem parse_eq_overlong_iff {length : Nat} :
    parse text = .error (.overlong length) ↔ OverlongText text length := by
  rw [parse_eq_iff]
  constructor
  · intro houtcome
    cases houtcome with
    | overlong hwritten hsentence hfirst => exact ⟨_, _, hwritten, hsentence, hfirst⟩
  · rintro ⟨tokens, q, hwritten, hsentence, hfirst⟩
    exact .overlong hwritten hsentence hfirst

theorem parse_eq_malformed_iff :
    parse text = .error .malformed ↔
      ¬∃ tokens q, Written tokens text.toList ∧ Sentence tokens q := by
  rw [parse_eq_iff]
  constructor
  · intro houtcome
    cases houtcome with
    | malformed hnone => exact hnone
  · exact .malformed

theorem parse_eq_some_iff : parse? text = some q ↔ parse text = .ok q := by
  unfold parse?
  cases parse text with
  | error => simp [Except.toOption]
  | ok r => simp [Except.toOption]

end HalBridge.QualifiedName
