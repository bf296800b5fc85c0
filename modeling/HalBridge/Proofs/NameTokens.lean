import HalBridge.QualifiedName.Parser
import Mathlib.Data.List.Basic
import Mathlib.Data.List.TakeWhile

/-!
# Tokens of qualified names

White space may stand before every token and at the end. `Written tokens text` says that `text` is
one way to write `tokens`. Cutting a text into the longest tokens possible finds the tokens that it
is written for, as long as no two words stand side by side.
-/

namespace HalBridge.QualifiedName.Token

/-- A name: a letter or an underscore, then letters, digits and underscores. -/
def isName (text : String) : Bool :=
  match text.toList with
  | [] => false
  | c :: cs => startsName c && cs.all continuesName

/-- The characters of a token by itself. -/
inductive Spelled : Token → List Char → Prop where
  | name {text : String} : isName text → Spelled (.name text) text.toList
  | number {cs : List Char} : cs ≠ [] → (∀ c ∈ cs, isNumeral c) → Spelled (.number cs) cs
  | dot : Spelled .dot ['.']
  | atSign : Spelled .atSign ['@']
  | colons : Spelled .colons [':', ':']

/-- The text of a list of tokens, with white space before each of them and at the end. -/
inductive Written : List Token → List Char → Prop where
  | done (blank : List Char) : (∀ c ∈ blank, isSpace c) → Written [] blank
  | token {token : Token} {tokens : List Token} (blank : List Char) {cs rest : List Char} :
      (∀ c ∈ blank, isSpace c) → Spelled token cs → Written tokens rest →
      Written (token :: tokens) (blank ++ (cs ++ rest))

def isWord : Token → Bool
  | .name _ => true
  | .number _ => true
  | _ => false

/-- No two words stand side by side, so that none of them can run into the next. -/
def Separated (tokens : List Token) : Prop :=
  tokens.IsChain fun a b => !(a.isWord && b.isWord)

theorem isName_iff {text : String} :
    isName text ↔ ∃ c cs, text.toList = c :: cs ∧ startsName c ∧ ∀ d ∈ cs, continuesName d := by
  unfold isName
  cases htext : text.toList with
  | nil => simp
  | cons c cs => simp [List.all_eq_true]

theorem isName_ofList_cons {c : Char} {cs : List Char} (hc : startsName c)
    (hcs : ∀ d ∈ cs, continuesName d) : isName (String.ofList (c :: cs)) :=
  isName_iff.mpr ⟨c, cs, String.toList_ofList, hc, hcs⟩

/-! ### Cutting finds only what is written -/

namespace Written

variable {tokens : List Token} {cs : List Char}

theorem space {c : Char} (hc : isSpace c) (h : Written tokens cs) : Written tokens (c :: cs) := by
  cases h with
  | done _ hblank => exact .done _ (List.forall_mem_cons.mpr ⟨hc, hblank⟩)
  | token blank hblank hspelled hrest =>
      exact .token (c :: blank) (List.forall_mem_cons.mpr ⟨hc, hblank⟩) hspelled hrest

theorem cons {token : Token} {spelled : List Char} (hspelled : Spelled token spelled)
    (h : Written tokens cs) : Written (token :: tokens) (spelled ++ cs) :=
  .token [] (by simp) hspelled h

theorem isName_of_mem (h : Written tokens cs) {text : String} (htext : Token.name text ∈ tokens) :
    isName text := by
  induction h with
  | done => cases htext
  | token _ _ hspelled _ ih =>
      rcases List.mem_cons.mp htext with heq | hmem
      · subst heq
        cases hspelled
        assumption
      · exact ih hmem

theorem isNumeral_of_mem (h : Written tokens cs) {digits : List Char}
    (hdigits : Token.number digits ∈ tokens) : ∀ c ∈ digits, isNumeral c := by
  induction h with
  | done => cases hdigits
  | token _ _ hspelled _ ih =>
      rcases List.mem_cons.mp hdigits with heq | hmem
      · subst heq
        cases hspelled
        assumption
      · exact ih hmem

end Written

theorem written_of_scan {cs : List Char} {tokens : List Token} (h : scan? cs = some tokens) :
    Written tokens cs := by
  fun_induction scan? cs generalizing tokens with
  | case1 =>
      cases h
      exact .done [] (by simp)
  | case2 c rest hspace ih => exact (ih h).space hspace
  | case3 c rest _ hstart ih =>
      obtain ⟨tokens, hrest, rfl⟩ := Option.map_eq_some_iff.mp h
      have hname : isName (String.ofList (c :: rest.takeWhile continuesName)) :=
        isName_ofList_cons hstart fun d hd => List.mem_takeWhile_imp hd
      have hwritten := (ih hrest).cons (.name hname)
      rw [String.toList_ofList, List.cons_append, List.takeWhile_append_dropWhile] at hwritten
      exact hwritten
  | case4 c rest _ _ hnumeral ih =>
      obtain ⟨tokens, hrest, rfl⟩ := Option.map_eq_some_iff.mp h
      have hdigits : ∀ d ∈ c :: rest.takeWhile isNumeral, isNumeral d :=
        List.forall_mem_cons.mpr ⟨hnumeral, fun d hd => List.mem_takeWhile_imp hd⟩
      have hwritten := (ih hrest).cons (.number (by simp) hdigits)
      rw [List.cons_append, List.takeWhile_append_dropWhile] at hwritten
      exact hwritten
  | case5 rest _ _ _ ih =>
      obtain ⟨tokens, hrest, rfl⟩ := Option.map_eq_some_iff.mp h
      exact (ih hrest).cons .dot
  | case6 rest _ _ _ _ ih =>
      obtain ⟨tokens, hrest, rfl⟩ := Option.map_eq_some_iff.mp h
      exact (ih hrest).cons .atSign
  | case7 more _ _ _ _ _ ih =>
      obtain ⟨tokens, hrest, rfl⟩ := Option.map_eq_some_iff.mp h
      exact (ih hrest).cons .colons
  | case8 => cases h

/-! ### Cutting finds all that is written

The only way to go wrong is to read past the end of a word, so what has to be known of the rest of
the text is that its first character continues no word. -/

/-- The text does not continue a word that stands before it. -/
def EndsWord (rest : List Char) : Prop :=
  ∀ c, rest.head? = some c → continuesName c = false

theorem continuesName_of_isNumeral {c : Char} (h : isNumeral c) : continuesName c := by
  simp [continuesName, h]

theorem continuesName_of_startsName {c : Char} (h : startsName c) : continuesName c := by
  simp [continuesName, h]

theorem continuesName_eq_false_of_isSpace {c : Char} (h : isSpace c) :
    continuesName c = false := by
  simp only [isSpace, Bool.or_eq_true, decide_eq_true_eq] at h
  rcases h with (((rfl | rfl) | rfl) | rfl) | rfl <;> decide

theorem isSpace_eq_false_of_continuesName {c : Char} (h : continuesName c) :
    isSpace c = false := by
  cases hspace : isSpace c with
  | false => rfl
  | true =>
      rw [continuesName_eq_false_of_isSpace hspace] at h
      cases h

theorem startsName_eq_false_of_isNumeral {c : Char} (h : isNumeral c) : startsName c = false := by
  have hle : c ≤ '9' := by
    simp only [isNumeral, Bool.and_eq_true, decide_eq_true_eq] at h
    exact h.2
  have hnot : ∀ d : Char, '9' < d → ¬d ≤ c := fun d hd hdc =>
    absurd (Char.le_trans hdc hle) (Char.not_le.mpr hd)
  have hupper : ¬ 'A' ≤ c := hnot 'A' (by decide)
  have hlower : ¬ 'a' ≤ c := hnot 'a' (by decide)
  have hunderscore : c ≠ '_' := by
    rintro rfl
    exact absurd hle (by decide)
  simp [startsName, hupper, hlower, hunderscore]

theorem endsWord_of_all_isSpace {blank : List Char} (rest : List Char)
    (hblank : ∀ c ∈ blank, isSpace c) (hrest : EndsWord rest) : EndsWord (blank ++ rest) := by
  cases blank with
  | nil => exact hrest
  | cons c cs =>
      rintro d hd
      cases hd
      exact continuesName_eq_false_of_isSpace (hblank c (List.mem_cons_self ..))

theorem EndsWord.takeWhile_eq_nil {rest : List Char} (h : EndsWord rest) {p : Char → Bool}
    (hp : ∀ c, p c → continuesName c) : rest.takeWhile p = [] := by
  cases rest with
  | nil => rfl
  | cons c cs =>
      refine List.takeWhile_cons_of_neg fun hc => ?_
      have hfalse := h c rfl
      rw [hp c hc] at hfalse
      cases hfalse

theorem EndsWord.dropWhile_eq_self {rest : List Char} (h : EndsWord rest) {p : Char → Bool}
    (hp : ∀ c, p c → continuesName c) : rest.dropWhile p = rest := by
  have happend := List.takeWhile_append_dropWhile (p := p) (l := rest)
  rw [h.takeWhile_eq_nil hp, List.nil_append] at happend
  exact happend

/-- A text whose first token is no word continues no word. -/
theorem endsWord_of_written {tokens : List Token} {cs : List Char} (h : Written tokens cs)
    (hfirst : ∀ token, tokens.head? = some token → token.isWord = false) : EndsWord cs := by
  cases h with
  | done _ hblank =>
      have hend := endsWord_of_all_isSpace [] hblank (by rintro _ ⟨⟩)
      rwa [List.append_nil] at hend
  | token _ hblank hspelled hrest =>
      refine endsWord_of_all_isSpace _ hblank ?_
      have hword := hfirst _ rfl
      rintro c hc
      cases hspelled with
      | name => cases hword
      | number => cases hword
      | dot =>
          cases hc
          decide
      | atSign =>
          cases hc
          decide
      | colons =>
          cases hc
          decide

theorem scan_blank {blank : List Char} (rest : List Char) (hblank : ∀ c ∈ blank, isSpace c) :
    scan? (blank ++ rest) = scan? rest := by
  induction blank with
  | nil => rfl
  | cons c cs ih =>
      rw [List.cons_append, scan?.eq_def]
      simp only [hblank c (List.mem_cons_self ..), if_true]
      exact ih (List.forall_mem_of_forall_mem_cons hblank)

/-- One token is cut off the front. -/
theorem scan_spelled {token : Token} {cs rest : List Char} (hspelled : Spelled token cs)
    (hend : token.isWord → EndsWord rest) :
    scan? (cs ++ rest) = (scan? rest).map (token :: ·) := by
  cases hspelled with
  | @name text hname =>
      obtain ⟨c, cs, htext, hc, hcs⟩ := isName_iff.mp hname
      have hrest := hend rfl
      have hspace := isSpace_eq_false_of_continuesName (continuesName_of_startsName hc)
      rw [htext, List.cons_append, scan?.eq_def]
      simp only [hspace, Bool.false_eq_true, if_false, hc, if_true]
      rw [List.takeWhile_append_of_pos hcs, List.dropWhile_append_of_pos hcs,
        hrest.takeWhile_eq_nil fun _ h => h, hrest.dropWhile_eq_self fun _ h => h,
        List.append_nil, ← htext, String.ofList_toList]
  | number hne hdigits =>
      obtain ⟨c, cs, rfl⟩ := List.exists_cons_of_ne_nil hne
      have hrest := hend rfl
      have hc := hdigits c (List.mem_cons_self ..)
      have hcs := List.forall_mem_of_forall_mem_cons hdigits
      have hspace := isSpace_eq_false_of_continuesName (continuesName_of_isNumeral hc)
      have hstart := startsName_eq_false_of_isNumeral hc
      rw [List.cons_append, scan?.eq_def]
      simp only [hspace, hstart, Bool.false_eq_true, if_false, hc, if_true]
      rw [List.takeWhile_append_of_pos hcs, List.dropWhile_append_of_pos hcs,
        hrest.takeWhile_eq_nil fun _ h => continuesName_of_isNumeral h,
        hrest.dropWhile_eq_self fun _ h => continuesName_of_isNumeral h, List.append_nil]
  | dot =>
      rw [List.cons_append, List.nil_append, scan?.eq_def]
      rfl
  | atSign =>
      rw [List.cons_append, List.nil_append, scan?.eq_def]
      rfl
  | colons =>
      rw [List.cons_append, List.cons_append, List.nil_append, scan?.eq_def]
      rfl

/-- Whatever white space a text is written with, cutting it gives the tokens. -/
theorem scan_of_written {tokens : List Token} {cs : List Char} (h : Written tokens cs)
    (hsep : Separated tokens) : scan? cs = some tokens := by
  induction h with
  | done blank hblank =>
      have hscan := scan_blank [] hblank
      rw [List.append_nil] at hscan
      rw [hscan, scan?]
  | @token token tokens blank cs rest hblank hspelled hrest ih =>
      have hend : token.isWord → EndsWord rest := by
        intro hword
        refine endsWord_of_written hrest fun next hnext => ?_
        cases tokens with
        | nil => cases hnext
        | cons follower others =>
            cases hnext
            have hpair := (List.isChain_cons_cons.mp hsep).1
            simpa [hword] using hpair
      rw [scan_blank _ hblank, scan_spelled hspelled hend, ih (List.IsChain.of_cons hsep)]
      rfl

end HalBridge.QualifiedName.Token
