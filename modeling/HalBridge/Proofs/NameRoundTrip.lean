import HalBridge.Proofs.NameGrammar
import Mathlib.Algebra.Group.Nat.Defs
import Mathlib.Data.List.Induction

/-!
# Reading what was written

`toText` writes a name made of proper segments for a sentence of the grammar, with no white space
and no leading zeros. Reading is therefore a left inverse of writing on such names as long as their
numbers are not too long, and every name that can be read at all is such a name.
-/

namespace HalBridge.QualifiedName

open Token

/-- A package of names with dots between them, and a type whose segments are names, or no type. -/
structure Regular (q : QualifiedName) : Prop where
  package : ∃ names, names ≠ [] ∧ (∀ name ∈ names, isName name) ∧
    q.package = String.intercalate "." names
  type : (q.name = some "" ∧ q.scope = []) ∨
    ∃ name, q.name = some name ∧ isName name ∧ ∀ outer ∈ q.scope, isName outer

theorem mem_dotted {names : List String} {name : String} (h : name ∈ names) :
    Token.name name ∈ dotted names := by
  induction names with
  | nil => cases h
  | cons first others ih =>
      by_cases hothers : others = []
      · subst hothers
        rw [List.mem_singleton.mp h]
        exact List.mem_singleton_self _
      · rw [dotted_cons hothers]
        rcases List.mem_cons.mp h with rfl | hmem
        · exact List.mem_cons_self ..
        · exact List.mem_cons_of_mem _ (List.mem_cons_of_mem _ (ih hmem))

/-- What is read is made of proper segments. -/
theorem Sentence.regular {tokens : List Token} {cs : List Char} {q : QualifiedName}
    (h : Sentence tokens q) (hwritten : Written tokens cs) : Regular q := by
  cases h with
  | @release package _ _ hne =>
      refine ⟨⟨package, hne, ?_, rfl⟩, Or.inl ⟨rfl, rfl⟩⟩
      intro name hname
      exact hwritten.isName_of_mem (List.mem_append_left _ (mem_dotted hname))
  | @type package _ _ scope name hne =>
      have hpackage : ∀ segment ∈ package, isName segment := fun segment hmem =>
        hwritten.isName_of_mem
          (List.mem_append_left _ (List.mem_append_left _ (mem_dotted hmem)))
      have htype : ∀ segment ∈ scope ++ [name], isName segment := fun segment hmem =>
        hwritten.isName_of_mem (List.mem_append_right _ (List.mem_cons_of_mem _ (mem_dotted hmem)))
      refine ⟨⟨package, hne, hpackage, rfl⟩, Or.inr ⟨name, rfl, ?_, ?_⟩⟩
      · exact htype name (List.mem_append_right _ (List.mem_singleton_self _))
      · exact fun outer houter => htype outer (List.mem_append_left _ houter)

/-! ### Writing -/

theorem written_dotted {names : List String} {tokens : List Token} {rest : List Char}
    (hne : names ≠ []) (hnames : ∀ name ∈ names, isName name) (h : Written tokens rest) :
    Written (dotted names ++ tokens) ((String.intercalate "." names).toList ++ rest) := by
  induction names with
  | nil => exact absurd rfl hne
  | cons first others ih =>
      have hfirst : Spelled (.name first) first.toList :=
        .name (hnames first (List.mem_cons_self ..))
      by_cases hothers : others = []
      · subst hothers
        rw [String.intercalate_singleton]
        exact h.cons hfirst
      · rw [dotted_cons hothers, String.intercalate_cons_of_ne_nil hothers, String.toList_append,
          String.toList_append, List.append_assoc, List.append_assoc]
        have hrest := ih hothers (List.forall_mem_of_forall_mem_cons hnames)
        exact (hrest.cons .dot).cons hfirst

theorem numberOf_eq_ofDigitChars (cs : List Char) : numberOf cs = Nat.ofDigitChars 10 cs 0 := by
  rw [numberOf, Text.ofDecimalDigits, List.foldl_map, Nat.ofDigitChars_eq_foldl]

/-- The digits that a number is written with. -/
def digitsOf (n : Nat) : List Char :=
  (toString n).toList

theorem digitsOf_eq_toDigits (n : Nat) : digitsOf n = Nat.toDigits 10 n :=
  Nat.toList_repr

theorem numberOf_digitsOf (n : Nat) : numberOf (digitsOf n) = n := by
  rw [digitsOf_eq_toDigits, numberOf_eq_ofDigitChars, Nat.ofDigitChars_ten_toDigits]

theorem spelled_digitsOf (n : Nat) : Spelled (.number (digitsOf n)) (digitsOf n) := by
  rw [digitsOf_eq_toDigits]
  refine .number Nat.toDigits_ne_nil fun c hc => ?_
  have hdigit := Nat.isDigit_of_mem_toDigits (by decide) (by decide) hc
  simpa [isNumeral, Char.isDigit, Char.le_def] using hdigit

theorem written_release {package : List String} (version : Version) {tokens : List Token}
    {rest : List Char} (hne : package ≠ []) (hnames : ∀ name ∈ package, isName name)
    (h : Written tokens rest) :
    Written (releaseTokens package (digitsOf version.major) (digitsOf version.minor) ++ tokens)
      ((String.intercalate "." package ++ "@" ++ version.toText).toList ++ rest) := by
  have hminor := (h.cons (spelled_digitsOf version.minor)).cons .dot
  have hversion := (hminor.cons (spelled_digitsOf version.major)).cons .atSign
  have hall := written_dotted hne hnames hversion
  rw [releaseTokens, List.append_assoc]
  simpa [Version.toText, digitsOf, String.toList_append, List.append_assoc] using hall

/-- The tokens stand for the name and write its numbers without leading zeros. -/
structure Plain (tokens : List Token) (q : QualifiedName) : Prop where
  sentence : Sentence tokens q
  numbers : ∀ digits, Token.number digits ∈ tokens ↔
    digits = digitsOf q.version.major ∨ digits = digitsOf q.version.minor

theorem not_number_mem_dotted {names : List String} {digits : List Char} :
    Token.number digits ∉ dotted names := by
  fun_induction dotted names with
  | case1 => exact List.not_mem_nil
  | case2 => simp
  | case3 text rest _ ih => simpa using ih

theorem plain_release {package : List String} (version : Version) (hne : package ≠ []) :
    Plain (releaseTokens package (digitsOf version.major) (digitsOf version.minor))
      { package := String.intercalate "." package, version } := by
  constructor
  · have hsentence := Sentence.release (digitsOf version.major) (digitsOf version.minor) hne
    rwa [numberOf_digitsOf, numberOf_digitsOf] at hsentence
  · intro digits
    simp [releaseTokens, not_number_mem_dotted]

theorem plain_type {package : List String} (version : Version) (scope : List String)
    (name : String) (hne : package ≠ []) :
    Plain (releaseTokens package (digitsOf version.major) (digitsOf version.minor) ++
        .colons :: dotted (scope ++ [name]))
      { package := String.intercalate "." package, version, name := some name, scope } := by
  constructor
  · have hsentence :=
      Sentence.type (digitsOf version.major) (digitsOf version.minor) scope name hne
    rwa [numberOf_digitsOf, numberOf_digitsOf] at hsentence
  · intro digits
    simp [releaseTokens, not_number_mem_dotted]

/-- A name with proper segments is written for a sentence that stands for it. -/
theorem Regular.written_toText {q : QualifiedName} (h : Regular q) :
    ∃ tokens, Written tokens q.toText.toList ∧ Plain tokens q := by
  obtain ⟨package, version, name, scope⟩ := q
  obtain ⟨⟨names, hne, hnames, hpackage⟩, htype⟩ := h
  dsimp only at hpackage htype
  subst hpackage
  rcases htype with ⟨hname, hscope⟩ | ⟨type, hname, htype, hscope⟩
  · subst hname hscope
    refine ⟨_, ?_, plain_release version hne⟩
    have hwritten := written_release version hne hnames (.done [] (by simp))
    simpa [toText, namesType] using hwritten
  · subst hname
    have hsegments : ∀ segment ∈ scope ++ [type], isName segment := by
      intro segment hmem
      rcases List.mem_append.mp hmem with hmem | hmem
      · exact hscope segment hmem
      · rw [List.mem_singleton.mp hmem]
        exact htype
    have hgiven : type.isEmpty = false := by
      obtain ⟨c, cs, htext, -⟩ := isName_iff.mp htype
      cases hempty : type.isEmpty with
      | false => rfl
      | true =>
          rw [String.isEmpty_iff.mp hempty] at htext
          cases htext
    refine ⟨_, ?_, plain_type version scope type hne⟩
    have hpath := written_dotted (by simp) hsegments (.done [] (by simp))
    have hwritten := written_release version hne hnames (hpath.cons .colons)
    simpa [toText, namesType, localName, QualifiedName.names, hgiven, String.toList_append]
      using hwritten

/-- Different names with proper segments have different texts, however long their numbers are. -/
theorem Regular.toText_inj {q r : QualifiedName} (hq : Regular q) (hr : Regular r)
    (h : q.toText = r.toText) : q = r := by
  obtain ⟨tokens, hwritten, hplain⟩ := hq.written_toText
  obtain ⟨others, hothers, hplain'⟩ := hr.written_toText
  rw [h] at hwritten
  exact (hplain.sentence.eq_of_written hplain'.sentence hwritten hothers).2

/-! ### Long numbers -/

theorem length_digitsOf_le_iff {n : Nat} :
    (digitsOf n).length ≤ Text.digitLimit ↔ n < 10 ^ Text.digitLimit := by
  rw [digitsOf_eq_toDigits]
  exact Nat.length_toDigits_le_iff (by decide) (by decide)

theorem isWritable_iff {version : Version} :
    version.isWritable ↔
      version.major < 10 ^ Text.digitLimit ∧ version.minor < 10 ^ Text.digitLimit := by
  rw [← length_digitsOf_le_iff, ← length_digitsOf_le_iff]
  simp only [Version.isWritable, digitsOf, Bool.and_eq_true, decide_eq_true_eq,
    String.length_toList]

theorem numberOf_lt {digits : List Char} (h : ∀ c ∈ digits, isNumeral c) :
    numberOf digits < 10 ^ digits.length := by
  induction digits using List.reverseRecOn with
  | nil => decide
  | append_singleton front c ih =>
      have hfront := ih fun d hd => h d (List.mem_append_left _ hd)
      have hc : c.toNat - '0'.toNat < 10 := by
        have hnumeral := h c (List.mem_append_right _ (List.mem_singleton_self c))
        simp only [isNumeral, Bool.and_eq_true, decide_eq_true_eq] at hnumeral
        have hle : c.toNat ≤ '9'.toNat := hnumeral.2
        have hnine : '9'.toNat - '0'.toNat < 10 := by decide
        omega
      have hstep : numberOf (front ++ [c]) = 10 * numberOf front + (c.toNat - '0'.toNat) := by
        simp [numberOf, Text.ofDecimalDigits]
      rw [hstep, List.length_append, List.length_singleton, Nat.pow_succ]
      omega

/-- A number that is read can be written. -/
theorem Sentence.isWritable {tokens : List Token} {cs : List Char} {q : QualifiedName}
    (h : Sentence tokens q) (hwritten : Written tokens cs) (hlimit : WithinLimit tokens) :
    q.version.isWritable := by
  have hnumber : ∀ digits, Token.number digits ∈ tokens →
      numberOf digits < 10 ^ Text.digitLimit := fun digits hmem =>
    (numberOf_lt (hwritten.isNumeral_of_mem hmem)).trans_le
      (Nat.pow_le_pow_right (by decide) (hlimit digits hmem))
  rw [isWritable_iff]
  cases h with
  | release major minor =>
      exact ⟨hnumber major (by simp [releaseTokens]), hnumber minor (by simp [releaseTokens])⟩
  | type major minor =>
      exact ⟨hnumber major (by simp [releaseTokens]), hnumber minor (by simp [releaseTokens])⟩

theorem Plain.withinLimit_iff {tokens : List Token} {q : QualifiedName} (h : Plain tokens q) :
    WithinLimit tokens ↔ q.version.isWritable := by
  rw [isWritable_iff, ← length_digitsOf_le_iff, ← length_digitsOf_le_iff]
  simp only [WithinLimit, h.numbers]
  constructor
  · exact fun hlimit => ⟨hlimit _ (Or.inl rfl), hlimit _ (Or.inr rfl)⟩
  · rintro ⟨hmajor, hminor⟩ digits (rfl | rfl)
    · exact hmajor
    · exact hminor

theorem Regular.parse_toText {q : QualifiedName} (h : Regular q)
    (hwritable : q.version.isWritable) : parse q.toText = .ok q := by
  obtain ⟨tokens, hwritten, hplain⟩ := h.written_toText
  exact parse_eq_ok_iff.mpr
    ⟨tokens, hwritten, hplain.sentence, hplain.withinLimit_iff.mpr hwritable⟩

theorem regular_of_parse {text : String} {q : QualifiedName} (h : parse? text = some q) :
    Regular q := by
  obtain ⟨tokens, hwritten, hsentence, -⟩ := parse_eq_ok_iff.mp (parse_eq_some_iff.mp h)
  exact hsentence.regular hwritten

/-! ### Leading zeros -/

/-- The token without the zeros before its number. -/
def Token.bare : Token → Token
  | .number digits => .number (digits.dropWhile (· = '0'))
  | token => token

theorem numberOf_dropWhile_zero (digits : List Char) :
    numberOf (digits.dropWhile (· = '0')) = numberOf digits := by
  induction digits with
  | nil => rfl
  | cons c rest ih =>
      by_cases hc : c = '0'
      · subst hc
        rw [List.dropWhile_cons_of_pos (by decide), ih]
        simp [numberOf, Text.ofDecimalDigits]
      · rw [List.dropWhile_cons_of_neg (by simpa using hc)]

theorem map_bare_dotted (names : List String) : (dotted names).map bare = dotted names := by
  fun_induction dotted names with
  | case1 => rfl
  | case2 => rfl
  | case3 text rest _ ih => simp [bare, ih]

theorem bare_eq_number_iff {token : Token} {digits : List Char} :
    bare token = .number digits ↔
      ∃ written, token = .number written ∧ written.dropWhile (· = '0') = digits := by
  cases token <;> simp [bare]

theorem bare_eq_iff {token : Token} (other : Token) (hother : ∀ digits, other ≠ .number digits) :
    bare token = other ↔ token = other := by
  cases token with
  | number written => simp [bare, (hother _).symm]
  | _ => rfl

theorem eq_dotted_of_map_bare {tokens : List Token} {names : List String}
    (h : tokens.map bare = dotted names) : tokens = dotted names := by
  have hsame : ∀ token ∈ tokens, bare token = token := by
    intro token htoken
    have hmem : bare token ∈ dotted names := h ▸ List.mem_map_of_mem htoken
    cases token with
    | number written => exact absurd hmem not_number_mem_dotted
    | _ => rfl
  rw [← h, List.map_congr_left hsame, List.map_id']

theorem eq_version_of_map_bare {tokens rest : List Token} {major minor : List Char}
    (h : tokens.map bare = .atSign :: .number major :: .dot :: .number minor :: rest) :
    ∃ major' minor' rest', tokens = .atSign :: .number major' :: .dot :: .number minor' :: rest' ∧
      major'.dropWhile (· = '0') = major ∧ minor'.dropWhile (· = '0') = minor ∧
      rest'.map bare = rest := by
  simp only [List.map_eq_cons_iff, bare_eq_number_iff, bare_eq_iff .atSign (by simp),
    bare_eq_iff .dot (by simp)] at h
  obtain ⟨_, _, rfl, rfl, _, _, rfl, ⟨major', rfl, hmajor⟩, _, _, rfl, rfl, _, rest', rfl,
    ⟨minor', rfl, hminor⟩, hrest⟩ := h
  exact ⟨major', minor', rest', rfl, hmajor, hminor, hrest⟩

theorem numberOf_eq_of_dropWhile {digits written : List Char}
    (h : written.dropWhile (· = '0') = digits.dropWhile (· = '0')) :
    numberOf digits = numberOf written := by
  rw [← numberOf_dropWhile_zero digits, ← h, numberOf_dropWhile_zero]

/-- Tokens that differ in leading zeros only stand for the same name. -/
theorem Sentence.of_map_bare {tokens others : List Token} {q : QualifiedName}
    (h : Sentence tokens q) (hbare : tokens.map bare = others.map bare) : Sentence others q := by
  cases h with
  | @release package major minor hne =>
      simp only [releaseTokens, List.map_append, map_bare_dotted, List.map_cons, bare,
        List.map_nil] at hbare
      obtain ⟨front, back, rfl, hfront, hback⟩ := List.map_eq_append_iff.mp hbare.symm
      obtain rfl := eq_dotted_of_map_bare hfront
      obtain ⟨major', minor', rest, rfl, hmajor, hminor, hrest⟩ := eq_version_of_map_bare hback
      obtain rfl := List.map_eq_nil_iff.mp hrest
      rw [numberOf_eq_of_dropWhile hmajor, numberOf_eq_of_dropWhile hminor]
      exact .release major' minor' hne
  | @type package major minor scope name hne =>
      simp only [releaseTokens, List.map_append, map_bare_dotted, List.map_cons, bare,
        List.append_assoc, List.cons_append, List.nil_append] at hbare
      obtain ⟨front, back, rfl, hfront, hback⟩ := List.map_eq_append_iff.mp hbare.symm
      obtain rfl := eq_dotted_of_map_bare hfront
      obtain ⟨major', minor', rest, rfl, hmajor, hminor, hrest⟩ := eq_version_of_map_bare hback
      obtain ⟨mark, type, rfl, hmark, htype⟩ := List.map_eq_cons_iff.mp hrest
      obtain rfl := (bare_eq_iff .colons (by simp)).mp hmark
      obtain rfl := eq_dotted_of_map_bare htype
      rw [numberOf_eq_of_dropWhile hmajor, numberOf_eq_of_dropWhile hminor]
      have hsentence := Sentence.type major' minor' scope name hne
      simpa [releaseTokens] using hsentence

/-! ### Reading and writing -/

variable {text : String} {q : QualifiedName}

theorem read_eq_ok_iff : read text = .ok q ↔ parse? text = some q := by
  rw [parse_eq_some_iff, read]
  cases parse text with
  | ok r => simp
  | error error => cases error <;> simp

theorem read_eq_overlong_iff {length : Nat} :
    read text = .error (.overlongVersion length) ↔ parse text = .error (.overlong length) := by
  rw [read]
  cases parse text with
  | ok r => simp
  | error error => cases error <;> simp

theorem read_eq_invalid_iff :
    read text = .error (.input (.invalidName text)) ↔ parse text = .error .malformed := by
  rw [read]
  cases parse text with
  | ok r => simp
  | error error => cases error <;> simp

/-- Reading accepts exactly the texts written for a sentence in which no number has more digits
than are read, and refuses the texts written for no sentence as invalid; a sentence with a longer
number fails in a third way. A name that was read, or that has proper segments and numbers that can
be written, is read back from its text; with a number that cannot be written it has no text. Names
with proper segments have different texts, and texts that are accepted and differ only in white
space and leading zeros are read as the same name. -/
theorem read_accepts_short_sentences (text other : String) (q r : QualifiedName) :
    (read text = .ok q ↔
      ∃ tokens, Written tokens text.toList ∧ Sentence tokens q ∧ WithinLimit tokens) ∧
    (read text = .error (.input (.invalidName text)) ↔
      ¬∃ tokens q, Written tokens text.toList ∧ Sentence tokens q) ∧
    (∀ length, read text = .error (.overlongVersion length) ↔ OverlongText text length) ∧
    (read text = .ok q → q.write = .ok q.toText ∧ read q.toText = .ok q) ∧
    (Regular q → q.version.major < 10 ^ Text.digitLimit → q.version.minor < 10 ^ Text.digitLimit →
      q.write = .ok q.toText ∧ read q.toText = .ok q) ∧
    (Regular q →
      ¬(q.version.major < 10 ^ Text.digitLimit ∧ q.version.minor < 10 ^ Text.digitLimit) →
      q.write = .error .unwritableNumber ∧ read q.toText ≠ .ok q) ∧
    (Regular q → Regular r → q.toText = r.toText → q = r) ∧
    (∀ tokens others, Written tokens text.toList → Written others other.toList →
      Sentence tokens q → tokens.map bare = others.map bare →
      WithinLimit tokens → WithinLimit others → read text = .ok q ∧ read other = .ok q) := by
  have hback : Regular q → q.version.isWritable →
      q.write = .ok q.toText ∧ read q.toText = .ok q := fun hregular hwritable =>
    ⟨if_pos hwritable, read_eq_ok_iff.mpr (parse_eq_some_iff.mpr (hregular.parse_toText hwritable))⟩
  have hread : ∀ {text q}, read text = .ok q ↔
      ∃ tokens, Written tokens text.toList ∧ Sentence tokens q ∧ WithinLimit tokens := by
    intro text q
    rw [read_eq_ok_iff, parse_eq_some_iff, parse_eq_ok_iff]
  refine ⟨hread, ?_, ?_, ?_, ?_, ?_, Regular.toText_inj, ?_⟩
  · rw [read_eq_invalid_iff, parse_eq_malformed_iff]
  · intro length
    rw [read_eq_overlong_iff, parse_eq_overlong_iff]
  · intro htext
    obtain ⟨tokens, hwritten, hsentence, hlimit⟩ := hread.mp htext
    exact hback (hsentence.regular hwritten) (hsentence.isWritable hwritten hlimit)
  · intro hregular hmajor hminor
    exact hback hregular (isWritable_iff.mpr ⟨hmajor, hminor⟩)
  · intro hregular hlong
    rw [← isWritable_iff] at hlong
    refine ⟨if_neg hlong, fun hsame => hlong ?_⟩
    obtain ⟨tokens, hwritten, hsentence, hlimit⟩ := hread.mp hsame
    exact hsentence.isWritable hwritten hlimit
  · intro tokens others htokens hothers hsentence hbare hlimit hlimit'
    exact ⟨hread.mpr ⟨tokens, htokens, hsentence, hlimit⟩,
      hread.mpr ⟨others, hothers, hsentence.of_map_bare hbare, hlimit'⟩⟩

/-- A release of version 1.0 whose major number has as many leading zeros as digits are read. -/
def paddedText : String :=
  String.ofList ("p@".toList ++ List.replicate Text.digitLimit '0' ++ "1.0".toList)

theorem overlong_paddedText : OverlongText paddedText (Text.digitLimit + 1) := by
  refine ⟨_, _, ?_, .release (List.replicate Text.digitLimit '0' ++ ['1']) ['0']
    (List.cons_ne_nil "p" []), [.name "p", .atSign], _, [.dot, .number ['0']], rfl, ?_, ?_, ?_⟩
  · have hmajor : Spelled (.number (List.replicate Text.digitLimit '0' ++ ['1']))
        (List.replicate Text.digitLimit '0' ++ ['1']) := by
      refine .number (by simp) fun c hc => ?_
      rcases List.mem_append.mp hc with hzero | hone
      · rw [List.eq_of_mem_replicate hzero]
        decide
      · rw [List.mem_singleton.mp hone]
        decide
    have hminor : Spelled (.number ['0']) ['0'] :=
      .number (by simp) (List.forall_mem_singleton.mpr (by decide))
    have hend := ((Written.done [] (by simp)).cons hminor).cons .dot
    have hall := ((hend.cons hmajor).cons .atSign).cons (@Spelled.name "p" (by decide))
    simpa [paddedText, releaseTokens, dotted] using hall
  · simp [WithinLimit]
  · simp
  · simp

theorem read_spaced_and_padded_names :
    read " a . b@01.0\t:: I.T\n" = .ok ⟨"a.b", ⟨1, 0⟩, some "T", ["I"]⟩ ∧
      read (toText ⟨"a.b", ⟨1, 0⟩, some "T", ["I"]⟩) = .ok ⟨"a.b", ⟨1, 0⟩, some "T", ["I"]⟩ ∧
      read paddedText = .error (.overlongVersion (Text.digitLimit + 1)) := by
  have hread : read " a . b@01.0\t:: I.T\n" = .ok ⟨"a.b", ⟨1, 0⟩, some "T", ["I"]⟩ := by cbv
  have hspaced := read_accepts_short_sentences " a . b@01.0\t:: I.T\n" ""
    ⟨"a.b", ⟨1, 0⟩, some "T", ["I"]⟩ ⟨"a.b", ⟨1, 0⟩, some "T", ["I"]⟩
  have hpadded := read_accepts_short_sentences paddedText ""
    ⟨"a.b", ⟨1, 0⟩, some "T", ["I"]⟩ ⟨"a.b", ⟨1, 0⟩, some "T", ["I"]⟩
  exact ⟨hread, (hspaced.2.2.2.1 hread).2, (hpadded.2.2.1 _).mpr overlong_paddedText⟩

end HalBridge.QualifiedName
