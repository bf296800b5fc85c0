import HalBridge.Proofs.NameRoundTrip

/-!
# Names inside texts

File paths and messages are put together from names and fixed texts. A text can be cut at the first
or at the last occurrence of a character in one way only, and the texts of names have neither
quotes nor blanks, so the names can be found again in what is put together.
-/

namespace HalBridge

section Cuts

variable {α : Type} {c : α} {front front' back back' : List α}

theorem eq_of_first (hfront : c ∉ front) (hfront' : c ∉ front')
    (h : front ++ c :: back = front' ++ c :: back') : front = front' ∧ back = back' := by
  induction front generalizing front' with
  | nil =>
      cases front' with
      | nil => exact ⟨rfl, (List.cons.inj h).2⟩
      | cons d rest => exact absurd (List.mem_cons.mpr (Or.inl (List.cons.inj h).1)) hfront'
  | cons d rest ih =>
      cases front' with
      | nil => exact absurd (List.mem_cons.mpr (Or.inl (List.cons.inj h).1.symm)) hfront
      | cons d' rest' =>
          obtain ⟨rfl, hrest⟩ := List.cons.inj h
          obtain ⟨rfl, rfl⟩ := ih (fun hmem => hfront (List.mem_cons_of_mem _ hmem))
            (fun hmem => hfront' (List.mem_cons_of_mem _ hmem)) hrest
          exact ⟨rfl, rfl⟩

theorem eq_of_last (hback : c ∉ back) (hback' : c ∉ back')
    (h : front ++ c :: back = front' ++ c :: back') : front = front' ∧ back = back' := by
  have hreverse := congrArg List.reverse h
  simp only [List.reverse_append, List.reverse_cons, List.append_assoc,
    List.singleton_append] at hreverse
  obtain ⟨hbacks, hfronts⟩ := eq_of_first (by simpa using hback) (by simpa using hback') hreverse
  exact ⟨List.reverse_inj.mp hfronts, List.reverse_inj.mp hbacks⟩

end Cuts

/-! ### Numbers -/

theorem toString_inj {m n : Nat} (h : toString m = toString n) : m = n := by
  have hdigits : Nat.toDigits 10 m = Nat.toDigits 10 n := by
    simpa only [Nat.toString_eq_repr, Nat.toList_repr] using congrArg String.toList h
  calc
    m = Nat.ofDigitChars 10 (Nat.toDigits 10 m) 0 := Nat.ofDigitChars_ten_toDigits.symm
    _ = Nat.ofDigitChars 10 (Nat.toDigits 10 n) 0 := by rw [hdigits]
    _ = n := Nat.ofDigitChars_ten_toDigits

theorem toString_ne_empty (n : Nat) : toString n ≠ "" := by
  intro hempty
  have hdigits : Nat.toDigits 10 n = [] := by
    simpa [Nat.toString_eq_repr] using congrArg String.toList hempty
  exact Nat.toDigits_ne_nil hdigits

theorem isDigit_of_mem_toString {n : Nat} {c : Char} (h : c ∈ (toString n).toList) : c.isDigit := by
  rw [Nat.toString_eq_repr, Nat.toList_repr] at h
  exact Nat.isDigit_of_mem_toDigits (by decide) (by decide) h

/-! ### Names -/

namespace QualifiedName

open Token

theorem mem_intercalate {separator : String} {names : List String} {c : Char}
    (h : c ∈ (String.intercalate separator names).toList) :
    c ∈ separator.toList ∨ ∃ name ∈ names, c ∈ name.toList := by
  induction names with
  | nil => simp at h
  | cons first others ih =>
      by_cases hothers : others = []
      · subst hothers
        rw [String.intercalate_singleton] at h
        exact Or.inr ⟨first, List.mem_cons_self, h⟩
      · rw [String.intercalate_cons_of_ne_nil hothers, String.toList_append,
          String.toList_append, List.mem_append, List.mem_append] at h
        rcases h with (hfirst | hseparator) | hrest
        · exact Or.inr ⟨first, List.mem_cons_self, hfirst⟩
        · exact Or.inl hseparator
        · rcases ih hrest with hseparator | ⟨name, hname, hc⟩
          · exact Or.inl hseparator
          · exact Or.inr ⟨name, List.mem_cons_of_mem _ hname, hc⟩

theorem continuesName_of_mem {name : String} {c : Char} (hname : isName name)
    (hc : c ∈ name.toList) : continuesName c := by
  obtain ⟨first, rest, htext, hfirst, hrest⟩ := isName_iff.mp hname
  rw [htext] at hc
  rcases List.mem_cons.mp hc with rfl | hc
  · exact continuesName_of_startsName hfirst
  · exact hrest c hc

/-- A character of a name, or one of the marks between the parts of a qualified name. -/
def isNameMark (c : Char) : Bool :=
  continuesName c || c = '.' || c = '@' || c = ':'

theorem isNameMark_of_mem_dotted {names : List String} {c : Char}
    (hnames : ∀ name ∈ names, isName name) (h : c ∈ (String.intercalate "." names).toList) :
    isNameMark c := by
  rcases mem_intercalate h with hdot | ⟨name, hname, hc⟩
  · rw [List.mem_singleton.mp hdot]
    decide
  · simp [isNameMark, continuesName_of_mem (hnames name hname) hc]

theorem isNameMark_of_mem_toString {n : Nat} {c : Char} (h : c ∈ (toString n).toList) :
    isNameMark c := by
  have hnumeral : isNumeral c := by
    simpa [isNumeral, Char.isDigit, Char.le_def] using isDigit_of_mem_toString h
  simp [isNameMark, continuesName, hnumeral]

theorem isNameMark_of_mem_version {version : Version} {c : Char}
    (h : c ∈ version.toText.toList) : isNameMark c := by
  simp only [Version.toText, String.toList_append, List.mem_append] at h
  rcases h with (hmajor | hdot) | hminor
  · exact isNameMark_of_mem_toString hmajor
  · rw [List.mem_singleton.mp hdot]
    decide
  · exact isNameMark_of_mem_toString hminor

variable {q r : QualifiedName}

theorem Regular.isName_of_mem_names (h : Regular q) : ∀ name ∈ q.names, isName name := by
  intro name hname
  unfold names at hname
  rcases h.type with ⟨hempty, -⟩ | ⟨type, htype, hisName, hscope⟩
  · rw [hempty] at hname
    exact absurd hname List.not_mem_nil
  · rw [htype] at hname
    dsimp only at hname
    split at hname
    · exact absurd hname List.not_mem_nil
    · rcases List.mem_append.mp hname with houter | hlast
      · exact hscope name houter
      · rwa [List.mem_singleton.mp hlast]

theorem Regular.isNameMark_of_mem {c : Char} (h : Regular q) (hc : c ∈ q.toText.toList) :
    isNameMark c := by
  obtain ⟨package, -, hpackage, htext⟩ := h.package
  simp only [toText, String.toList_append, List.mem_append] at hc
  rcases hc with ((hc | hat) | hversion) | htype
  · rw [htext] at hc
    exact isNameMark_of_mem_dotted hpackage hc
  · rw [List.mem_singleton.mp hat]
    decide
  · exact isNameMark_of_mem_version hversion
  · split at htype
    · rcases List.mem_append.mp (String.toList_append ▸ htype) with hcolon | hlocal
      · have hmark : c = ':' := by
          have hcolons : "::".toList = [':', ':'] := rfl
          simpa [hcolons] using hcolon
        rw [hmark]
        decide
      · exact isNameMark_of_mem_dotted h.isName_of_mem_names hlocal
    · exact absurd htype (by simp)

theorem Regular.not_mem_toText {c : Char} (h : Regular q) (hc : ¬isNameMark c) :
    c ∉ q.toText.toList :=
  fun hmem => hc (h.isNameMark_of_mem hmem)

theorem not_mem_of_isName {name : String} {c : Char} (h : isName name) (hc : ¬isNameMark c) :
    c ∉ name.toList := by
  intro hmem
  apply hc
  simp [isNameMark, continuesName_of_mem h hmem]

end QualifiedName

end HalBridge
