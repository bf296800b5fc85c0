import HalBridge.Text.Lines
import Mathlib.Data.List.Basic

/-!
# Parts and lines of texts

What the parts of a text have of its characters, how a text that ends in a line break falls into
lines, and what becomes of the lines when a block is indented.
-/

namespace HalBridge.Text

/-- The text stays on one line. -/
def Unbroken (text : String) : Prop :=
  ∀ c ∈ text.toList, ¬isLineBreak c

instance (text : String) : Decidable (Unbroken text) :=
  List.decidableBAll _ text.toList

@[simp]
theorem unbroken_append (front back : String) :
    Unbroken (front ++ back) ↔ Unbroken front ∧ Unbroken back := by
  simp only [Unbroken, String.toList_append, List.forall_mem_append]

/-- What ends a line. -/
def IsBreak (text : String) : Prop :=
  text = "\r\n" ∨ ∃ c, isLineBreak c ∧ text = String.ofList [c]

/-- The text is these lines, each with its line break. -/
inductive BrokenInto : String → List String → Prop
  | nil : BrokenInto "" []
  | cons {line ending rest : String} {lines : List String} (hline : Unbroken line)
      (hending : IsBreak ending) (hrest : BrokenInto rest lines) :
      BrokenInto (line ++ ending ++ rest) (line :: lines)

/-- A line one level further in; an empty line stays empty. -/
def indented (line : String) : String :=
  if line = "" then "" else "    " ++ line

theorem indentLines_eq (lines : List String) : indentLines lines = lines.map indented := by
  refine List.map_congr_left fun line _ => ?_
  by_cases hline : line = ""
  · simp [hline, indented]
  · simp [hline, indented, indentation]

theorem joinLines_newline {lines : List String} (h : lines ≠ []) :
    joinLines lines ++ "\n" = String.join (lines.map (· ++ "\n")) := by
  induction lines with
  | nil => exact absurd rfl h
  | cons line rest ih =>
      by_cases hrest : rest = []
      · subst hrest
        simp [joinLines]
      · rw [joinLines, String.intercalate_cons_of_ne_nil hrest, String.append_assoc]
        rw [joinLines] at ih
        rw [ih hrest]
        simp [String.append_assoc]

/-! ### Parts of texts -/

/-- The parts of a text are made of its characters other than the separator. -/
theorem mem_splitChars {separator c : Char} {cs part : List Char}
    (hpart : part ∈ splitChars separator cs) (hc : c ∈ part) : c ∈ cs ∧ c ≠ separator := by
  induction cs generalizing part with
  | nil =>
      rw [splitChars, List.mem_singleton] at hpart
      rw [hpart] at hc
      cases hc
  | cons first rest ih =>
      have hlater : ∀ part ∈ splitChars separator rest, c ∈ part →
          c ∈ first :: rest ∧ c ≠ separator :=
        fun part hpart hc => (ih hpart hc).imp_left (List.mem_cons_of_mem _)
      rw [splitChars] at hpart
      split at hpart
      · rcases List.mem_cons.mp hpart with rfl | hpart
        · cases hc
        · exact hlater part hpart hc
      · rename_i hfirst
        split at hpart
        · obtain rfl := List.mem_singleton.mp hpart
          obtain rfl := List.mem_singleton.mp hc
          exact ⟨List.mem_cons_self, hfirst⟩
        · rename_i front others hsplit
          rw [hsplit] at hlater
          rcases List.mem_cons.mp hpart with rfl | hpart
          · rcases List.mem_cons.mp hc with rfl | hc
            · exact ⟨List.mem_cons_self, hfirst⟩
            · exact hlater front List.mem_cons_self hc
          · exact hlater part (List.mem_cons_of_mem _ hpart) hc

theorem mem_split {separator c : Char} {text segment : String}
    (hsegment : segment ∈ split separator text) (hc : c ∈ segment.toList) :
    c ∈ text.toList ∧ c ≠ separator := by
  obtain ⟨part, hpart, rfl⟩ := List.mem_map.mp hsegment
  rw [String.toList_ofList] at hc
  exact mem_splitChars hpart hc

/-! ### Texts that end in a line break -/

theorem linesFrom_cons {line rest : List Char} {c : Char}
    (h : ¬(c = '\r' ∧ rest.head? = some '\n')) :
    linesFrom line (c :: rest) =
      if isLineBreak c then String.ofList line.reverse :: linesFrom [] rest
      else linesFrom (c :: line) rest := by
  rw [linesFrom]
  rintro following rfl rfl
  exact h ⟨rfl, rfl⟩

theorem not_return {c : Char} {rest : List Char}
    (h : ∀ following, c = '\r' → rest = '\n' :: following → False) :
    ¬(c = '\r' ∧ rest.head? = some '\n') := by
  rintro ⟨rfl, hhead⟩
  obtain ⟨following, rfl⟩ := List.head?_eq_some_iff.mp hhead
  exact h following rfl rfl

/-- No line feed comes after `c`, unless it is a carriage return at the end. -/
theorem not_return_of_append {c : Char} {rest : List Char}
    (h : ∀ following, c = '\r' → rest = '\n' :: following → False)
    (hlast : ¬(c = '\r' ∧ rest = [])) (tail : List Char) :
    ¬(c = '\r' ∧ (rest ++ '\n' :: tail).head? = some '\n') := by
  rintro ⟨rfl, hhead⟩
  cases rest with
  | nil => exact hlast ⟨rfl, rfl⟩
  | cons d following => exact not_return h ⟨rfl, hhead⟩

/-- A line break at the end of the front is taken together with what comes before it. -/
theorem linesFrom_append (line front back : List Char) :
    linesFrom line (front ++ '\n' :: back) =
      linesFrom line (front ++ ['\n']) ++ linesFrom [] back := by
  fun_induction linesFrom line front with
  | case1 line => simp [linesFrom, isLineBreak]
  | case2 line => simp [linesFrom, isLineBreak]
  | case3 line rest ih => simpa [linesFrom] using ih
  | case4 line c rest hreturn hbreak ih =>
      by_cases hlast : c = '\r' ∧ rest = []
      · obtain ⟨rfl, rfl⟩ := hlast
        simp [linesFrom]
      · have hnext := not_return_of_append hreturn hlast
        rw [List.cons_append, List.cons_append, linesFrom_cons (hnext back),
          linesFrom_cons (hnext []), if_pos hbreak, if_pos hbreak, ih, List.cons_append]
  | case5 line c rest hreturn hbreak ih =>
      have hother : c ≠ '\r' := by
        rintro rfl
        exact hbreak (by decide)
      rw [List.cons_append, List.cons_append, linesFrom_cons (fun h => hother h.1),
        linesFrom_cons (fun h => hother h.1), if_neg hbreak, if_neg hbreak, ih]

theorem lines_append (front back : String) :
    lines (front ++ "\n" ++ back) = lines (front ++ "\n") ++ lines back := by
  simpa [lines] using linesFrom_append [] front.toList back.toList

/-- What has no line break in it is read into the current line. -/
theorem linesFrom_unbroken {chars : List Char} (h : ∀ c ∈ chars, ¬isLineBreak c)
    (line rest : List Char) :
    linesFrom line (chars ++ rest) = linesFrom (chars.reverse ++ line) rest := by
  induction chars generalizing line with
  | nil => rfl
  | cons c chars ih =>
      have hc := h c List.mem_cons_self
      have hother : c ≠ '\r' := by
        rintro rfl
        exact hc (by decide)
      rw [List.cons_append, linesFrom_cons (fun hreturn => hother hreturn.1), if_neg hc,
        ih (List.forall_mem_of_forall_mem_cons h), List.reverse_cons, List.append_assoc]
      rfl

theorem lines_cons {line : String} (h : Unbroken line) (rest : String) :
    lines (line ++ "\n" ++ rest) = line :: lines rest := by
  have hline : lines (line ++ "\n") = [line] := by
    have hread := linesFrom_unbroken h [] ['\n']
    simpa [lines, linesFrom, isLineBreak] using hread
  rw [lines_append, hline, List.singleton_append]

/-- Lines that are put together are found again. -/
theorem lines_join {parts : List String} (h : ∀ line ∈ parts, Unbroken line) :
    lines (String.join (parts.map (· ++ "\n"))) = parts := by
  induction parts with
  | nil => rfl
  | cons line rest ih =>
      rw [List.map_cons, String.join_cons, lines_cons (h line List.mem_cons_self),
        ih (List.forall_mem_of_forall_mem_cons h)]

theorem BrokenInto.unbroken {text line : String} {parts : List String} (h : BrokenInto text parts)
    (hline : line ∈ parts) : Unbroken line := by
  induction h with
  | nil => cases hline
  | cons hfirst _ _ ih =>
      rcases List.mem_cons.mp hline with rfl | hline
      · exact hfirst
      · exact ih hline

/-- The line that is being read is ended, and the rest is known. -/
theorem brokenInto_cons {line rest : List Char} {ending : String} {parts : List String}
    (h : ∀ c ∈ line, ¬isLineBreak c) (hending : IsBreak ending)
    (hrest : BrokenInto (String.ofList rest) parts) :
    BrokenInto (String.ofList (line.reverse ++ (ending.toList ++ rest)))
      (String.ofList line.reverse :: parts) := by
  have hline : Unbroken (String.ofList line.reverse) := by
    intro c hc
    rw [String.toList_ofList, List.mem_reverse] at hc
    exact h c hc
  have hcons := BrokenInto.cons hline hending hrest
  rwa [String.append_assoc, ← String.ofList_toList (s := ending), ← String.ofList_append,
    ← String.ofList_append] at hcons

theorem brokenInto_linesFrom (line front : List Char) (h : ∀ c ∈ line, ¬isLineBreak c) :
    BrokenInto (String.ofList (line.reverse ++ (front ++ ['\n'])))
      (linesFrom line (front ++ ['\n'])) := by
  have hfeed : IsBreak "\n" := Or.inr ⟨'\n', by decide, rfl⟩
  have hnone : ∀ c ∈ ([] : List Char), ¬isLineBreak c := fun _ hc => absurd hc List.not_mem_nil
  fun_induction linesFrom line front with
  | case1 line | case2 line => exact brokenInto_cons h hfeed .nil
  | case3 line rest ih => exact brokenInto_cons h (Or.inl rfl) (ih hnone)
  | case4 line c rest hreturn hbreak ih =>
      by_cases hlast : c = '\r' ∧ rest = []
      · obtain ⟨rfl, rfl⟩ := hlast
        exact brokenInto_cons h (Or.inl rfl) .nil
      · rw [List.cons_append, linesFrom_cons (not_return_of_append hreturn hlast []), if_pos hbreak]
        have hcons := brokenInto_cons h (Or.inr ⟨c, hbreak, rfl⟩) (ih hnone)
        rwa [String.toList_ofList] at hcons
  | case5 line c rest hreturn hbreak ih =>
      have hother : c ≠ '\r' := by
        rintro rfl
        exact hbreak (by decide)
      rw [List.cons_append, linesFrom_cons (fun hnext => hother hnext.1), if_neg hbreak]
      have hmore := ih (List.forall_mem_cons.mpr ⟨hbreak, h⟩)
      rwa [List.reverse_cons, List.append_assoc] at hmore

/-- A text that ends in a line feed is its lines. -/
theorem brokenInto_lines (text : String) : BrokenInto (text ++ "\n") (lines (text ++ "\n")) := by
  have hlines := brokenInto_linesFrom [] text.toList fun _ hc => absurd hc List.not_mem_nil
  rw [List.reverse_nil, List.nil_append, String.ofList_append, String.ofList_toList] at hlines
  rwa [lines, String.toList_append]

/-- The first line of a text is empty only if the text begins with a line break. -/
theorem exists_first_line {text : String} {c : Char} (hc : ¬isLineBreak c)
    (h : text.toList.head? = some c) :
    ∃ first rest, lines (text ++ "\n") = first :: rest ∧ first ≠ "" := by
  have hhead : (text ++ "\n").toList.head? = some c := by
    rw [String.toList_append, List.head?_append, h, Option.some_or]
  have hbroken := brokenInto_lines text
  generalize text ++ "\n" = whole at hbroken hhead
  generalize lines whole = parts at hbroken
  cases hbroken with
  | nil => cases hhead
  | @cons first ending rest others _ hending _ =>
      refine ⟨first, others, rfl, ?_⟩
      rintro rfl
      rw [String.empty_append, String.toList_append] at hhead
      rcases hending with rfl | ⟨d, hd, rfl⟩
      · obtain rfl := Option.some.inj hhead
        exact hc (by decide)
      · rw [String.toList_ofList] at hhead
        obtain rfl := Option.some.inj hhead
        exact hc hd

/-- The second text is the first with every line one level further in. -/
def Indents (text block : String) : Prop :=
  ∃ parts, BrokenInto text parts ∧
    block = String.join (parts.map fun line => indented line ++ "\n")

/-- Indenting a block that begins with no line break indents its lines. -/
theorem indentBlock_eq {text : String} {c : Char} (hc : ¬isLineBreak c)
    (h : text.toList.head? = some c) :
    indentBlock (text ++ "\n") =
      String.join ((lines (text ++ "\n")).map fun line => indented line ++ "\n") := by
  obtain ⟨first, rest, hparts, hfirst⟩ := exists_first_line hc h
  have hlines : lines (text ++ "\n" ++ "\n") = first :: (rest ++ [""]) := by
    rw [lines_append, hparts]
    rfl
  have hindented : indented first = indentation ++ first := by
    rw [indented, if_neg hfirst, indentation]
  have hjoined : ∀ line : String, ∀ others : List String,
      joinLines (line :: (others ++ [""])) = String.join ((line :: others).map (· ++ "\n")) := by
    intro line others
    rw [← joinLines_newline (List.cons_ne_nil _ _), joinLines, joinLines, ← List.cons_append,
      String.intercalate_append_of_ne_nil (List.cons_ne_nil _ _) (List.cons_ne_nil _ _)]
    simp
  unfold indentBlock hangBlock
  rw [hlines, hparts]
  dsimp only
  rw [indentLines_eq, List.map_append, List.map_singleton, indented, if_pos rfl, hjoined]
  simp only [List.map_cons, List.map_map, String.join_cons, hindented, String.append_assoc]
  rfl

theorem indents_indentBlock {text : String} {c : Char} (hc : ¬isLineBreak c)
    (h : text.toList.head? = some c) : Indents (text ++ "\n") (indentBlock (text ++ "\n")) :=
  ⟨_, brokenInto_lines text, indentBlock_eq hc h⟩

end HalBridge.Text
