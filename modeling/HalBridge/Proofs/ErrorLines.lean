import HalBridge.Proofs.TextLines

/-!
# Lines that begin with `#error`

How the lines of a text that begin with `#error` are found, wherever they stand in it and however
far they are indented.
-/

namespace HalBridge

open Text

/-- The line without the blanks before it. -/
def unindented (line : String) : String :=
  String.ofList (line.toList.dropWhile (· = ' '))

def isErrorLine (line : String) : Bool :=
  ['#', 'e', 'r', 'r', 'o', 'r'].isPrefixOf line.toList

/-- The lines of a text that begin with `#error`, without their indentation. -/
def errorLines (text : String) : List String :=
  ((lines text).map unindented).filter isErrorLine

/-- The text stays on one line and has no `#`. -/
def Unmarked (text : String) : Prop :=
  ∀ c ∈ text.toList, ¬isLineBreak c ∧ c ≠ '#'

instance (text : String) : Decidable (Unmarked text) :=
  List.decidableBAll _ text.toList

@[simp]
theorem unmarked_append (front back : String) :
    Unmarked (front ++ back) ↔ Unmarked front ∧ Unmarked back := by
  simp only [Unmarked, String.toList_append, List.forall_mem_append]

theorem Unmarked.unbroken {text : String} (h : Unmarked text) : Unbroken text :=
  fun c hc => (h c hc).1

theorem errorLines_append (front back : String) :
    errorLines (front ++ "\n" ++ back) = errorLines (front ++ "\n") ++ errorLines back := by
  rw [errorLines, lines_append, List.map_append, List.filter_append]
  rfl

theorem errorLines_join (parts : List String) :
    errorLines (String.join (parts.map (· ++ "\n"))) =
      parts.flatMap fun part => errorLines (part ++ "\n") := by
  induction parts with
  | nil => rfl
  | cons part rest ih =>
      rw [List.map_cons, String.join_cons, errorLines_append, ih, List.flatMap_cons]

/-- An empty line after the others brings no mark. -/
theorem errorLines_join_newline (parts : List String) :
    errorLines (String.join (parts.map (· ++ "\n")) ++ "\n") =
      errorLines (String.join (parts.map (· ++ "\n"))) := by
  have hparts : String.join (parts.map (· ++ "\n")) ++ "\n" =
      String.join ((parts ++ [""]).map (· ++ "\n")) := by
    simp
  rw [hparts, errorLines_join, errorLines_join, List.flatMap_append]
  exact List.append_nil _

theorem errorLines_of_unbroken {line : String} (h : Unbroken line) :
    errorLines (line ++ "\n") = [unindented line].filter isErrorLine := by
  have hline := lines_cons h ""
  rw [String.append_empty] at hline
  rw [errorLines, hline]
  rfl

theorem not_isErrorLine_of_unmarked {line : String} (h : Unmarked line) :
    ¬isErrorLine (unindented line) := by
  intro herror
  obtain ⟨rest, hrest⟩ := List.isPrefixOf_iff_prefix.mp herror
  have hmem : '#' ∈ line.toList := by
    refine (List.dropWhile_sublist (· = ' ')).subset ?_
    rw [unindented, String.toList_ofList] at hrest
    rw [← hrest]
    exact List.mem_cons_self
  exact (h '#' hmem).2 rfl

theorem errorLines_of_unmarked {line : String} (h : Unmarked line) :
    errorLines (line ++ "\n") = [] := by
  simp [errorLines_of_unbroken h.unbroken, not_isErrorLine_of_unmarked h]

theorem errorLines_of_all_unmarked {parts : List String} (h : ∀ part ∈ parts, Unmarked part) :
    parts.flatMap (fun part => errorLines (part ++ "\n")) = [] := by
  rw [List.flatMap_eq_nil_iff]
  exact fun part hpart => errorLines_of_unmarked (h part hpart)

/-- A marker is found as it is. -/
theorem errorLines_of_error {line : String} (h : Unbroken line) (herror : isErrorLine line) :
    errorLines (line ++ "\n") = [line] := by
  have hsame : unindented line = line := by
    obtain ⟨rest, hrest⟩ := List.isPrefixOf_iff_prefix.mp herror
    rw [unindented, ← hrest]
    have hdrop : (['#', 'e', 'r', 'r', 'o', 'r'] ++ rest).dropWhile (· = ' ') =
        ['#', 'e', 'r', 'r', 'o', 'r'] ++ rest := rfl
    rw [hdrop, hrest, String.ofList_toList]
  simp [errorLines_of_unbroken h, hsame, herror]

/-! ### Indentation -/

theorem unindented_indentation (line : String) : unindented ("    " ++ line) = unindented line := by
  rw [unindented, String.toList_append]
  rfl

theorem unindented_indented (line : String) : unindented (indented line) = unindented line := by
  unfold indented
  split
  · rename_i hempty
    rw [hempty]
  · exact unindented_indentation line

/-- Blanks at the beginning of the current line make no difference. -/
theorem filter_linesFrom_indented (line chars : List Char) :
    ((linesFrom (line ++ [' ', ' ', ' ', ' ']) chars).map unindented).filter isErrorLine =
      ((linesFrom line chars).map unindented).filter isErrorLine := by
  have hline : ∀ line : List Char,
      unindented (String.ofList (line ++ [' ', ' ', ' ', ' ']).reverse) =
        unindented (String.ofList line.reverse) := by
    intro line
    rw [List.reverse_append, String.ofList_append]
    exact unindented_indentation _
  fun_induction linesFrom line chars with
  | case1 line hempty =>
      obtain rfl := List.isEmpty_iff.mp hempty
      rfl
  | case2 line hempty =>
      have hnext : (line ++ [' ', ' ', ' ', ' ']).isEmpty = false := by simp
      rw [linesFrom, if_neg (by rw [hnext]; exact Bool.false_ne_true), List.map_singleton, hline]
      rfl
  | case3 line rest ih =>
      rw [linesFrom, List.map_cons, List.map_cons, hline]
  | case4 line c rest hreturn hbreak ih =>
      rw [linesFrom_cons (not_return hreturn), if_pos hbreak, List.map_cons, List.map_cons, hline]
  | case5 line c rest hreturn hbreak ih =>
      rw [linesFrom_cons (not_return hreturn), if_neg hbreak]
      exact ih

theorem errorLines_indented (line : String) :
    errorLines (indented line ++ "\n") = errorLines (line ++ "\n") := by
  unfold indented
  split
  · rename_i hempty
    rw [hempty]
  · have hlines := filter_linesFrom_indented [] (line ++ "\n").toList
    have hread : lines ("    " ++ line ++ "\n") =
        linesFrom [' ', ' ', ' ', ' '] (line ++ "\n").toList := by
      rw [lines, String.append_assoc, String.toList_append]
      exact linesFrom_unbroken (show Unbroken "    " by decide) [] _
    rw [errorLines, hread]
    exact hlines

/-- Indenting a block changes nothing about its marks. -/
theorem errorLines_indentBlock {text : String} {c : Char} (hc : ¬isLineBreak c)
    (h : text.toList.head? = some c) :
    errorLines (indentBlock (text ++ "\n") ++ "\n") = errorLines (text ++ "\n") := by
  have hunbroken : ∀ line ∈ (lines (text ++ "\n")).map indented, Unbroken line := by
    intro line hline
    obtain ⟨part, hpart, rfl⟩ := List.mem_map.mp hline
    have hpart := (brokenInto_lines text).unbroken hpart
    unfold indented
    split
    · decide
    · exact (unbroken_append _ _).mpr ⟨by decide, hpart⟩
  have hblock := indentBlock_eq hc h
  rw [← Function.comp_def (fun line => line ++ "\n") indented, ← List.map_map] at hblock
  rw [hblock, errorLines_join_newline, errorLines, lines_join hunbroken, List.map_map]
  simp only [Function.comp_def, unindented_indented]
  rfl

end HalBridge
