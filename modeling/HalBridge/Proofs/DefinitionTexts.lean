import HalBridge.Aidl.Definition
import HalBridge.Proofs.TextLines
import Mathlib.Data.List.Forall2

/-!
# The texts of definitions

What stands in the file of a definition: the package, the imports, the comment and, between braces,
a line for each member or enumerator, in their order. The forms are spelled out here, and the text
of a definition has them.
-/

namespace HalBridge

open Text

namespace Text

/-- The second text has the lines of the first, of which the first is indented even if it is
empty. -/
def Hangs (text block : String) : Prop :=
  ∃ first rest, BrokenInto text (first :: rest) ∧
    block = "    " ++ first ++ "\n" ++ String.join (rest.map fun line => indented line ++ "\n")

theorem hangs_hangBlock (text : String) :
    Hangs (text ++ "\n") (indentation ++ hangBlock text ++ "\n") := by
  have hbroken := brokenInto_lines text
  cases hlines : lines (text ++ "\n") with
  | nil =>
      rw [hlines] at hbroken
      generalize hwhole : text ++ "\n" = whole at hbroken
      cases hbroken
      exact absurd (congrArg String.toList hwhole) (by simp)
  | cons first rest =>
      rw [hlines] at hbroken
      refine ⟨first, rest, hbroken, ?_⟩
      rw [hangBlock, hlines, String.append_assoc]
      dsimp only
      rw [joinLines_newline (List.cons_ne_nil _ _), indentLines_eq]
      simp [indentation, String.append_assoc, Function.comp_def]

end Text

namespace Aidl

/-- What stands before a member with this comment. -/
inductive Comments : Option String → String → Prop
  | none : Comments none ""
  | some {comment block : String} (h : Hangs (comment ++ "\n") block) :
      Comments (some comment) block

def Member.Written (member : Member) (text : String) : Prop :=
  ∃ comment, Comments member.comment comment ∧
    text = comment ++ "    " ++ member.type ++ " " ++ member.name ++ ";\n"

def Enumerator.Written (enumerator : Enumerator) (text : String) : Prop :=
  ∃ comment, Comments enumerator.comment comment ∧
    text = comment ++ "    " ++ enumerator.name
      ++ enumerator.value.elim "" (fun value => " = " ++ value) ++ ",\n"

/-- The text of a body for the type `name`. -/
inductive Body.Written (name : String) : Body → String → Prop
  | enum {backing : String} {enumerators : List Enumerator} {texts : List String}
      (h : List.Forall₂ Enumerator.Written enumerators texts) :
      Written name (.enum backing enumerators)
        ("@Backing(type=\"" ++ backing ++ "\")\n"
          ++ ("enum " ++ name ++ " \x7b\n" ++ String.join texts ++ "\x7d\n"))
  | parcelable {members : List Member} {texts : List String}
      (h : List.Forall₂ Member.Written members texts) :
      Written name (.parcelable members)
        ("parcelable " ++ name ++ " \x7b\n" ++ String.join texts ++ "\x7d\n")
  | union {members : List Member} {texts : List String}
      (h : List.Forall₂ Member.Written members texts) :
      Written name (.union members)
        ("union " ++ name ++ " \x7b\n" ++ String.join texts ++ "\x7d\n")
  | stub : Written name .stub ("parcelable " ++ name ++ " \x7b\x7d\n")
  | nothing : Written name .nothing ""

/-- The text of the file of a definition. -/
def Definition.Written (definition : Definition) (text : String) : Prop :=
  ∃ body, definition.body.Written definition.name body ∧
    text = licenseLine ++ "\npackage " ++ definition.package ++ ";\n\n"
      ++ String.join (definition.imports.map fun name => "import " ++ name ++ ";\n")
      ++ definition.comment.elim "" (· ++ "\n") ++ body
      ++ String.join (definition.trailer.map (· ++ "\n"))

theorem comments_memberComment (comment : Option String) :
    Comments comment (memberComment comment) := by
  cases comment with
  | none => exact .none
  | some comment => exact .some (hangs_hangBlock comment)

theorem Member.written_text (member : Member) : member.Written member.text :=
  ⟨_, comments_memberComment member.comment, rfl⟩

theorem Enumerator.written_text (enumerator : Enumerator) :
    enumerator.Written enumerator.text := by
  refine ⟨_, comments_memberComment enumerator.comment, ?_⟩
  obtain ⟨name, value, comment⟩ := enumerator
  cases value <;> rfl

theorem Body.written_text (name : String) (body : Body) : body.Written name (body.text name) := by
  have hmembers : ∀ members : List Member,
      List.Forall₂ Member.Written members (members.map Member.text) := by
    intro members
    rw [List.forall₂_map_right_iff, List.forall₂_same]
    exact fun member _ => member.written_text
  have henumerators : ∀ enumerators : List Enumerator,
      List.Forall₂ Enumerator.Written enumerators (enumerators.map Enumerator.text) := by
    intro enumerators
    rw [List.forall₂_map_right_iff, List.forall₂_same]
    exact fun enumerator _ => enumerator.written_text
  cases body with
  | enum backing enumerators => exact .enum (henumerators enumerators)
  | parcelable members => exact .parcelable (hmembers members)
  | union members => exact .union (hmembers members)
  | stub => exact .stub
  | nothing => exact .nothing

theorem Definition.written_text (definition : Definition) :
    definition.Written definition.text := by
  refine ⟨_, definition.body.written_text definition.name, ?_⟩
  obtain ⟨package, name, imports, comment, body, trailer⟩ := definition
  cases comment <;> rfl

end Aidl

end HalBridge
