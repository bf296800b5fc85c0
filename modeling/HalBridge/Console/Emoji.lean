import HalBridge.Console.EmojiNames
import HalBridge.Text.Blank
import HalBridge.Text.Lines
import HalBridge.Text.LowerCase

/-!
Emoji codes: a name between colons stands for an emoji. The name may end in `-emoji` or `-text`,
which asks for the coloured or the plain form.
-/

namespace HalBridge.Console

def hexDigitValue (c : Char) : Nat :=
  if c.isDigit then c.toNat - '0'.toNat else c.toNat - 'a'.toNat + 10

def codePoint (digits : List Char) : Char :=
  Char.ofNat (digits.foldl (fun value digit => 16 * value + hexDigitValue digit) 0)

/-- The emoji of a name, in any case. -/
def emoji? (name : List Char) : Option (List Char) :=
  let name := Text.lower (String.ofList name)
  (emojiNames.findSome? fun names => names.lookup name).map fun codes =>
    (Text.splitChars '-' codes.toList).map codePoint

/-- A name without the form that it asks for, and the character that selects that form. -/
def splitForm (name : List Char) : List Char × List Char :=
  let without? (form : String) := form.toList.reverse.isPrefixOf name.reverse
  if without? "-emoji" then (name.take (name.length - 6), [Char.ofNat 0xfe0f])
  else if without? "-text" then (name.take (name.length - 5), [Char.ofNat 0xfe0e])
  else (name, [])

/-- What stands for an emoji code; a code of an unknown name stands for itself. -/
def emojiFor (code : List Char) : List Char :=
  let (name, form) := splitForm code
  match emoji? name with
  | some emoji => emoji ++ form
  | none => ':' :: code ++ [':']

/-- Replaces emoji codes in the characters after those of `code`, the reversed start of a code. -/
def replaceEmojiFrom : Option (List Char) → List Char → List Char
  | none, [] => []
  | some code, [] => ':' :: code.reverse
  | none, ':' :: rest => replaceEmojiFrom (some []) rest
  | some code, ':' :: rest => emojiFor code.reverse ++ replaceEmojiFrom none rest
  | none, c :: rest => c :: replaceEmojiFrom none rest
  | some code, c :: rest =>
      if Text.isBlank c then ':' :: code.reverse ++ c :: replaceEmojiFrom none rest
      else replaceEmojiFrom (some (c :: code)) rest

/-- Replaces each emoji code by its emoji. A code holds no white space. -/
def replaceEmoji (cs : List Char) : List Char :=
  replaceEmojiFrom none cs

end HalBridge.Console
