import HalBridge.Console.Emoji
import HalBridge.Console.Literal
import HalBridge.Console.Style
import HalBridge.Fault

/-!
Marked-up console texts. A tag in square brackets opens a style and a tag with a slash closes one;
an odd number of backslashes before a tag makes it plain text. Only where a style begins or ends
matters here, since no colours are shown.
-/

namespace HalBridge.Console

/-- A piece of a marked-up text: characters, or a tag by its name and its parameters. -/
inductive Piece where
  | plain (chars : List Char)
  | tag (name : List Char) (parameters : Option (List Char))

def startsTag (c : Char) : Bool :=
  c.isLower || c = '#' || c = '/' || c = '@'

/-- The text of a tag, given what follows its opening bracket, and what follows the tag. -/
def tagBody? (cs : List Char) : Option (List Char × List Char) :=
  let (body, rest) := cs.span fun c => c ≠ '[' && c ≠ ']'
  match rest with
  | ']' :: rest => if body.head?.any startsTag then some (body, rest) else none
  | _ => none

/-- Half of the backslashes before a tag are kept; the last of an odd number makes it plain. -/
def tagPieces (backslashes : Nat) (body : List Char) : List Piece :=
  let kept := if backslashes < 2 then [] else [.plain (List.replicate (backslashes / 2) '\\')]
  if backslashes % 2 = 1 then kept ++ [.plain ('[' :: body ++ [']'])]
  else
    let parameters :=
      match body.dropWhile (· ≠ '=') with
      | [] => none
      | _ :: parameters => some parameters
    kept ++ [.tag (body.takeWhile (· ≠ '=')) parameters]

/-- The pieces of a text, read in `fuel` steps at most, after the reversed characters `plain` and a
number of backslashes. -/
def piecesFrom (plain : List Char) (backslashes : Nat) : Nat → List Char → List Piece
  | 0, _ => []
  | _, [] => [.plain (List.replicate backslashes '\\' ++ plain).reverse]
  | fuel + 1, c :: rest =>
      if c = '\\' then piecesFrom plain (backslashes + 1) fuel rest
      else
        match if c = '[' then tagBody? rest else none with
        | some (body, rest) =>
            .plain plain.reverse :: tagPieces backslashes body ++ piecesFrom [] 0 fuel rest
        | none => piecesFrom (c :: List.replicate backslashes '\\' ++ plain) 0 fuel rest

def pieces (cs : List Char) : List Piece :=
  piecesFrom [] 0 (cs.length + 1) cs

/-- In plain text a backslash before an opening bracket is left out. -/
def dropBracketEscapes : List Char → List Char
  | '\\' :: '[' :: rest => '[' :: dropBracketEscapes rest
  | c :: rest => c :: dropBracketEscapes rest
  | [] => []

/-- The characters that a console would act on instead of showing them: bell, backspace, vertical
tab, form feed and carriage return. -/
def isConsoleControl (c : Char) : Bool :=
  c.toNat = 7 || c.toNat = 8 || (11 ≤ c.toNat && c.toNat ≤ 13)

/-- The characters that plain text shows. -/
def plainChars (cs : List Char) : List Char :=
  (replaceEmoji (dropBracketEscapes cs)).filter fun c => !isConsoleControl c

/-- A character, the number of tags before it, and whether a tag is open at it. -/
structure Glyph where
  char : Char
  tags : Nat := 0
  styled : Bool := false

structure OpenTag where
  name : String
  parameters : Option (List Char)

/-- The literal in the parameters of an action: what stands in brackets after the name of a
handler, nothing after a name alone, or all of it. -/
def actionLiteral (parameters : List Char) : List Char :=
  let parameters := (Text.trim (String.ofList parameters)).toList
  match parameters.dropWhile fun c => Text.isWordChar c || c = '.' with
  | [] => "()".toList
  | '(' :: rest =>
      if rest.getLast? = some ')' && !rest.contains '\n' then '(' :: rest else parameters
  | _ => parameters

/-- An action can be closed if its parameters are a literal. -/
def OpenTag.checkClosing (tag : OpenTag) : Except Fault Unit :=
  match tag.parameters with
  | none | some [] => .ok ()
  | some parameters =>
      if tag.name.startsWith "@" && !isLiteral (actionLiteral parameters) then
        .error (.markup tag.name)
      else .ok ()

def tagName (name : List Char) : Except Fault String :=
  match styleName (String.ofList name) with
  | .ok name => .ok name
  | .error (.unread part error) => .error (.unreadNumber part error)
  | .error .unknown => .error (.markup (String.ofList name))

/-- Closes the innermost open tag of a name, or the innermost one if the name is blank. -/
def closeTag (name : List Char) (opened : List OpenTag) : Except Fault (List OpenTag) := do
  let blank := name.all Text.isBlank
  let name ← if blank then .ok "" else tagName (Text.trim (String.ofList name)).toList
  match opened.findIdx? fun tag => blank || tag.name = name with
  | none => throw (.markup name)
  | some index =>
      if let some tag := opened[index]? then tag.checkClosing
      return opened.eraseIdx index

/-- The characters of pieces after `tags` tags, with the open tags, the innermost first. -/
def glyphsOf (tags : Nat) (opened : List OpenTag) : List Piece → Except Fault (List Glyph)
  | [] => .ok []
  | .plain chars :: rest => do
      let glyphs := (plainChars chars).map fun char =>
        { char, tags, styled := !opened.isEmpty : Glyph }
      return glyphs ++ (← glyphsOf tags opened rest)
  | .tag ('/' :: name) _ :: rest => do
      glyphsOf (tags + 1) (← closeTag name opened) rest
  | .tag name parameters :: rest => do
      glyphsOf (tags + 1) ({ name := ← tagName name, parameters } :: opened) rest

/-- The parameters of a tag belong to its style, so a colour in them has to be readable too. -/
def checkParameters : List Piece → Except Fault Unit
  | [] => .ok ()
  | .tag name (some parameters) :: rest =>
      match Style.ofWords {} (words (String.ofList (name ++ ' ' :: parameters))) with
      | .error (.unread part error) =>
          if name.head? = some '/' then checkParameters rest
          else .error (.unreadNumber part error)
      | _ => checkParameters rest
  | _ :: rest => checkParameters rest

/-- The characters that a marked-up text shows. -/
def glyphs (s : String) : Except Fault (List Glyph) := do
  let shown ← glyphsOf 0 [] (pieces s.toList)
  checkParameters (pieces s.toList)
  return shown

/-- Puts backslashes where a text would have tags, in `fuel` steps at most, after a number of
backslashes that are already written. -/
def escapeFrom (backslashes : Nat) : Nat → List Char → List Char
  | 0, _ => []
  | _, [] => if backslashes = 1 then ['\\'] else []
  | fuel + 1, c :: rest =>
      if c = '\\' then c :: escapeFrom (backslashes + 1) fuel rest
      else
        match if c = '[' then tagBody? rest else none with
        | some (body, rest) =>
            List.replicate (backslashes + 1) '\\' ++ '[' :: body ++ ']' :: escapeFrom 0 fuel rest
        | none => c :: escapeFrom 0 fuel rest

/-- The marked-up text that shows a text as it is. -/
def escape (s : String) : String :=
  String.ofList (escapeFrom 0 (s.length + 1) s.toList)

end HalBridge.Console
