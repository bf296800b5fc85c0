import HalBridge.QualifiedName.Basic

/-!
Reading qualified names: a text is cut into tokens, with white space allowed between them, and the
tokens are matched against `NAME (. NAME)* @ INT . INT (:: NAME (. NAME)*)?`. The numbers are read
only after that, and a number with too many digits is not read.
-/

namespace HalBridge.QualifiedName

inductive Token where
  | name (text : String)
  | number (digits : List Char)
  | dot
  | atSign
  | colons
deriving DecidableEq

namespace Token

def isSpace (c : Char) : Bool :=
  c = ' ' || c = '\t' || c = '\x0c' || c = '\r' || c = '\n'

def isNumeral (c : Char) : Bool :=
  '0' ≤ c && c ≤ '9'

def startsName (c : Char) : Bool :=
  ('A' ≤ c && c ≤ 'Z') || ('a' ≤ c && c ≤ 'z') || c = '_'

def continuesName (c : Char) : Bool :=
  startsName c || isNumeral c

def numberOf (digits : List Char) : Nat :=
  Text.ofDecimalDigits (digits.map fun c => c.toNat - '0'.toNat)

/-- Cuts a text into tokens, each as long as possible; `none` if some character starts none. -/
def scan? : List Char → Option (List Token)
  | [] => some []
  | c :: rest =>
      if isSpace c then scan? rest
      else if startsName c then
        (scan? (rest.dropWhile continuesName)).map
          (.name (String.ofList (c :: rest.takeWhile continuesName)) :: ·)
      else if isNumeral c then
        (scan? (rest.dropWhile isNumeral)).map
          (.number (c :: rest.takeWhile isNumeral) :: ·)
      else if c = '.' then (scan? rest).map (.dot :: ·)
      else if c = '@' then (scan? rest).map (.atSign :: ·)
      else
        match c, rest with
        | ':', ':' :: more => (scan? more).map (.colons :: ·)
        | _, _ => none
termination_by cs => cs.length
decreasing_by
  · simp
  · exact Nat.lt_succ_of_le (List.dropWhile_sublist _).length_le
  · exact Nat.lt_succ_of_le (List.dropWhile_sublist _).length_le
  · simp
  · simp
  · exact Nat.lt_succ_of_lt (Nat.lt_succ_self _)

/-- The longest list of names divided by dots at the front. -/
def path? : List Token → Option (List String × List Token)
  | .name first :: .dot :: rest => (path? rest).map fun (names, rest) => (first :: names, rest)
  | .name first :: rest => some ([first], rest)
  | _ => none

/-- The length of a number that has too many digits. -/
def excess? : Token → Option Nat
  | .number digits => if digits.length ≤ Text.digitLimit then none else some digits.length
  | _ => none

end Token

/-- The name of the type at the end of a path of enclosing scopes. -/
def ofPath (package : String) (version : Version) (path : List String) : QualifiedName :=
  { package, version, name := some (path.getLast?.getD ""), scope := path.dropLast }

def ofTokens? (tokens : List Token) : Option QualifiedName :=
  match Token.path? tokens with
  | some (package, .atSign :: .number major :: .dot :: .number minor :: rest) =>
      let package := String.intercalate "." package
      let version : Version := ⟨Token.numberOf major, Token.numberOf minor⟩
      match rest with
      | [] => some { package, version }
      | .colons :: rest =>
          match Token.path? rest with
          | some (path, []) => some (ofPath package version path)
          | _ => none
      | _ => none
  | _ => none

inductive ParseError where
  /-- The text is no name. -/
  | malformed
  /-- The first number that has too many digits has this many. -/
  | overlong (length : Nat)
deriving DecidableEq

def parse (text : String) : Except ParseError QualifiedName :=
  match (Token.scan? text.toList).bind fun tokens => (ofTokens? tokens).map (tokens, ·) with
  | none => .error .malformed
  | some (tokens, q) =>
      match tokens.findSome? Token.excess? with
      | some length => .error (.overlong length)
      | none => .ok q

end HalBridge.QualifiedName
