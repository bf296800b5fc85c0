import HalBridge.Text.Digit
import HalBridge.Text.Lines
import HalBridge.Text.WordChar

/-!
Literal values in the parameters of a tag: numbers, quoted texts, the constants, and tuples, sets
and dictionaries of them. Only their form matters, so they are recognised and not evaluated.
-/

namespace HalBridge.Console

inductive LiteralToken where
  | number (imaginary : Bool)
  | quoted (bytes : Bool)
  | name (text : String)
  | mark (c : Char)
  | ellipsis
deriving DecidableEq

def isHexDigit (c : Char) : Bool :=
  c.isDigit || ('a' ≤ c && c ≤ 'f') || ('A' ≤ c && c ≤ 'F')

/-- Digits with single underscores between them. -/
def isDigitRun (cs : List Char) : Bool :=
  !cs.isEmpty && (Text.dropSeparators cs).isSome

/-- The longest start that consists of digits of a kind and underscores, and the rest. -/
def spanDigits (isDigit : Char → Bool) (cs : List Char) : List Char × List Char :=
  cs.span fun c => isDigit c || c = '_'

/-- Takes an exponent, if one stands at the start. -/
def dropExponent (cs : List Char) : Bool × List Char :=
  match cs with
  | e :: sign :: rest =>
      if e = 'e' || e = 'E' then
        let digits := if sign = '+' || sign = '-' then rest else sign :: rest
        let (run, rest) := spanDigits Char.isDigit digits
        if isDigitRun run then (true, rest) else (false, cs)
      else (false, cs)
  | _ => (false, cs)

/-- Takes a decimal number; an integer other than zero has no leading zero. -/
def decimalToken? (cs : List Char) : Option (LiteralToken × List Char) := do
  let (whole, rest) := spanDigits Char.isDigit cs
  guard (whole.isEmpty || isDigitRun whole)
  let (hasPoint, fraction, rest) :=
    match rest with
    | '.' :: more =>
        let (fraction, rest) := spanDigits Char.isDigit more
        (true, fraction, rest)
    | _ => (false, [], rest)
  guard (fraction.isEmpty || isDigitRun fraction)
  guard (!(whole.isEmpty && fraction.isEmpty))
  let (hasExponent, rest) := dropExponent rest
  match rest with
  | 'j' :: rest | 'J' :: rest => return (.number true, rest)
  | _ =>
      let zeros := whole.all fun c => c = '0' || c = '_'
      guard (hasPoint || hasExponent || zeros || whole.head? ≠ some '0')
      return (.number false, rest)

/-- Takes a number, which no name may follow at once. -/
def numberToken? (cs : List Char) : Option (LiteralToken × List Char) := do
  let based (isDigit : Char → Bool) (digits : List Char) : Option (LiteralToken × List Char) :=
    let (run, rest) := spanDigits isDigit digits
    if isDigitRun ('0' :: run) && run.any isDigit then some (.number false, rest) else none
  let (token, rest) ←
    match cs with
    | '0' :: 'x' :: digits | '0' :: 'X' :: digits => based isHexDigit digits
    | '0' :: 'o' :: digits | '0' :: 'O' :: digits => based (fun c => '0' ≤ c && c ≤ '7') digits
    | '0' :: 'b' :: digits | '0' :: 'B' :: digits => based (fun c => c = '0' || c = '1') digits
    | _ => decimalToken? cs
  guard (!rest.head?.any Text.isWordChar)
  return (token, rest)

/-- Whether what follows a backslash completes it. -/
def isEscape (bytes : Bool) (cs : List Char) : Bool :=
  let hex (count : Nat) := (cs.drop 1).length ≥ count && ((cs.drop 1).take count).all isHexDigit
  match cs.head? with
  | some 'x' => hex 2
  | some 'u' => bytes || hex 4
  | some 'U' => bytes || (hex 8 && ['0', '0'].isPrefixOf (cs.drop 1))
  | some 'N' => bytes || (cs.drop 1).head? = some '\x7b'
  | some _ => true
  | none => false

/-- Takes a quoted text up to its closing quotes. -/
def dropQuoted? (closing : List Char) (bytes raw : Bool) : List Char → Option (List Char)
  | [] => none
  | ['\\'] => none
  | '\\' :: c :: rest =>
      if (raw || isEscape bytes (c :: rest)) && (!bytes || c.toNat < 0x80) then
        dropQuoted? closing bytes raw rest
      else none
  | c :: rest =>
      if closing.isPrefixOf (c :: rest) then some ((c :: rest).drop closing.length)
      else if (c = '\n' && closing.length = 1) || (bytes && c.toNat ≥ 0x80) then none
      else dropQuoted? closing bytes raw rest

/-- Takes a quoted text whose kind is given by the letters before it. -/
def quotedToken? (letters : List Char) (quote : Char) (cs : List Char) :
    Option (LiteralToken × List Char) := do
  let kind := String.ofList (letters.map Char.toLower)
  guard (["", "r", "u", "b", "br", "rb"].contains kind)
  let bytes := kind.toList.contains 'b'
  let raw := kind.toList.contains 'r'
  let triple := [quote, quote, quote]
  let rest ←
    if triple.isPrefixOf (quote :: cs) then dropQuoted? triple bytes raw (cs.drop 2)
    else dropQuoted? [quote] bytes raw cs
  return (.quoted bytes, rest)

/-- The number of brackets that may be open at once. -/
def bracketLimit : Nat := 200

/-- The tokens of a text, read `fuel` of them at most; `depth` counts the open brackets, inside of
which a line may end. -/
def literalTokens? : Nat → Nat → List Char → Option (List LiteralToken)
  | _, _, [] => some []
  | 0, _, _ => none
  | fuel + 1, depth, c :: rest =>
      let token (next : Option (LiteralToken × List Char)) : Option (List LiteralToken) := do
        let (token, rest) ← next
        return token :: (← literalTokens? fuel depth rest)
      if c = ' ' || c = '\t' || c.toNat = 0xc || (c = '\n' && depth > 0) then
        literalTokens? fuel depth rest
      else if c = '#' then literalTokens? fuel depth (rest.dropWhile (· ≠ '\n'))
      else if c = '(' || c = '\x7b' then do
        guard (depth < bracketLimit)
        return .mark c :: (← literalTokens? fuel (depth + 1) rest)
      else if c = ')' || c = '\x7d' then do
        return .mark c :: (← literalTokens? fuel (depth - 1) rest)
      else if [',', ':', '+', '-'].contains c then token (some (.mark c, rest))
      else if ['.', '.', '.'].isPrefixOf (c :: rest) then token (some (.ellipsis, rest.drop 2))
      else if c.isDigit || c = '.' then token (numberToken? (c :: rest))
      else
        let (name, after) := (c :: rest).span Text.isWordChar
        match after with
        | '\'' :: more => token (quotedToken? name '\'' more)
        | '"' :: more => token (quotedToken? name '"' more)
        | _ => if name.isEmpty then none else token (some (.name (String.ofList name), after))

/-- What matters about a literal for what may stand around it. -/
inductive Literal where
  | number (imaginary : Bool)
  | signed (imaginary : Bool)
  /-- Any other value; only a hashable one may be a key or be in a set. -/
  | other (hashable : Bool)
deriving DecidableEq

def Literal.isHashable : Literal → Bool
  | .other hashable => hashable
  | _ => true

/-- One entry of a bracket: a literal, and whether a value follows it after a colon. -/
abbrev LiteralEntry := Literal × Bool

mutual

/-- Reads a literal without a sign. -/
def literalAtom? : Nat → List LiteralToken → Option (Literal × List LiteralToken)
  | _, .number imaginary :: rest => some (.number imaginary, rest)
  | _, .quoted bytes :: rest =>
      let after := rest.dropWhile (· = .quoted bytes)
      if after.head? = some (.quoted !bytes) then none else some (.other true, after)
  | _, .ellipsis :: rest => some (.other true, rest)
  | _, .name "set" :: .mark '(' :: .mark ')' :: rest => some (.other false, rest)
  | _, .name text :: rest =>
      if ["True", "False", "None"].contains text then some (.other true, rest) else none
  | fuel + 1, .mark '(' :: rest => do
      let (entries, hasComma, after) ← literalEntries? fuel rest
      guard (entries.all (!·.2))
      match entries, hasComma, after with
      | [(literal, _)], false, .mark ')' :: after => return (literal, after)
      | entries, _, .mark ')' :: after => return (.other (entries.all (·.1.isHashable)), after)
      | _, _, _ => none
  | fuel + 1, .mark '\x7b' :: rest => do
      let (entries, _, after) ← literalEntries? fuel rest
      guard (entries.all (·.2) || entries.all (!·.2))
      guard (entries.all (·.1.isHashable))
      match after with
      | .mark '\x7d' :: after => return (.other false, after)
      | _ => none
  | _, _ => none

/-- Reads a literal: one with a sign must be a number, and a sum is a real and an imaginary
number. -/
def literal? : Nat → List LiteralToken → Option (Literal × List LiteralToken)
  | 0, _ => none
  | fuel + 1, tokens => do
      let (left, rest) ←
        match tokens with
        | .mark '+' :: rest | .mark '-' :: rest => do
            let (operand, rest) ← literalAtom? fuel rest
            match operand with
            | .number imaginary => some (Literal.signed imaginary, rest)
            | _ => none
        | _ => literalAtom? fuel tokens
      match rest with
      | .mark '+' :: more | .mark '-' :: more => do
          guard (left = .number false || left = .signed false)
          let (right, rest) ← literalAtom? fuel more
          guard (right = .number true)
          return (.other true, rest)
      | _ => return (left, rest)

/-- Reads the entries of a bracket, and whether a comma is among them. -/
def literalEntries? :
    Nat → List LiteralToken → Option (List LiteralEntry × Bool × List LiteralToken)
  | _, [] => some ([], false, [])
  | 0, _ => none
  | fuel + 1, tokens =>
      if tokens.head? = some (.mark ')') || tokens.head? = some (.mark '\x7d') then
        some ([], false, tokens)
      else do
        let (first, rest) ← literal? fuel tokens
        let (hasValue, rest) ←
          match rest with
          | .mark ':' :: more => do
              let (_, rest) ← literal? fuel more
              some (true, rest)
          | _ => some (false, rest)
        match rest with
        | .mark ',' :: more => do
            let (others, _, rest) ← literalEntries? fuel more
            return ((first, hasValue) :: others, true, rest)
        | _ => return ([(first, hasValue)], false, rest)

end

/-- Whether a text is a literal, or several of them with commas between. -/
def isLiteral (cs : List Char) : Bool :=
  match literalTokens? cs.length 0 (cs.dropWhile fun c => c = ' ' || c = '\t') with
  | none => false
  | some tokens =>
      match literalEntries? (3 * tokens.length + 3) tokens with
      | some (entries, _, []) => !entries.isEmpty && entries.all (!·.2)
      | _ => false

end HalBridge.Console
