import HalBridge.Json.Basic
import HalBridge.Text.Digit

/-!
Reading JSON texts. The reader is strict: it takes no byte order mark, no raw control character in
a string and no text after the value. Beyond the standard it takes the words for numbers that are
none or not finite, and it refuses integers with too many digits.
-/

namespace HalBridge.Json

def isSpace (c : Char) : Bool :=
  c = ' ' || c = '\t' || c = '\n' || c = '\r'

def skipSpace (cs : List Char) : List Char :=
  cs.dropWhile isSpace

def isAsciiDigit (c : Char) : Bool :=
  '0' ≤ c && c ≤ '9'

def asciiDigits (cs : List Char) : List Nat :=
  cs.map fun c => c.toNat - '0'.toNat

def hexValue? (c : Char) : Option Nat :=
  if isAsciiDigit c then some (c.toNat - '0'.toNat)
  else if 'a' ≤ c && c ≤ 'f' then some (c.toNat - 'a'.toNat + 10)
  else if 'A' ≤ c && c ≤ 'F' then some (c.toNat - 'A'.toNat + 10)
  else none

/-- The character for a code unit by itself. A surrogate without its partner is no character; one
of the last private characters stands for it, so that different ones stay apart. -/
def ofUnit (unit : Nat) : Char :=
  Char.ofNat (if 0xd800 ≤ unit && unit ≤ 0xdfff then 0x10f800 + (unit - 0xd800) else unit)

/-- Joins surrogate pairs among code units. -/
def ofUnits : List Nat → List Char
  | [] => []
  | [unit] => [ofUnit unit]
  | high :: low :: rest =>
      if 0xd800 ≤ high && high ≤ 0xdbff && 0xdc00 ≤ low && low ≤ 0xdfff then
        Char.ofNat (0x10000 + (high - 0xd800) * 0x400 + (low - 0xdc00)) :: ofUnits rest
      else ofUnit high :: ofUnits (low :: rest)

def escape? (c : Char) : Option Nat :=
  match c with
  | '"' => some 0x22
  | '\\' => some 0x5c
  | '/' => some 0x2f
  | 'b' => some 0x8
  | 'f' => some 0xc
  | 'n' => some 0xa
  | 'r' => some 0xd
  | 't' => some 0x9
  | _ => none

/-- Reads the rest of a string after its opening quote; `units` are those read before, reversed. -/
def parseString (units : List Nat) : List Char → Option (String × List Char)
  | [] => none
  | '"' :: rest => some (String.ofList (ofUnits units.reverse), rest)
  | '\\' :: 'u' :: a :: b :: c :: d :: rest =>
      match hexValue? a, hexValue? b, hexValue? c, hexValue? d with
      | some a, some b, some c, some d =>
          parseString ((((a * 16 + b) * 16 + c) * 16 + d) :: units) rest
      | _, _, _, _ => none
  | '\\' :: c :: rest =>
      match escape? c with
      | some unit => parseString (unit :: units) rest
      | none => none
  | c :: rest => if c.toNat < 0x20 || c = '\\' then none else parseString (c.toNat :: units) rest

/-- The fraction digits after a point that at least one digit follows. -/
def parseFraction : List Char → List Char × List Char
  | '.' :: rest =>
      if (rest.takeWhile isAsciiDigit).isEmpty then ([], '.' :: rest)
      else (rest.takeWhile isAsciiDigit, rest.dropWhile isAsciiDigit)
  | cs => ([], cs)

def parseExponentDigits (sign : Int) (whole cs : List Char) : Option Int × List Char :=
  let digits := cs.takeWhile isAsciiDigit
  if digits.isEmpty then (none, whole)
  else (some (sign * Text.ofDecimalDigits (asciiDigits digits)), cs.dropWhile isAsciiDigit)

def parseExponent : List Char → Option Int × List Char
  | mark :: rest =>
      if mark = 'e' || mark = 'E' then
        match rest with
        | '-' :: more => parseExponentDigits (-1) (mark :: rest) more
        | '+' :: more => parseExponentDigits 1 (mark :: rest) more
        | _ => parseExponentDigits 1 (mark :: rest) rest
      else (none, mark :: rest)
  | [] => (none, [])

/-- Reads an unsigned number: an integer without superfluous zeros, a fraction, an exponent. -/
def parseUnsigned (negative : Bool) (cs : List Char) : Option (Json × List Char) :=
  let whole :=
    match cs with
    | '0' :: _ => ['0']
    | _ => cs.takeWhile isAsciiDigit
  if whole.isEmpty then none
  else
    let afterWhole := cs.drop whole.length
    let (fraction, afterFraction) := parseFraction afterWhole
    let (exponent, rest) := parseExponent afterFraction
    let digits := Text.ofDecimalDigits (asciiDigits (whole ++ fraction))
    if fraction.isEmpty && exponent.isNone then
      if whole.length ≤ Text.digitLimit then
        some (.int (if negative then -(digits : Int) else digits), rest)
      else none
    else
      some (.real ⟨negative, digits, exponent.getD 0 - fraction.length⟩, rest)

def parseNumber : List Char → Option (Json × List Char)
  | 'N' :: 'a' :: 'N' :: rest => some (.notANumber, rest)
  | 'I' :: 'n' :: 'f' :: 'i' :: 'n' :: 'i' :: 't' :: 'y' :: rest => some (.infinite false, rest)
  | '-' :: 'I' :: 'n' :: 'f' :: 'i' :: 'n' :: 'i' :: 't' :: 'y' :: rest =>
      some (.infinite true, rest)
  | '-' :: rest => parseUnsigned true rest
  | cs => parseUnsigned false cs

mutual

/-- Reads one value; `depth` bounds the number of nested calls. -/
def parseValue (depth : Nat) (cs : List Char) : Option (Json × List Char) :=
  match depth with
  | 0 => none
  | depth + 1 =>
      match cs with
      | 'n' :: 'u' :: 'l' :: 'l' :: rest => some (.null, rest)
      | 't' :: 'r' :: 'u' :: 'e' :: rest => some (.bool true, rest)
      | 'f' :: 'a' :: 'l' :: 's' :: 'e' :: rest => some (.bool false, rest)
      | '"' :: rest => (parseString [] rest).map fun (s, rest) => (.str s, rest)
      | '[' :: rest =>
          match skipSpace rest with
          | ']' :: rest => some (.arr [], rest)
          | rest => (parseItems depth [] rest).map fun (items, rest) => (.arr items, rest)
      | '\x7b' :: rest =>
          match skipSpace rest with
          | '\x7d' :: rest => some (.obj [], rest)
          | rest => (parseMembers depth [] rest).map fun (members, rest) => (.obj members, rest)
      | cs => parseNumber cs

/-- Reads the items of an array up to its closing bracket; `items` are those before, reversed. -/
def parseItems (depth : Nat) (items : List Json) (cs : List Char) :
    Option (List Json × List Char) :=
  match depth with
  | 0 => none
  | depth + 1 =>
      match parseValue depth (skipSpace cs) with
      | none => none
      | some (item, rest) =>
          match skipSpace rest with
          | ',' :: rest => parseItems depth (item :: items) rest
          | ']' :: rest => some ((item :: items).reverse, rest)
          | _ => none

/-- Reads the members of an object up to its closing brace, after those in `members`. -/
def parseMembers (depth : Nat) (members : List (String × Json)) (cs : List Char) :
    Option (List (String × Json) × List Char) :=
  match depth with
  | 0 => none
  | depth + 1 =>
      match skipSpace cs with
      | '"' :: rest =>
          match parseString [] rest with
          | none => none
          | some (key, rest) =>
              match skipSpace rest with
              | ':' :: rest =>
                  match parseValue depth (skipSpace rest) with
                  | none => none
                  | some (value, rest) =>
                      match skipSpace rest with
                      | ',' :: rest => parseMembers depth (setMember key value members) rest
                      | '\x7d' :: rest => some (setMember key value members, rest)
                      | _ => none
              | _ => none
      | _ => none

end

/-- Reads a text that holds one JSON value. Every call consumes a character, so the length of the
text bounds their nesting. -/
def parse? (text : String) : Option Json :=
  let cs := text.toList
  match parseValue (cs.length + 1) (skipSpace cs) with
  | some (value, rest) => if (skipSpace rest).isEmpty then some value else none
  | none => none

end HalBridge.Json
