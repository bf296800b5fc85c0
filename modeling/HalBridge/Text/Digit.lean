import HalBridge.Text.Blank

/-!
Digits of all scripts and the numerals written with them.
-/

namespace HalBridge.Text

/-- The zero of each run of ten decimal digits. -/
def decimalZeros : List Nat :=
  [0x30, 0x660, 0x6f0, 0x7c0, 0x966, 0x9e6, 0xa66, 0xae6, 0xb66, 0xbe6, 0xc66, 0xce6, 0xd66,
   0xde6, 0xe50, 0xed0, 0xf20, 0x1040, 0x1090, 0x17e0, 0x1810, 0x1946, 0x19d0, 0x1a80, 0x1a90,
   0x1b50, 0x1bb0, 0x1c40, 0x1c50, 0xa620, 0xa8d0, 0xa900, 0xa9d0, 0xa9f0, 0xaa50, 0xabf0, 0xff10,
   0x104a0, 0x10d30, 0x11066, 0x110f0, 0x11136, 0x111d0, 0x112f0, 0x11450, 0x114d0, 0x11650,
   0x116c0, 0x11730, 0x118e0, 0x11950, 0x11c50, 0x11d50, 0x11da0, 0x16a60, 0x16ac0, 0x16b50,
   0x1d7ce, 0x1d7d8, 0x1d7e2, 0x1d7ec, 0x1d7f6, 0x1e140, 0x1e2f0, 0x1e950, 0x1fbf0]

/-- Digits that are not part of a decimal system: superscripts, subscripts, circled digits. -/
def nonDecimalDigits : List (Nat × Nat) :=
  [(0xb2, 0xb3), (0xb9, 0xb9), (0x1369, 0x1371), (0x19da, 0x19da), (0x2070, 0x2070),
   (0x2074, 0x2079), (0x2080, 0x2089), (0x2460, 0x2468), (0x2474, 0x247c), (0x2488, 0x2490),
   (0x24ea, 0x24ea), (0x24f5, 0x24fd), (0x24ff, 0x24ff), (0x2776, 0x277e), (0x2780, 0x2788),
   (0x278a, 0x2792), (0x10a40, 0x10a43), (0x10e60, 0x10e68), (0x11052, 0x1105a),
   (0x1f100, 0x1f10a)]

/-- The value of a decimal digit of any script. -/
def decimalValue? (c : Char) : Option Nat :=
  (decimalZeros.find? fun start => start ≤ c.toNat && c.toNat < start + 10).map (c.toNat - ·)

def isDigit (c : Char) : Bool :=
  (decimalValue? c).isSome || inRanges nonDecimalDigits c

/-- The number written by decimal digits, most significant first. -/
def ofDecimalDigits (digits : List Nat) : Nat :=
  digits.foldl (fun value digit => 10 * value + digit) 0

/-- The number that a nonempty run of decimal digits writes. -/
def numeral? (cs : List Char) : Option Nat :=
  if cs.isEmpty then none else (cs.mapM decimalValue?).map ofDecimalDigits

/-- The number of digits up to which numerals are read and numbers are written. -/
def digitLimit : Nat := 4300

/-- Why a text is not read as a number. -/
inductive NumeralError where
  | notDecimal
  /-- The numeral has more digits than are read. -/
  | overlong (length : Nat)
deriving DecidableEq

/-- Reads a nonempty run of decimal digits; leading zeros count for its length. -/
def readNumeral (cs : List Char) : Except NumeralError Nat :=
  match numeral? cs with
  | none => .error .notDecimal
  | some n => if cs.length ≤ digitLimit then .ok n else .error (.overlong cs.length)

/-- Removes each underscore that stands between two characters other than underscores. -/
def dropSeparators : List Char → Option (List Char)
  | [] => some []
  | ['_'] => none
  | [c] => some [c]
  | c :: '_' :: rest =>
      if c = '_' then none
      else match rest with
        | [] => none
        | d :: _ => if d = '_' then none else (dropSeparators rest).map (c :: ·)
  | c :: rest => if c = '_' then none else (dropSeparators rest).map (c :: ·)

/-- White space that may surround a written integer: all of it beyond ASCII, but of ASCII only
the space and the characters from tab to carriage return. -/
def isIntegerPadding (c : Char) : Bool :=
  if c.toNat < 0x80 then (0x9 ≤ c.toNat && c.toNat ≤ 0xd) || c.toNat = 0x20 else isBlank c

/-- Reads digits of any script with single underscores between them. -/
def readSeparated (cs : List Char) : Except NumeralError Nat :=
  match dropSeparators cs with
  | none => .error .notDecimal
  | some digits => readNumeral digits

/-- Reads an integer: padding, a sign, digits, padding. -/
def readInteger (s : String) : Except NumeralError Int :=
  match (dropEndWhile isIntegerPadding s).toList.dropWhile isIntegerPadding with
  | '-' :: cs => (readSeparated cs).map fun n => -(n : Int)
  | '+' :: cs => (readSeparated cs).map fun n => (n : Int)
  | cs => (readSeparated cs).map fun n => (n : Int)

end HalBridge.Text
