/-!
White space, and the trimming of texts by it.
-/

namespace HalBridge.Text

/-- Membership of a character in a list of inclusive code point ranges. -/
def inRanges (ranges : List (Nat × Nat)) (c : Char) : Bool :=
  ranges.any fun range => range.1 ≤ c.toNat && c.toNat ≤ range.2

/-- White space: the separators and the control characters that only move the cursor. -/
def blankRanges : List (Nat × Nat) :=
  [(0x9, 0xd), (0x1c, 0x20), (0x85, 0x85), (0xa0, 0xa0), (0x1680, 0x1680), (0x2000, 0x200a),
   (0x2028, 0x2029), (0x202f, 0x202f), (0x205f, 0x205f), (0x3000, 0x3000)]

def isBlank (c : Char) : Bool :=
  inRanges blankRanges c

/-- Drops the longest suffix whose characters satisfy `p`. -/
def dropEndWhile (p : Char → Bool) (s : String) : String :=
  String.ofList (s.toList.reverse.dropWhile p).reverse

def trimEnd (s : String) : String :=
  dropEndWhile isBlank s

def trim (s : String) : String :=
  trimEnd (String.ofList (s.toList.dropWhile isBlank))

end HalBridge.Text
