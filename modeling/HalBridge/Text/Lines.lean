/-!
Lines of a text: where they break, how a text is split into them, and how a block is indented.
-/

namespace HalBridge.Text

/-- Line feed, vertical tab, form feed, carriage return, the file, group and record separators,
next line, and the line and paragraph separators end a line. -/
def isLineBreak (c : Char) : Bool :=
  [0xa, 0xb, 0xc, 0xd, 0x1c, 0x1d, 0x1e, 0x85, 0x2028, 0x2029].contains c.toNat

/-- The lines of a text whose current line already holds `line`, reversed. -/
def linesFrom (line : List Char) : List Char → List String
  | [] => if line.isEmpty then [] else [String.ofList line.reverse]
  | '\r' :: '\n' :: rest => String.ofList line.reverse :: linesFrom [] rest
  | c :: rest =>
      if isLineBreak c then String.ofList line.reverse :: linesFrom [] rest
      else linesFrom (c :: line) rest

/-- The lines of a text, without their breaks; a final break starts no further line. -/
def lines (s : String) : List String :=
  linesFrom [] s.toList

def joinLines (ls : List String) : String :=
  String.intercalate "\n" ls

/-- One level of indentation in generated code. -/
def indentation : String := "    "

/-- Indents each line that is not empty by one level. -/
def indentLines (ls : List String) : List String :=
  ls.map fun line => if line.isEmpty then line else indentation ++ line

/-- Indents every line of a block but the first, breaking it at any line break; a block that ends
in a break keeps an empty last line. -/
def hangBlock (s : String) : String :=
  match lines (s ++ "\n") with
  | [] => ""
  | first :: rest => joinLines (first :: indentLines rest)

/-- Indents every line of a block, the first even if it is empty. -/
def indentBlock (s : String) : String :=
  indentation ++ hangBlock s

/-- The parts of a text between the occurrences of a separator. -/
def splitChars (separator : Char) : List Char → List (List Char)
  | [] => [[]]
  | c :: rest =>
      if c = separator then [] :: splitChars separator rest
      else match splitChars separator rest with
        | [] => [[c]]
        | part :: parts => (c :: part) :: parts

def split (separator : Char) (s : String) : List String :=
  (splitChars separator s.toList).map String.ofList

/-- Writes a dotted name as a path. -/
def dotsToSlashes (s : String) : String :=
  s.map fun c => if c = '.' then '/' else c

end HalBridge.Text
