import HalBridge.Console.Markup
import HalBridge.Text.Width

/-!
The lines that a text takes on a console, in a column of a given width or without a limit.
-/

namespace HalBridge.Console

abbrev Line := List Glyph

namespace Line

def chars (line : Line) : List Char :=
  line.map Glyph.char

def width (line : Line) : Nat :=
  Text.width line.chars

def toText (line : Line) : String :=
  String.ofList line.chars

/-- Spaces that follow a line; they have no style. -/
def spaces (line : Line) (count : Nat) : Line :=
  List.replicate count { char := ' ', tags := (line.getLast?.map Glyph.tags).getD 0 }

end Line

/-- The parts of a text between line feeds. -/
def splitLines : List Glyph → List Line
  | [] => [[]]
  | glyph :: rest =>
      if glyph.char = '\n' then [] :: splitLines rest
      else match splitLines rest with
        | [] => [[glyph]]
        | line :: lines => (glyph :: line) :: lines

def tabStop : Nat := 8

/-- Replaces each tab by spaces up to the next tab stop, at least one. The first tab ends what
stands from `column` on, the reversed glyphs of `part` included. -/
def expandTabsFrom (column : Nat) (part : Line) : List Glyph → Line
  | [] => part.reverse
  | glyph :: rest =>
      if glyph.char = '\t' then
        let space := { glyph with char := ' ' }
        let part := (space :: part).reverse
        let reached := column + Line.width part
        let fill := (tabStop - reached % tabStop) % tabStop
        part ++ List.replicate fill space ++ expandTabsFrom (reached + fill) [] rest
      else expandTabsFrom column (glyph :: part) rest

def expandTabs (line : Line) : Line :=
  expandTabsFrom 0 [] line

/-- The lines of a text that has all the width it needs. -/
def shownLines (glyphs : List Glyph) : List String :=
  (splitLines glyphs).map fun line => (expandTabs line).toText

def isBlankGlyph (glyph : Glyph) : Bool :=
  Text.isBlank glyph.char

/-- The words of a line, each with the blanks after it, after the reversed glyphs of `word`; the
first one also has the blanks before it. -/
def wordsFrom (word : Line) : List Glyph → List Line
  | [] => if word.all isBlankGlyph then [] else [word.reverse]
  | glyph :: rest =>
      if !isBlankGlyph glyph && word.head?.any isBlankGlyph && !word.all isBlankGlyph then
        word.reverse :: wordsFrom [glyph] rest
      else wordsFrom (glyph :: word) rest

def trimEnd (line : Line) : Line :=
  (line.reverse.dropWhile isBlankGlyph).reverse

/-- Puts words on lines of at most `width` columns, after `line`, of which `used` columns are
taken. A word that fits on no line gets one of its own. -/
def fillLines (width : Nat) (line : Line) (used : Nat) : List Line → List Line
  | [] => [line]
  | word :: rest =>
      let needed := Line.width (trimEnd word)
      if used + needed ≤ width then
        fillLines width (line ++ word) (used + Line.width word) rest
      else if needed > width then
        if line.isEmpty then fillLines width word (Line.width word) rest
        else line :: fillLines width word (Line.width word) rest
      else if used > 0 && !line.isEmpty then
        line :: fillLines width word (Line.width word) rest
      else fillLines width (line ++ word) used rest

/-- Drops blanks from the end of a line while it has more than `width` characters. -/
def dropExcess (width : Nat) (line : Line) : Line :=
  let blanks := line.length - (trimEnd line).length
  line.take (line.length - min blanks (line.length - width))

/-- The longest start of a line that fits, filled up to the width. -/
def cropTo (width : Nat) (line : Line) : Line :=
  let lengths := (List.range (line.length + 1)).filter fun n => Line.width (line.take n) ≤ width
  let kept := line.take (lengths.getLast?.getD 0)
  kept ++ Line.spaces kept (width - Line.width kept)

/-- Shortens a line that is too wide and ends it in an ellipsis. -/
def shorten (width : Nat) (line : Line) : Line :=
  if Line.width line ≤ width then line
  else
    let kept := cropTo (width - 1) line
    kept ++ [{ (kept.getLast?.getD { char := ' ' }) with char := Char.ofNat 0x2026 }]

inductive Justification where
  | left
  | right

/-- Puts a line to one side of a column. -/
def justify (justification : Justification) (width : Nat) (line : Line) : Line :=
  match justification with
  | .left =>
      let line := shorten width line
      line ++ Line.spaces line (width - Line.width line)
  | .right =>
      let line := shorten width (trimEnd line)
      Line.spaces [] (width - Line.width line) ++ line

/-- The runs of glyphs between the places where a style begins or ends. -/
def runs (line : Line) : List Line :=
  line.splitBy fun a b => a.tags = b.tags && a.styled = b.styled

/-- Takes runs up to a width; the last one taken is cropped. -/
def cropRuns (width : Nat) : List Line → Line
  | [] => []
  | run :: rest =>
      if Line.width run < width then run ++ cropRuns (width - Line.width run) rest
      else cropTo width run

/-- Gives a line its final width. Each run is measured by itself. -/
def fit (width : Nat) (line : Line) : Line :=
  let taken := ((runs line).map Line.width).foldl (· + ·) 0
  if taken ≤ width then line ++ Line.spaces line (width - taken) else cropRuns width (runs line)

/-- The lines of a text in a column. -/
def columnLines (justification : Justification) (width : Nat) (glyphs : List Glyph) : List Line :=
  (splitLines glyphs).flatMap fun line =>
    let line := expandTabs line
    let lines :=
      match wordsFrom [] line with
      | [] => [line]
      | words => fillLines width [] 0 words
    lines.map fun line => fit width (justify justification width (dropExcess width line))

/-- The width that a text asks for: that of its widest line, at any kind of line break. -/
def requestedWidth (glyphs : List Glyph) : Nat :=
  ((Text.lines (Line.toText glyphs)).map fun line => Text.width line.toList).foldl max 0

end HalBridge.Console
