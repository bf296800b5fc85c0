import HalBridge.Console.Layout

/-!
Tables of marked-up texts: each column is as wide as its widest cell asks for, and a cell with
several lines makes its row as high.
-/

namespace HalBridge.Console

/-- The spaces after each cell. -/
def cellGap : String := "  "

/-- The cells of one column from top to bottom. -/
structure Column where
  cells : List (List Glyph)
  justification : Justification := .left

namespace Column

def width (column : Column) : Nat :=
  (column.cells.map requestedWidth).foldl max 0

/-- The lines of each cell. -/
def laidOut (column : Column) : List (List String) :=
  column.cells.map fun cell =>
    (columnLines column.justification column.width cell).map Line.toText

/-- The lines of the column, when each row is as high as `heights` says. -/
def lines (column : Column) (heights : List Nat) : List String :=
  let blank := String.ofList (List.replicate column.width ' ')
  (column.laidOut.zip heights).flatMap fun (lines, height) =>
    (lines ++ List.replicate (height - lines.length) blank).map (· ++ cellGap)

/-- The number of lines of each cell. -/
def heights (column : Column) : List Nat :=
  column.laidOut.map List.length

end Column

/-- Puts two blocks of lines side by side. -/
def beside (left right : List String) : List String :=
  List.zipWith (· ++ ·) left right

/-- The lines of a table, given its columns. -/
def tableLines : List Column → List String
  | [] => []
  | first :: rest =>
      let heights := rest.foldl
        (fun heights column => List.zipWith max heights column.heights) first.heights
      rest.foldl (fun block column => beside block (column.lines heights)) (first.lines heights)

end HalBridge.Console
