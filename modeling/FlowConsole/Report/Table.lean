import FlowConsole.Text.Split
import FlowConsole.Text.Width
/-!
Tables drawn with rounded corners: a header, a line under it, and rows without lines between them.

Every column is as wide as its widest line, with a blank on either side. A cell may have several
lines; the other cells of its row are then filled with blanks below.
-/
namespace FlowConsole.Report

open Text

structure Table where
  header : List String
  rows : List (List String)
deriving Repr

namespace Table

def cellLines (cell : String) : List String :=
  (splitOn '\n' cell.toList).map String.ofList

def cellWidth (cell : String) : Nat :=
  ((cellLines cell).map width).foldl max 0

def widen : List Nat → List String → List Nat
  | [], cells => cells.map cellWidth
  | ws, [] => ws
  | w :: ws, cell :: cells => max w (cellWidth cell) :: widen ws cells

def columnWidths (t : Table) : List Nat :=
  (t.header :: t.rows).foldl widen []

/-- A horizontal line: its left end, what stands between columns, and its right end. -/
def rule (left middle right : Char) (widths : List Nat) : String :=
  let parts := widths.map fun w => List.replicate (w + 2) '─'
  String.ofList (left :: (List.intercalate [middle] parts ++ [right]))

def padded (w : Nat) (line : String) : List Char :=
  ' ' :: (line.toList ++ List.replicate (w - width line) ' ' ++ [' '])

def rowLines (widths : List Nat) (cells : List String) : List String :=
  let lines := cells.map cellLines
  let height := (lines.map List.length).foldl max 0
  (List.range height).map fun i =>
    let parts := (widths.zip lines).map fun c => padded c.1 (c.2[i]?.getD "")
    String.ofList ('│' :: (List.intercalate ['│'] parts ++ ['│']))

def draw (t : Table) : String :=
  let widths := t.columnWidths
  "\n".intercalate
    ([rule '╭' '┬' '╮' widths] ++ rowLines widths t.header ++ [rule '├' '┼' '┤' widths] ++
      t.rows.flatMap (rowLines widths) ++ [rule '╰' '┴' '╯' widths])

end Table

end FlowConsole.Report
