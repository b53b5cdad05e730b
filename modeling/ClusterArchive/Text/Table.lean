import ClusterArchive.Text.Split
import ClusterArchive.Text.Width

/-! Tables of text in a frame of ASCII characters, with a rule around every row. A cell may hold
several lines; a column is as wide as its widest line. -/

namespace ClusterArchive.Text.Table

def cellLines (cell : String) : List String :=
  (split (· == '\n') cell.toList).map String.ofList

def cellWidth (cell : String) : Nat := ((cellLines cell).map width).foldl max 0

def fill (columns : Nat) (line : String) : String :=
  line ++ "".pushn ' ' (columns - width line)

def columnWidths (rows : List (List String)) : List Nat :=
  rows.foldl (fun widths row => widths.zipWith max (row.map cellWidth))
    ((rows.headD []).map fun _ => 0)

def rule (widths : List Nat) : String :=
  "+" ++ String.join (widths.map fun n => "".pushn '-' (n + 2) ++ "+")

/-- One line of a row; a cell that has no such line is blank there. -/
def rowLine (widths : List Nat) (row : List String) (index : Nat) : String :=
  "|" ++ String.join ((widths.zip row).map fun (n, cell) =>
    " " ++ fill n ((cellLines cell)[index]?.getD "") ++ " |")

def rowHeight (row : List String) : Nat := (row.map fun cell => (cellLines cell).length).foldl max 0

def rowLines (widths : List Nat) (row : List String) : List String :=
  (List.range (rowHeight row)).map (rowLine widths row)

def lines (rows : List (List String)) : List String :=
  let widths := columnWidths rows
  rule widths :: rows.flatMap fun row => rowLines widths row ++ [rule widths]

end ClusterArchive.Text.Table
