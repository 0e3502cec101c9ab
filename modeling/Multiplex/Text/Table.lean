import Multiplex.Text.Columns

/-! Tables drawn with box characters. A column is as wide as its widest line; a cell with several
lines makes its row that much higher. -/

namespace Multiplex
namespace Table

structure Rule where
  left : String
  fill : Char
  cross : String
  right : String

def top : Rule := ⟨"┌", '─', "┬", "┐"⟩
def underHeader : Rule := ⟨"╞", '═', "╪", "╡"⟩
def between : Rule := ⟨"├", '╌', "┼", "┤"⟩
def bottom : Rule := ⟨"└", '─', "┴", "┘"⟩

def Rule.draw (r : Rule) (widths : List Nat) : String :=
  let fills := widths.map fun w => String.ofList (List.replicate (w + 2) r.fill)
  r.left ++ r.cross.intercalate fills ++ r.right

abbrev Cell := List String

def cell (text : String) : Cell := text.splitOn "\n"

def Cell.width (c : Cell) : Nat := (c.map Columns.width).foldl max 0

def widths : List (List Cell) → List Nat
  | [] => []
  | [row] => row.map Cell.width
  | row :: rows => List.zipWith max (row.map Cell.width) (widths rows)

def pad (width : Nat) (line : String) : String :=
  " " ++ line ++ String.ofList (List.replicate (width - Columns.width line) ' ') ++ " "

/-- One line of a row. A cell that has no such line leaves its place blank. -/
def drawLine (widths : List Nat) (row : List Cell) (i : Nat) : String :=
  "│" ++ "┆".intercalate (List.zipWith (fun w lines => pad w (lines[i]?.getD "")) widths row) ++ "│"

def drawRow (widths : List Nat) (row : List Cell) : List String :=
  (List.range ((row.map List.length).foldl max 0)).map (drawLine widths row)

def draw (header : List String) (rows : List (List String)) : String :=
  let header := header.map cell
  let rows := rows.map (·.map cell)
  let widths := widths (header :: rows)
  let body := (rows.map (drawRow widths)).intersperse [between.draw widths]
  "\n".intercalate
    ([top.draw widths] ++ drawRow widths header ++ [underHeader.draw widths] ++ body.flatten ++
      [bottom.draw widths])

end Table
end Multiplex
