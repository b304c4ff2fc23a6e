import HttpChain.Console.Width

/-!
# HttpChain.Console.Table

Tables in frames.  Each column is as wide as its widest line, with a blank on
both sides; the header is set off by a double line and the rows by dashes.
-/

namespace HttpChain.Console

/-- The lines of a cell. -/
def cellLines (cell : List Char) : List (List Char) := Text.splitAll '\n' cell

/-- The columns that a cell takes. -/
def cellWidth (cell : List Char) : Nat := ((cellLines cell).map width).foldl max 0

/-- The widths of the columns of rows. -/
def columnWidths (rows : List (List (List Char))) : List Nat :=
  rows.foldl (fun ws row => ws.zipWith max (row.map cellWidth)) ((rows.headD []).map fun _ => 0)

/-- A line of the frame: its ends, the line, and where columns meet. -/
def frameLine (left line cross right : Char) (widths : List Nat) : List Char :=
  left :: ([cross].intercalate (widths.map fun w => List.replicate (w + 2) line) ++ [right, '\n'])

/-- One line of a row, with the given text in each column. -/
def textLine (widths : List Nat) (texts : List (List Char)) : List Char :=
  let cells := (widths.zip texts).map fun (w, t) =>
    ' ' :: (t ++ List.replicate (w - width t + 1) ' ')
  '│' :: (['┆'].intercalate cells ++ ['│', '\n'])

/-- The lines of a row: as many as its tallest cell has. -/
def rowLines (widths : List Nat) (row : List (List Char)) : List Char :=
  let cells := row.map cellLines
  let height := (cells.map List.length).foldl max 1
  (List.range height).flatMap fun i => textLine widths (cells.map fun ls => ls.getD i [])

/-- A table of a header and rows, without its last line end. -/
def table (header : List String) (rows : List (List String)) : String :=
  let header := header.map String.toList
  let rows := rows.map fun r => r.map String.toList
  let widths := columnWidths (header :: rows)
  let body := (frameLine '├' '╌' '┼' '┤' widths).intercalate (rows.map (rowLines widths))
  String.ofList
    (frameLine '┌' '─' '┬' '┐' widths ++ rowLines widths header ++
      frameLine '╞' '═' '╪' '╡' widths ++ body ++
      (frameLine '└' '─' '┴' '┘' widths).dropLast)

end HttpChain.Console
