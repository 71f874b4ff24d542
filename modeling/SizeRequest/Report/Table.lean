import SizeRequest.Text.Width

namespace SizeRequest

structure Table where
  header : List String
  rows : List (List String)

namespace Table

def lines (cell : String) : List String := (cell.toList.splitOn '\n').map String.ofList

def cellWidth (cell : String) : Nat := ((lines cell).map Text.width).foldl max 0

def maxWidths : List Nat → List Nat → List Nat
  | [], ws => ws
  | vs, [] => vs
  | v :: vs, w :: ws => max v w :: maxWidths vs ws

def widths (t : Table) : List Nat :=
  (t.rows.map (·.map cellWidth)).foldl maxWidths (t.header.map cellWidth)

def pad (width : Nat) (text : String) : List Char :=
  text.toList ++ List.replicate (width - Text.width text) ' '

def rule (left fill cross right : Char) (widths : List Nat) : List Char :=
  left :: [cross].intercalate (widths.map fun w => List.replicate (w + 2) fill) ++ [right]

def textLine (widths : List Nat) (texts : List String) : List Char :=
  '|' :: (widths.zip texts).flatMap fun (width, text) => ' ' :: pad width text ++ [' ', '|']

/-- The lines of a row, as many as its tallest cell has. -/
def rowLines (widths : List Nat) (cells : List String) : List (List Char) :=
  let columns := cells.map lines
  let height := (columns.map List.length).foldl max 0
  (List.range height).map fun i => textLine widths (columns.map fun column => column.getD i "")

def bodyLines (widths : List Nat) (rows : List (List String)) : List (List Char) :=
  [rule '|' '-' '+' '|' widths].intercalate (rows.map (rowLines widths))

def allLines (t : Table) : List (List Char) :=
  let widths := t.widths
  [rule '+' '-' '+' '+' widths] ++ rowLines widths t.header ++ [rule '+' '=' '=' '+' widths]
    ++ bodyLines widths t.rows ++ [rule '+' '-' '+' '+' widths]

def render (t : Table) : String := String.ofList (['\n'].intercalate t.allLines)

end Table

end SizeRequest
