import Reckon.Text.Cluster

/-!
# Tables

A table has a title centred over it, a row of headers and rows of cells, with lines drawn around
them. A column is as wide as its widest cell, and a cell has a space on both sides. If the table
would be too wide, its widest column gives way, and cells that do not fit are cut short.
-/

namespace Reckon

inductive Alignment where
  | left
  | right
  deriving Repr, DecidableEq

structure Table where
  title : String
  headers : List (String × Alignment)
  rows : List (List String)

namespace Table

def widthOf (s : String) : Nat := textColumns s.toList

def spaces (n : Nat) : String := String.ofList (List.replicate n ' ')

/-- A text cut short to a width, with an ellipsis at its end if it is too long. -/
def shorten (width : Nat) (s : String) : String :=
  if width < widthOf s then
    String.ofList (Cluster.crop (width - 1) (Cluster.ofChars s.toList) ++ ['…'])
  else s

/-- Fills a text up to a width. -/
def align (a : Alignment) (width : Nat) (s : String) : String :=
  let s := shorten width s
  let fill := spaces (width - widthOf s)
  match a with
  | .left => s ++ fill
  | .right => fill ++ s

/-- A text in the middle of a width; an odd space goes after it. -/
def centre (width : Nat) (s : String) : String :=
  let room := width - widthOf s
  spaces (room / 2) ++ s ++ spaces (room - room / 2)

/-- The widths of the columns by their cells. -/
def naturalWidths (t : Table) : List Nat :=
  t.headers.zipIdx.map fun ((header, _), i) =>
    (t.rows.map fun row => widthOf (row.getD i "")).foldl max (widthOf header)

/-- The width of a table by those of its columns. -/
def totalWidth (ws : List Nat) : Nat := (ws.map (· + 3)).foldr (· + ·) 1

/-- The widths of the columns in a table that is at most so wide. -/
def widths (t : Table) (limit : Nat) : List Nat :=
  let ws := t.naturalWidths
  let widest := ws.foldl max 0
  ws.map fun w => if w = widest then w - (totalWidth ws - limit) else w

/-- A line between two rows, made of `bar`, with the given ends and crossings. -/
def rule (left bar cross right : Char) (ws : List Nat) : String :=
  let parts := ws.map fun w => String.ofList (List.replicate (w + 2) bar)
  String.ofList [left] ++ (String.ofList [cross]).intercalate parts ++ String.ofList [right]

/-- A row of cells with `bar` between them. -/
def row (t : Table) (bar : Char) (ws : List Nat) (cells : List String) : String :=
  let parts := (t.headers.zip ws).zipIdx.map fun (((_, a), w), i) =>
    " " ++ align a w (cells.getD i "") ++ " "
  let bar := String.ofList [bar]
  bar ++ bar.intercalate parts ++ bar

def lines (t : Table) (limit : Nat) : List String :=
  let ws := t.widths limit
  [centre (totalWidth ws) t.title,
    rule '┏' '━' '┳' '┓' ws,
    t.row '┃' ws (t.headers.map (·.1)),
    rule '┡' '━' '╇' '┩' ws]
    ++ t.rows.map (t.row '│' ws)
    ++ [rule '└' '─' '┴' '┘' ws]

/-- The text of a table that is at most so wide. -/
def render (t : Table) (limit : Nat) : String := String.join ((t.lines limit).map (· ++ "\n"))

end Table

end Reckon
