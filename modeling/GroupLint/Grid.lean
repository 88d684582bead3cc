import GroupLint.Number.Binary64
import GroupLint.Text.Wrap

/-!
Grids for a console: columns under headings, between ruled edges. A column is as wide as its widest
cell; where the grid would be wider than the console, the widest columns give way and their cells
are broken into lines.
-/
namespace GroupLint

def consoleWidth : Nat := 80

structure Grid where
  heading : List (List Char)
  rows : List (List (List Char))
deriving DecidableEq, Repr

namespace Grid

def room (columns : Nat) : Nat := consoleWidth - (columns + 1)

def cellsOf (g : Grid) (column : Nat) : List (List Char) :=
  (g.heading :: g.rows).map fun row => row.getD column []

def askedWidth (g : Grid) (column : Nat) : Nat :=
  min (((g.cellsOf column).map fun text => Text.naturalWidth text + 2).foldl max 0) (room g.heading.length)

/-- Takes `excess` evenly off the columns of width `widest`, of which `count` are left, and at most
`most` off each. -/
def shrink (widest most : Nat) : Nat → Nat → List Nat → List Nat
  | _, _, [] => []
  | excess, count, w :: r =>
    if w = widest then
      let share := min most (Binary64.roundHalfEven excess count)
      (w - share) :: shrink widest most (excess - share) (count - 1) r
    else w :: shrink widest most excess count r

/-- Narrows the widest columns, down to the next widest at a time, until the columns fit. -/
def collapse (limit : Nat) : Nat → List Nat → List Nat
  | 0, widths => widths
  | fuel + 1, widths =>
    let excess := widths.sum - limit
    if excess = 0 then widths
    else
      let widest := widths.foldl max 0
      let second := (widths.filter (· != widest)).foldl max 0
      collapse limit fuel
        (shrink widest (min excess (widest - second)) excess (widths.count widest) widths)

/-- The widths of the columns. Each round joins two widths or ends, so one for each column is enough. -/
def widths (g : Grid) : List Nat :=
  let n := g.heading.length
  collapse (room n) (n + 1) ((List.range n).map g.askedWidth)

def cellLines (width : Nat) (text : List Char) : List (List Char) := Text.wrap (width - 2) text

def ruled (first bar between last : Char) (widths : List Nat) : String :=
  String.singleton first ++
    (String.singleton between).intercalate (widths.map fun w => String.ofList (List.replicate w bar)) ++
    String.singleton last ++ "\n"

def rowLine (edge : String) (i : Nat) (columns : List (Nat × List (List Char))) : String :=
  edge ++ edge.intercalate (columns.map fun (w, lines) =>
    " " ++ String.ofList (lines.getD i (List.replicate (w - 2) ' ')) ++ " ") ++ edge ++ "\n"

def row (edge : String) (widths : List Nat) (cells : List (List Char)) : String :=
  let columns := (widths.zip cells).map fun (w, text) => (w, cellLines w text)
  let height := (columns.map fun c => c.2.length).foldl max 0
  String.join ((List.range height).map fun i => rowLine edge i columns)

def render (g : Grid) : String :=
  let ws := g.widths
  ruled '┏' '━' '┳' '┓' ws ++ row "┃" ws g.heading ++ ruled '┡' '━' '╇' '┩' ws ++
    String.join (g.rows.map (row "│" ws)) ++ ruled '└' '─' '┴' '┘' ws

end Grid
end GroupLint
