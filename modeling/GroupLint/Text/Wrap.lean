import GroupLint.Text.Blank
import GroupLint.Text.CellWidth
import GroupLint.Text.Lines

/-!
Texts laid out in cells: tabs, and lines of a given width. A line is broken before a word that does
not fit any more; a word that fits no line is cut and ends in dots.
-/
namespace GroupLint.Text

/-- A line with its tabs as spaces, each up to the next multiple of eight cells. `part` is what came
since the last tab, last character first, and `column` the cells before it. -/
def expandTabsFrom (column : Nat) (part : List Char) : List Char → List Char
  | [] => part.reverse
  | c :: r =>
    if c == '\t' then
      let text := (' ' :: part).reverse
      let stop := column + cells text
      let gap := (8 - stop % 8) % 8
      text ++ List.replicate gap ' ' ++ expandTabsFrom (stop + gap) [] r
    else expandTabsFrom column (c :: part) r

def expandTabs (line : List Char) : List Char := expandTabsFrom 0 [] line

inductive ChunkPart where
  | before
  | word
  | after
deriving DecidableEq, Repr

def chunksFrom (part : ChunkPart) (chunk : List Char) : List Char → List (List Char)
  | [] => if part == .before then [] else [chunk.reverse]
  | c :: r =>
    if isBlank c then chunksFrom (if part == .before then .before else .after) (c :: chunk) r
    else if part == .after then chunk.reverse :: chunksFrom .word [c] r
    else chunksFrom .word (c :: chunk) r

def chunks (line : List Char) : List (List Char) := chunksFrom .before [] line

/-- Fills lines with chunks, `line` being begun and `filled` the cells of its chunks. Blanks at the end
of a chunk may stand over. -/
def fillLines (width : Nat) (line : List Char) (filled : Nat) : List (List Char) → List (List Char)
  | [] => [line]
  | chunk :: r =>
    if filled + cells (trimEnd chunk) ≤ width then fillLines width (line ++ chunk) (filled + cells chunk) r
    else line :: fillLines width chunk (cells chunk) r

def breakLine (width : Nat) (line : List Char) : List (List Char) :=
  match chunks line with
  | [] => [line]
  | chunk :: r => fillLines width chunk (cells chunk) r

def dropOverhang (width : Nat) (line : List Char) : List Char :=
  let blanks := line.length - (trimEnd line).length
  line.take (line.length - min blanks (line.length - width))

def fitLine (width : Nat) (line : List Char) : List Char :=
  if width < cells line then takeCells (width - 1) line ++ ['…']
  else line ++ List.replicate (width - cells line) ' '

def wrap (width : Nat) (text : List Char) : List (List Char) :=
  (newlineLines text).flatMap fun line =>
    (breakLine width (expandTabs line)).map fun l => fitLine width (dropOverhang width l)

def naturalWidth (text : List Char) : Nat := ((displayLines text).map cells).foldl max 0

end GroupLint.Text
