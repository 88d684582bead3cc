/-!
Three ways to see lines in a text: at `\n` alone, at every line boundary a display knows, and the
uniform line ends that a file is read with.
-/
namespace GroupLint.Text

def newlineLines : List Char → List (List Char)
  | [] => [[]]
  | c :: r =>
    if c = '\n' then [] :: newlineLines r
    else
      match newlineLines r with
      | [] => [[c]]
      | l :: ls => (c :: l) :: ls

def unifyNewlines : List Char → List Char
  | [] => []
  | '\r' :: '\n' :: r => '\n' :: unifyNewlines r
  | c :: r => (if c = '\r' then '\n' else c) :: unifyNewlines r

def isLineBreak (c : Char) : Bool :=
  c == '\n' || c == '\r' || c == '\x0b' || c == '\x0c' || c == '\x1c' || c == '\x1d' ||
    c == '\x1e' || c == '\u0085' || c == '\u2028' || c == '\u2029'

/-- The lines as displayed. A break at the very end opens no further line. -/
def displayLines : List Char → List (List Char)
  | [] => []
  | '\r' :: '\n' :: r => [] :: displayLines r
  | c :: r =>
    if isLineBreak c then [] :: displayLines r
    else
      match displayLines r with
      | [] => [[c]]
      | l :: ls => (c :: l) :: ls

end GroupLint.Text
