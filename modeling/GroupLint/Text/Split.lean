/-!
Texts cut at a separator.
-/
namespace GroupLint.Text

/-- The pieces around the first `limit` occurrences of a separator, `skip` characters of one already
being taken. -/
def splitFrom (separator : List Char) : Nat → Nat → List Char → List (List Char)
  | _, _, [] => [[]]
  | skip + 1, limit, _ :: r => splitFrom separator skip limit r
  | 0, limit, c :: r =>
    if limit != 0 && separator.isPrefixOf (c :: r) then
      [] :: splitFrom separator (separator.length - 1) (limit - 1) r
    else
      match splitFrom separator 0 limit r with
      | [] => [[c]]
      | piece :: pieces => (c :: piece) :: pieces

def splitUpTo (limit : Nat) (separator cs : List Char) : List (List Char) := splitFrom separator 0 limit cs

def split (separator cs : List Char) : List (List Char) := splitUpTo cs.length separator cs

def occurrences (separator cs : List Char) : Nat := (split separator cs).length - 1

def occurs (part cs : List Char) : Bool := 0 < occurrences part cs

def join (separator : List Char) : List (List Char) → List Char
  | [] => []
  | [piece] => piece
  | piece :: pieces => piece ++ separator ++ join separator pieces

end GroupLint.Text
