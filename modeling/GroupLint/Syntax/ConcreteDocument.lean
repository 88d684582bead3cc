import GroupLint.Syntax.Concrete
import GroupLint.Value.Basic

/-!
Concrete trees as data documents, the form in which a grammar hands them over: an object per node
with its kind `t`, whether it is named `n`, its field `f`, its extent `s` (start, stop, row, column),
the flags `e` (has an error) and `m` (is missing), and its children `c`.
-/
namespace GroupLint

def Extent.ofItems : List Value → Extent
  | [.int start, .int stop, .int row, .int column] => ⟨start, stop, row, column⟩
  | _ => ⟨0, 0, 0, 0⟩

namespace Concrete

def flag (default : Bool) : Option Value → Bool
  | some (.bool b) => b
  | _ => default

def textOf : Option Value → Option String
  | some (.text s) => some s
  | _ => none

def itemsOf : Option Value → List Value
  | some (.list items) => items
  | _ => []

def ofEntries (t : Table) (children : List Concrete) : Concrete :=
  .mk ((textOf (t.get? "t")).getD "") (flag true (t.get? "n")) (textOf (t.get? "f"))
    (Extent.ofItems (itemsOf (t.get? "s"))) (flag false (t.get? "e")) (flag false (t.get? "m")) children

mutual

/-- The tree a document describes; a part that is no object reads as a node without a kind. -/
def ofValue : Value → Concrete
  | .table entries => ofEntries entries (childrenOf entries)
  | _ => ofEntries [] []

def childrenOf : List (String × Value) → List Concrete
  | [] => []
  | (key, v) :: r => if key == "c" then listOf v else childrenOf r

def listOf : Value → List Concrete
  | .list items => ofItems items
  | _ => []

def ofItems : List Value → List Concrete
  | [] => []
  | v :: r => ofValue v :: ofItems r

end

end Concrete
end GroupLint
