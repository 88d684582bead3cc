import GroupLint.Entries
import GroupLint.Number.Shortest
import GroupLint.Text.Quoted

/-!
Dynamic values: what a settings file or a data document holds. A table keeps its entries in the
order in which their keys first came.
-/
namespace GroupLint

/-- A date, a time or both: what its sort is called, and its text on its own and inside another
value. -/
structure Moment where
  sort : String
  shown : String
  inner : String
deriving DecidableEq, Repr, Inhabited

inductive Value where
  | null
  | bool (b : Bool)
  | int (i : Int)
  | real (x : Binary64)
  | text (s : String)
  | moment (m : Moment)
  | list (items : List Value)
  | table (entries : List (String × Value))
deriving Repr, Inhabited

abbrev Table := Entries Value

def Table.update (t new : Table) : Table := new.foldl (fun acc e => acc.insert e.1 e.2) t

namespace Value

def table? : Value → Option Table
  | .table t => some t
  | _ => none

/-- Null, false, zero and every empty value count as absent where a default stands by. -/
def isTruthy : Value → Bool
  | .null => false
  | .bool b => b
  | .int i => i != 0
  | .real x => !x.isZero
  | .text s => s != ""
  | .moment _ => true
  | .list items => !items.isEmpty
  | .table entries => !entries.isEmpty

def sortName : Value → String
  | .null => "null"
  | .bool _ => "bool"
  | .int _ => "int"
  | .real _ => "float"
  | .text _ => "str"
  | .moment m => m.sort
  | .list _ => "list"
  | .table _ => "table"

def scalarText : Value → String
  | .null => "None"
  | .bool true => "True"
  | .bool false => "False"
  | .int i => toString i
  | .real x => x.write Binary64.shown
  | .text s => Text.quoted s
  | .moment m => m.inner
  | _ => ""

mutual

def innerText : Value → String
  | .list items => "[" ++ ", ".intercalate (itemTexts items) ++ "]"
  | .table entries => "\x7b" ++ ", ".intercalate (entryTexts entries) ++ "\x7d"
  | .null => scalarText .null
  | .bool b => scalarText (.bool b)
  | .int i => scalarText (.int i)
  | .real x => scalarText (.real x)
  | .text s => scalarText (.text s)
  | .moment m => scalarText (.moment m)

def itemTexts : List Value → List String
  | [] => []
  | v :: r => innerText v :: itemTexts r

def entryTexts : List (String × Value) → List String
  | [] => []
  | (k, v) :: r => (Text.quoted k ++ ": " ++ innerText v) :: entryTexts r

end

def shown : Value → String
  | .text s => s
  | .moment m => m.shown
  | v => innerText v

end Value
end GroupLint
