/-!
Values by key, in the order in which the keys first came.
-/
namespace GroupLint

abbrev Entries (α : Type) := List (String × α)

namespace Entries

def get? (t : Entries α) (key : String) : Option α := t.lookup key

def keys (t : Entries α) : List String := t.map (·.1)

/-- A key that is present keeps its place and takes the new value; another goes to the end. -/
def insert (t : Entries α) (key : String) (v : α) : Entries α :=
  match t with
  | [] => [(key, v)]
  | (k, w) :: r => if k = key then (k, v) :: r else (k, w) :: insert r key v

end Entries
end GroupLint
