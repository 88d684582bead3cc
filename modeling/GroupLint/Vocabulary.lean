import GroupLint.Fault
import GroupLint.Value.Basic

/-!
The method names that open example groups and shared groups, and the calls that use them. A group
call has no receiver or the constant `RSpec`, bare or from the root.
-/
namespace GroupLint

def sortedNames (names : List String) : List String :=
  names.eraseDups.mergeSort fun a b => !(b < a)

structure Vocabulary where
  exampleGroups : List String
  sharedGroups : List String
deriving DecidableEq, Repr, Inhabited

namespace Vocabulary

def defaultExampleGroups : List String :=
  ["describe", "context", "feature", "example_group", "xdescribe", "xcontext", "xfeature",
   "fdescribe", "fcontext", "ffeature"]

def defaultSharedGroups : List String := ["shared_examples", "shared_examples_for", "shared_context"]

def standard : Vocabulary := ⟨defaultExampleGroups, defaultSharedGroups⟩

def sameNames (v w : Vocabulary) : Bool :=
  sortedNames v.exampleGroups == sortedNames w.exampleGroups &&
    sortedNames v.sharedGroups == sortedNames w.sharedGroups

/-- The names an option gives: a single text is one name, and an empty list turns the family off.
An absent option, and one that is no list, leaves the default. -/
def names (default : List String) : Option Value → List String
  | some (.text s) => [s]
  | some (.list items) => items.map Value.shown
  | _ => default

def namesNotices (option : String) : Option Value → List Notice
  | none | some .null | some (.text _) | some (.list _) => []
  | _ => [.namesExpected option]

def ofTable (t : Table) : Vocabulary :=
  ⟨names defaultExampleGroups (t.get? "ExampleGroups"), names defaultSharedGroups (t.get? "SharedGroups")⟩

def notices (t : Table) : List Notice :=
  namesNotices "ExampleGroups" (t.get? "ExampleGroups") ++
    namesNotices "SharedGroups" (t.get? "SharedGroups")

def section? (v : Value) : Except Fault Table :=
  if v.isTruthy then
    match v with
    | .table t => .ok t
    | _ => .error .notTable
  else .ok []

def ofSection (v : Value) : Run Vocabulary := do
  let t ← ExceptT.mk (pure (section? v))
  Run.tell (notices t)
  return ofTable t

def rspecReceiver : Pattern :=
  .anyOf [.empty, .shape ["const"] (.value (some "RSpec")) [.anyOf [.empty, .kind ["cbase"]]]]

def isRspecReceiver (s : Slot) : Bool := rspecReceiver.fits s

def isExampleGroup (v : Vocabulary) (c : Call) : Bool :=
  v.exampleGroups.contains c.name && isRspecReceiver c.receiver

def isSharedGroup (v : Vocabulary) (c : Call) : Bool :=
  v.sharedGroups.contains c.name && isRspecReceiver c.receiver

def isSpecGroup (v : Vocabulary) (c : Call) : Bool := v.isExampleGroup c || v.isSharedGroup c

end Vocabulary

end GroupLint
