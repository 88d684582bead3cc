import GroupLint.Fault
import GroupLint.Value.Basic
import GroupLint.Vocabulary

/-!
The metadata that exempts a group: a table from keys to the values ignored under them. Keys and
values are compared as texts without one leading colon, so that `":request"` names a symbol too.
-/
namespace GroupLint

/-- A text longer than its colon loses it. -/
def normalizeSymbol (s : String) : String :=
  match s.toList with
  | ':' :: c :: r => String.ofList (c :: r)
  | _ => s

structure IgnoredMetadata where
  entries : Entries (List String)
deriving DecidableEq, Repr, Inhabited

namespace IgnoredMetadata

/-- The values an entry lists; a scalar is a list of one. Null and tables list nothing. -/
def listed : Value → Option (List Value)
  | .list items => some items
  | .null | .moment _ | .table _ => none
  | scalar => some [scalar]

def addEntry (acc : Entries (List String)) (e : String × Value) : Entries (List String) :=
  match listed e.2 with
  | some vs => acc.insert (normalizeSymbol e.1) (vs.map fun v => normalizeSymbol v.shown)
  | none => acc

def ofTable (t : Table) : IgnoredMetadata := ⟨t.foldl addEntry []⟩

def tableNotices (t : Table) : List Notice :=
  (t.filter fun e => (listed e.2).isNone).map fun e => .metadataEntrySkipped e.1

def standard : IgnoredMetadata := ⟨[("type", ["request", "controller"])]⟩

/-- An option that is not set gives the standard table, and one that is no table ignores
nothing. -/
def ofValue : Option Value → IgnoredMetadata
  | none | some .null => standard
  | some (.table t) => ofTable t
  | _ => ⟨[]⟩

def notices : Option Value → List Notice
  | none | some .null => []
  | some (.table t) => tableNotices t
  | some v => [.metadataNotTable v.sortName]

def get? (m : IgnoredMetadata) (key : String) : Option (List String) := m.entries.get? key

def keys (m : IgnoredMetadata) : List String := m.entries.keys

def allows (m : IgnoredMetadata) (key value : String) : Bool :=
  ((m.get? key).getD []).contains value

def sorted (m : IgnoredMetadata) : List (String × List String) :=
  m.entries.map fun (k, vs) => (k, sortedNames vs)

def summary (m : IgnoredMetadata) : String :=
  "IgnoredMetadataTable(" ++
    (Value.table (m.sorted.map fun (k, vs) => (k, Value.list (vs.map Value.text)))).innerText ++ ")"

def symbolPair : Pattern := .shape ["pair"] .any [.capture (.kind ["sym"]), .capture (.kind ["sym"])]

def symbolText (n : Node) : String := normalizeSymbol (n.value.getD "None")

def ignoresPair (m : IgnoredMetadata) (s : Slot) : Bool :=
  match symbolPair.match? s with
  | .ok (some [some key, some value]) => m.allows (symbolText key) (symbolText value)
  | _ => false

end IgnoredMetadata
end GroupLint
