import GroupLint.Syntax.Span

/-!
The tree that rules look at. A node has a kind, maybe a value, and child slots, any of which may
be empty. Two nodes are alike when they differ at most in their spans.
-/
namespace GroupLint

inductive Node where
  | mk (kind : String) (value : Option String) (span : Span) (children : List (Option Node))
deriving Repr, Inhabited

/-- A place for a node, which may be empty. -/
abbrev Slot := Option Node

namespace Node

def kind : Node → String | mk k _ _ _ => k
def value : Node → Option String | mk _ v _ _ => v
def span : Node → Span | mk _ _ s _ => s
def children : Node → List Slot | mk _ _ _ cs => cs

def childNodes (n : Node) : List Node := n.children.filterMap id

def isCallKind (kind : String) : Bool := kind == "send" || kind == "csend"

def isCall (n : Node) : Bool := isCallKind n.kind

mutual

/-- Equal but for spans. -/
def alike : Node → Node → Bool
  | mk k v _ cs, mk k' v' _ cs' => k == k' && v == v' && slotsAlike cs cs'

def slotsAlike : List Slot → List Slot → Bool
  | [], [] => true
  | none :: r, none :: r' => slotsAlike r r'
  | some n :: r, some n' :: r' => alike n n' && slotsAlike r r'
  | _, _ => false

end

def slotAlike : Slot → Slot → Bool
  | none, none => true
  | some n, some n' => alike n n'
  | _, _ => false

end Node
end GroupLint
