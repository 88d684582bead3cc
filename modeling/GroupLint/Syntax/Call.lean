import GroupLint.Syntax.Node
import GroupLint.Text.Quoted

/-!
A call site: a method call together with the block it opens, if any. Its receiver is slot 0 of the
call and its arguments are the later slots; the statements of the block follow the call in the
block node.
-/
namespace GroupLint

inductive CallFault where
  | blockWithoutCall (kind : String)
  | notACall (kind : String)
deriving DecidableEq, Repr

def CallFault.message : CallFault → String
  | .blockWithoutCall kind => "block node without a call: " ++ kind
  | .notACall kind => "not a call-site node: " ++ kind

structure Call where
  send : Node
  block : Option Node
deriving Repr, Inhabited

namespace Call

/-- A call is a call site, and so is a block whose first slot holds a call. -/
def ofNode (n : Node) : Except CallFault Call :=
  if n.kind == "block" then
    match n.children with
    | some send :: _ => if send.isCall then .ok ⟨send, some n⟩ else .error (.blockWithoutCall n.kind)
    | _ => .error (.blockWithoutCall n.kind)
  else if n.isCall then .ok ⟨n, none⟩
  else .error (.notACall n.kind)

def node (c : Call) : Node := c.block.getD c.send

def receiver (c : Call) : Slot := c.send.children.head?.join

def name (c : Call) : String := c.send.value.getD ""

def arguments (c : Call) : List Node := (c.send.children.drop 1).filterMap id

def firstArgument (c : Call) : Slot := c.arguments.head?

def lastArgument (c : Call) : Slot := c.arguments.getLast?

def body (c : Call) : Option (List Node) := c.block.map fun b => (b.children.drop 1).filterMap id

def summary (c : Call) : String :=
  "CallSite(" ++ Text.quoted c.name ++ ", args=" ++ toString c.arguments.length ++ ", block=" ++
    (if c.block.isSome then "True" else "False") ++ ")"

end Call
end GroupLint
