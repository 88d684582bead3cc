import GroupLint.Vocabulary

/-!
Call sites of a tree, each with the calls whose blocks enclose it. Receiver and arguments of a call
are outside its block. A walk ends at a block without a call; what came before it counts.
-/
namespace GroupLint

structure Visit where
  call : Call
  /-- The calls whose blocks enclose this one, outermost first. -/
  enclosing : List Call
deriving Inhabited

structure Walk where
  visits : List Visit
  fault : Option CallFault
deriving Inhabited

namespace Walk

def andThen (a b : Walk) : Walk :=
  match a.fault with
  | some _ => a
  | none => ⟨a.visits ++ b.visits, b.fault⟩

mutual

def ofNode (enclosing : List Call) : Node → Walk
  | .mk kind value span children =>
    if kind == "block" then
      match children with
      | some (.mk k v s args) :: body =>
        if Node.isCallKind k then
          let call : Call := ⟨.mk k v s args, some (.mk kind value span children)⟩
          (Walk.mk [⟨call, enclosing⟩] none).andThen
            ((ofSlots enclosing args).andThen (ofSlots (enclosing ++ [call]) body))
        else ⟨[], some (.blockWithoutCall kind)⟩
      | _ => ⟨[], some (.blockWithoutCall kind)⟩
    else if Node.isCallKind kind then
      (Walk.mk [⟨⟨.mk kind value span children, none⟩, enclosing⟩] none).andThen
        (ofSlots enclosing children)
    else ofSlots enclosing children

def ofSlots (enclosing : List Call) : List Slot → Walk
  | [] => ⟨[], none⟩
  | none :: r => ofSlots enclosing r
  | some n :: r => (ofNode enclosing n).andThen (ofSlots enclosing r)

end

def ofRoot : Slot → Walk
  | none => ⟨[], none⟩
  | some n => ofNode [] n

end Walk

namespace Vocabulary

def isTopLevel (v : Vocabulary) (enclosing : List Call) : Bool := !enclosing.any v.isSpecGroup

/-- The example groups that no other group encloses, as far as the walk got. -/
def topLevelGroups (v : Vocabulary) (w : Walk) : List Call :=
  (w.visits.filter fun x => v.isExampleGroup x.call && v.isTopLevel x.enclosing).map (·.call)

def groupsOf (v : Vocabulary) (root : Slot) : Except Fault (List Call) :=
  let w := Walk.ofRoot root
  match w.fault with
  | some f => .error (.call f)
  | none => .ok (v.topLevelGroups w)

end Vocabulary
end GroupLint
