import GroupLint.Proofs.Walk

/-! The top-level groups of a tree, found without a list of enclosing calls: the block of a spec group
is never entered, and every other node is transparent. -/
namespace GroupLint
open Node

namespace Vocabulary

mutual

/-- The example groups at and below a node that no block of a spec group hides. -/
def outermost (v : Vocabulary) : Node → List Call
  | .mk kind value span children =>
    if kind = "block" then
      match children with
      | some (.mk k u s args) :: body =>
        let c : Call := ⟨.mk k u s args, some (.mk kind value span children)⟩
        if v.isSpecGroup c then (if v.isExampleGroup c then [c] else []) ++ outermostIn v args
        else outermostIn v args ++ outermostIn v body
      | _ => []
    else if isCallKind kind then
      let c : Call := ⟨.mk kind value span children, none⟩
      (if v.isExampleGroup c then [c] else []) ++ outermostIn v children
    else outermostIn v children

def outermostIn (v : Vocabulary) : List Slot → List Call
  | [] => []
  | none :: r => outermostIn v r
  | some n :: r => outermost v n ++ outermostIn v r

end

def outermostOf (v : Vocabulary) : Slot → List Call
  | none => []
  | some n => v.outermost n

variable (v : Vocabulary)

theorem outermost_block {b send : Node} (hb : b.kind = "block") (hs : b.slot 0 = some send) :
    v.outermost b =
      if v.isSpecGroup ⟨send, some b⟩ then
        (if v.isExampleGroup ⟨send, some b⟩ then [⟨send, some b⟩] else []) ++
          v.outermostIn send.children
      else v.outermostIn send.children ++ v.outermostIn b.children.tail := by
  obtain ⟨k, u, s, cs⟩ := b
  obtain ⟨k', u', s', args⟩ := send
  obtain rfl : k = "block" := hb
  match cs with
  | [] => simp [slot] at hs
  | c :: body =>
    obtain rfl : c = some (.mk k' u' s' args) := by simpa [slot] using hs
    simp [outermost]

theorem outermost_call {n : Node} (h : n.isCall) :
    v.outermost n =
      (if v.isExampleGroup ⟨n, none⟩ then [⟨n, none⟩] else []) ++ v.outermostIn n.children := by
  obtain ⟨k, u, s, cs⟩ := n
  have hb : k ≠ "block" := not_block_of_isCall h
  have hc : isCallKind k := h
  rw [outermost.eq_def]
  simp [hb, hc]

theorem outermost_other {n : Node} (hb : n.kind ≠ "block") (hc : ¬ n.isCall) :
    v.outermost n = v.outermostIn n.children := by
  obtain ⟨k, u, s, cs⟩ := n
  have hb : k ≠ "block" := hb
  have hc : ¬ isCallKind k := hc
  rw [outermost.eq_def]
  simp [hb, hc]

theorem topLevelGroups_andThen {a : Walk} (h : a.fault = none) (b : Walk) :
    v.topLevelGroups (a.andThen b) = v.topLevelGroups a ++ v.topLevelGroups b := by
  simp [Walk.andThen, h, topLevelGroups]

theorem topLevelGroups_visit (c : Call) (enclosing : List Call) :
    v.topLevelGroups ⟨[⟨c, enclosing⟩], none⟩ =
      if v.isTopLevel enclosing then (if v.isExampleGroup c then [c] else []) else [] := by
  by_cases ht : v.isTopLevel enclosing <;> by_cases he : v.isExampleGroup c <;>
    simp [topLevelGroups, ht, he]

theorem isTopLevel_append (enclosing : List Call) (c : Call) :
    v.isTopLevel (enclosing ++ [c]) = (v.isTopLevel enclosing && !v.isSpecGroup c) := by
  simp [isTopLevel]

end Vocabulary

namespace Walk

theorem ofNode_fault {n : Node} (h : BlocksOpenCalls (some n)) (enclosing : List Call) :
    (ofNode enclosing n).fault = none := by
  have hstray : n.positions.any (strayAt (some n)) = false := by
    rw [List.any_eq_false]
    intro p _ hp
    exact blocksOpenCalls_iff.mp h p (strayAt_iff.mp hp)
  rw [ofNode_eq_scan, scan_fault, hstray]
  rfl

theorem ofSlots_fault {cs : List Slot} (h : ∀ s ∈ cs, BlocksOpenCalls s) (enclosing : List Call) :
    (ofSlots enclosing cs).fault = none := by
  induction cs with
  | nil => rfl
  | cons s r ih =>
    obtain ⟨hs, hr⟩ := List.forall_mem_cons.mp h
    cases s with
    | none => exact ih hr
    | some n => simp [ofSlots, andThen, ofNode_fault hs, ih hr]

end Walk

namespace Vocabulary
open Walk

variable (v : Vocabulary)

section Block
variable {b send : Node} (hb : b.kind = "block") (hs : b.slot 0 = some send) (hc : send.isCall)
  (h : BlocksOpenCalls (some b))
include hs h

theorem blocksOpenCalls_arguments : ∀ s ∈ send.children, BlocksOpenCalls s := by
  have hsend : some send ∈ b.children := List.mem_of_getElem? (slot_eq_some_iff.mp hs)
  exact (everywhere_some_iff.mp ((everywhere_some_iff.mp h).2 _ hsend)).2

omit hs in
theorem blocksOpenCalls_statements : ∀ s ∈ b.children.tail, BlocksOpenCalls s :=
  fun s hs => (everywhere_some_iff.mp h).2 s (List.mem_of_mem_tail hs)

include hb hc

theorem topLevelGroups_block {enclosing : List Call}
    (iha : v.topLevelGroups (ofSlots enclosing send.children) =
      if v.isTopLevel enclosing then v.outermostIn send.children else [])
    (ihb : ∀ inner, v.topLevelGroups (ofSlots inner b.children.tail) =
      if v.isTopLevel inner then v.outermostIn b.children.tail else []) :
    v.topLevelGroups (ofNode enclosing b) =
      if v.isTopLevel enclosing then v.outermost b else [] := by
  have hargs := ofSlots_fault (blocksOpenCalls_arguments hs h) enclosing
  rw [ofNode_block hb hs hc, topLevelGroups_andThen v rfl, topLevelGroups_andThen v hargs,
    topLevelGroups_visit, iha, ihb, isTopLevel_append, outermost_block v hb hs]
  -- Outside a spec group nothing changes; inside one the whole body drops out.
  by_cases ht : v.isTopLevel enclosing
  · by_cases hg : v.isSpecGroup ⟨send, some b⟩
    · simp [ht, hg]
    · have he : v.isExampleGroup ⟨send, some b⟩ = false := by
        simp only [isSpecGroup, Bool.or_eq_true, not_or] at hg
        simpa using hg.1
      simp [ht, hg, he]
  · simp [ht]

end Block

theorem topLevelGroups_plain {n : Node} (hb : n.kind ≠ "block") {enclosing : List Call}
    (ih : v.topLevelGroups (ofSlots enclosing n.children) =
      if v.isTopLevel enclosing then v.outermostIn n.children else []) :
    v.topLevelGroups (ofNode enclosing n) =
      if v.isTopLevel enclosing then v.outermost n else [] := by
  by_cases hc : n.isCall
  · rw [ofNode_call hc, topLevelGroups_andThen v rfl, topLevelGroups_visit, ih, outermost_call v hc]
    split <;> simp
  · rw [ofNode_other hb hc, ih, outermost_other v hb hc]

mutual

theorem topLevelGroups_ofNode (enclosing : List Call) : ∀ n : Node, BlocksOpenCalls (some n) →
    v.topLevelGroups (ofNode enclosing n) = if v.isTopLevel enclosing then v.outermost n else []
  | .mk kind value span children, h => by
    have hn := everywhere_some_iff.mp h
    by_cases hb : kind = "block"
    · subst hb
      match children with
      | [] => simp [slot] at hn
      | none :: _ => simp [slot] at hn
      | some (.mk k u s args) :: body =>
        have hc : (Node.mk k u s args).isCall := hn.1 rfl
        have hargs : ∀ t ∈ (Node.mk k u s args).children, BlocksOpenCalls t :=
          blocksOpenCalls_arguments rfl h
        exact topLevelGroups_block v rfl rfl hc h (topLevelGroups_ofSlots enclosing args hargs)
          (fun inner => topLevelGroups_ofSlots inner body (blocksOpenCalls_statements h))
    · exact topLevelGroups_plain v (n := .mk kind value span children) hb
        (topLevelGroups_ofSlots enclosing children hn.2)

theorem topLevelGroups_ofSlots (enclosing : List Call) : ∀ cs : List Slot,
    (∀ s ∈ cs, BlocksOpenCalls s) →
    v.topLevelGroups (ofSlots enclosing cs) =
      if v.isTopLevel enclosing then v.outermostIn cs else []
  | [], _ => by simp [ofSlots, outermostIn, topLevelGroups]
  | none :: r, h => by
    rw [ofSlots, outermostIn]
    exact topLevelGroups_ofSlots enclosing r (List.forall_mem_cons.mp h).2
  | some n :: r, h => by
    obtain ⟨hn, hr⟩ := List.forall_mem_cons.mp h
    rw [ofSlots, topLevelGroups_andThen v (ofNode_fault hn enclosing),
      topLevelGroups_ofNode enclosing n hn, topLevelGroups_ofSlots enclosing r hr, outermostIn]
    split <;> simp

end

/-- The walk with its enclosing calls finds the groups that the pruned search finds. -/
theorem groupsOf_eq_outermost (root : Slot) (h : BlocksOpenCalls root) :
    v.groupsOf root = .ok (v.outermostOf root) := by
  cases root with
  | none => rfl
  | some n =>
    have hg := topLevelGroups_ofNode v [] n h
    have hf := ofNode_fault h []
    simp [groupsOf, ofRoot, hf, hg, outermostOf, isTopLevel]

/-- A group beside a shared group, in the block of a call that is no group, with another group among
its arguments and one in its block. -/
def nestedGroups : Node :=
  let call (name : String) (args : List Slot) : Node := .mk "send" (some name) ⟨0, 0, 1, 0⟩ (none :: args)
  let block (c : Node) (body : List Node) : Node := .mk "block" none ⟨0, 0, 1, 0⟩ ((c :: body).map some)
  .mk "program" none ⟨0, 0, 1, 0⟩
    [some (block (call "shared_examples" []) [call "describe" []]),
     some (block (call "configure" [])
       [block (call "describe" [some (call "context" [])]) [call "feature" []]])]

theorem groupsOf_nestedGroups :
    BlocksOpenCalls (some nestedGroups) ∧
      (standard.groupsOf (some nestedGroups)).toOption.map (·.map (·.name)) =
        some ["describe", "context"] := by
  have h : BlocksOpenCalls (some nestedGroups) := by decide
  refine ⟨h, ?_⟩
  rw [groupsOf_eq_outermost standard _ h]
  decide

end Vocabulary
end GroupLint
