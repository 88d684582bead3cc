import GroupLint.Groups
import GroupLint.Proofs.Position

/-! The walk over a tree, told by positions: it visits the calls in pre-order, each once, up to the
first block that opens no call. The calls that enclose a visit are those of the blocks that its
position leaves through a later slot than the first. -/
namespace GroupLint
open Node

namespace Node

def isStray (n : Node) : Bool := n.kind == "block" && !(n.slot 0).any isCall

def opener (n : Node) : Option Call := if n.kind = "block" then (Call.ofNode n).toOption else none

end Node

def IsCallAt (root : Slot) (p : Position) : Prop := ∃ n, slotAt root p = some n ∧ n.isCall

def IsStrayAt (root : Slot) (p : Position) : Prop := ∃ n, slotAt root p = some n ∧ n.isStray

def BlocksOpenCalls (s : Slot) : Prop := Everywhere (fun n => n.kind = "block" → (n.slot 0).any isCall) s

instance (s : Slot) : Decidable (BlocksOpenCalls s) := inferInstanceAs (Decidable (Everywhere _ s))

theorem not_isStray_iff {n : Node} :
    ¬ n.isStray ↔ (n.kind = "block" → (n.slot 0).any isCall) := by
  simp [isStray]

theorem blocksOpenCalls_iff {s : Slot} : BlocksOpenCalls s ↔ ∀ p, ¬ IsStrayAt s p := by
  simp only [BlocksOpenCalls, Everywhere, IsStrayAt, ← not_isStray_iff, not_exists, not_and]

/-- The block that a position is the first slot of. -/
def blockOver (root : Slot) (p : Position) : Slot :=
  if p.getLast? = some 0 then (slotAt root p.dropLast).filter (·.kind == "block") else none

/-- The calls of the blocks that a position leaves through a later slot than the first, outermost
first. -/
def enclosingAt : Slot → Position → List Call
  | some n, i :: p => (if i = 0 then [] else n.opener.toList) ++ enclosingAt (n.slot i) p
  | _, _ => []

/-- What the walk shows at a position, if it gets there with some calls already around it. -/
def visitAt (enclosing : List Call) (s : Slot) (p : Position) : Option Visit :=
  ((slotAt s p).filter isCall).map fun n => ⟨⟨n, blockOver s p⟩, enclosing ++ enclosingAt s p⟩

def strayAt (s : Slot) (p : Position) : Bool := (slotAt s p).any isStray

theorem strayAt_cons (n : Node) (i : Nat) (p : Position) :
    strayAt (some n) (i :: p) = strayAt (n.slot i) p := rfl

theorem not_block_of_isCall {n : Node} (h : n.isCall) : n.kind ≠ "block" := by
  intro hk
  simp [isCall, isCallKind, hk] at h

theorem opener_of_not_block {n : Node} (h : n.kind ≠ "block") : n.opener = none := if_neg h

@[simp] theorem blockOver_nil (s : Slot) : blockOver s [] = none := rfl

@[simp] theorem blockOver_singleton (n : Node) (i : Nat) :
    blockOver (some n) [i] = if i = 0 ∧ n.kind = "block" then some n else none := by
  by_cases hi : i = 0 <;> by_cases hn : n.kind = "block" <;> simp [blockOver, hi, hn]

@[simp] theorem blockOver_cons_cons (n : Node) (i j : Nat) (p : Position) :
    blockOver (some n) (i :: j :: p) = blockOver (n.slot i) (j :: p) := rfl

theorem blockOver_of_not_first {n : Node} {i : Nat} (h : ¬ (i = 0 ∧ n.kind = "block"))
    (p : Position) : blockOver (some n) (i :: p) = blockOver (n.slot i) p := by
  cases p with
  | nil => simp only [blockOver_singleton, if_neg h, blockOver_nil]
  | cons j p => rfl

theorem visitAt_cons {n : Node} (h : n.kind ≠ "block") (enclosing : List Call) (i : Nat)
    (p : Position) : visitAt enclosing (some n) (i :: p) = visitAt enclosing (n.slot i) p := by
  have hb := blockOver_of_not_first (n := n) (i := i) (fun hn => h hn.2) p
  simp [visitAt, enclosingAt, hb, opener_of_not_block h]

section Block
variable {b send : Node} (hb : b.kind = "block") (hs : b.slot 0 = some send) (hc : send.isCall)
include hb hs hc

theorem opener_of_block : b.opener = some ⟨send, some b⟩ := by
  obtain ⟨k, v, s, _ | ⟨c, cs⟩⟩ := b
  · simp [slot, children] at hs
  · obtain rfl : c = some send := by simpa [slot, children] using hs
    simp [opener, Call.ofNode, hb, children, hc, Except.toOption]

theorem visitAt_send (enclosing : List Call) :
    visitAt enclosing (some b) [0] = some ⟨⟨send, some b⟩, enclosing⟩ := by
  simp [visitAt, enclosingAt, hb, hs, hc]

omit hb in
theorem visitAt_argument (enclosing : List Call) (i : Nat) (p : Position) :
    visitAt enclosing (some b) (0 :: i :: p) = visitAt enclosing (send.slot i) p := by
  rw [← visitAt_cons (not_block_of_isCall hc)]
  simp [visitAt, enclosingAt, hs]

theorem visitAt_statement (enclosing : List Call) (i : Nat) (p : Position) :
    visitAt enclosing (some b) ((i + 1) :: p) =
      visitAt (enclosing ++ [⟨send, some b⟩]) (b.slot (i + 1)) p := by
  have hf := blockOver_of_not_first (n := b) (i := i + 1) (by simp) p
  simp [visitAt, enclosingAt, hf, opener_of_block hb hs hc]

end Block

namespace Walk

@[simp] theorem nothing_andThen (w : Walk) : (Walk.mk [] none).andThen w = w := by
  cases w
  rfl

theorem andThen_assoc (a b c : Walk) : (a.andThen b).andThen c = a.andThen (b.andThen c) := by
  obtain ⟨va, _ | fa⟩ := a
  · obtain ⟨vb, _ | fb⟩ := b <;> simp [andThen]
  · rfl

def scan (stray : Position → Bool) (visit : Position → Option Visit) : List Position → Walk
  | [] => ⟨[], none⟩
  | p :: ps =>
    if stray p then ⟨[], some (.blockWithoutCall "block")⟩
    else (Walk.mk (visit p).toList none).andThen (scan stray visit ps)

section Scan
variable {stray : Position → Bool} {visit : Position → Option Visit}

theorem scan_append (ps qs : List Position) :
    scan stray visit (ps ++ qs) = (scan stray visit ps).andThen (scan stray visit qs) := by
  induction ps with
  | nil => simp [scan]
  | cons p ps ih =>
    simp only [List.cons_append, scan]
    split
    · rfl
    · rw [ih, andThen_assoc]

theorem scan_map {stray' : Position → Bool} {visit' : Position → Option Visit}
    (f : Position → Position) (ps : List Position) (hs : ∀ p, stray (f p) = stray' p)
    (hv : ∀ p, visit (f p) = visit' p) :
    scan stray visit (ps.map f) = scan stray' visit' ps := by
  induction ps with
  | nil => rfl
  | cons p ps ih => simp only [List.map_cons, scan, hs, hv, ih]

theorem scan_visits (ps : List Position) :
    (scan stray visit ps).visits = (ps.takeWhile fun p => !stray p).filterMap visit := by
  induction ps with
  | nil => rfl
  | cons p ps ih =>
    simp only [scan]
    split
    · next h => simp [h]
    · next h =>
      rw [List.takeWhile_cons_of_pos (by simpa using h)]
      cases hv : visit p <;> simp [andThen, ih, hv]

theorem scan_fault (ps : List Position) :
    (scan stray visit ps).fault = if ps.any stray then some (.blockWithoutCall "block") else none := by
  induction ps with
  | nil => rfl
  | cons p ps ih =>
    simp only [scan]
    split
    · next h => simp [h]
    · next h => simp [andThen, ih, h]

end Scan

def AgreeBelow (i : Nat) (cs : List Slot) (f : Position → α) (g : Slot → Position → α) : Prop :=
  ∀ j c p, cs[j]? = some (some c) → f ((i + j) :: p) = g (some c) p

theorem AgreeBelow.tail {i : Nat} {c : Slot} {cs : List Slot} {f : Position → α}
    {g : Slot → Position → α} (h : AgreeBelow i (c :: cs) f g) : AgreeBelow (i + 1) cs f g := by
  intro j d p hd
  have hj : i + 1 + j = i + (j + 1) := by omega
  rw [hj]
  exact h (j + 1) d p (by simpa using hd)

theorem ofNode_stray {n : Node} (h : n.isStray) (enclosing : List Call) :
    ofNode enclosing n = ⟨[], some (.blockWithoutCall "block")⟩ := by
  obtain ⟨k, v, s, cs⟩ := n
  obtain ⟨hk, hs⟩ : k = "block" ∧ ¬ ((Node.mk k v s cs).slot 0).any isCall := by
    simpa [isStray, kind] using h
  subst hk
  obtain _ | ⟨_ | ⟨k', v', s', args⟩, body⟩ := cs
  · rfl
  · rfl
  · have hc : ¬ isCallKind k' := by simpa [slot, children, isCall, kind] using hs
    simp [ofNode, hc]

theorem ofNode_block {b send : Node} (hb : b.kind = "block") (hs : b.slot 0 = some send)
    (hc : send.isCall) (enclosing : List Call) :
    ofNode enclosing b = (Walk.mk [⟨⟨send, some b⟩, enclosing⟩] none).andThen
      ((ofSlots enclosing send.children).andThen
        (ofSlots (enclosing ++ [⟨send, some b⟩]) b.children.tail)) := by
  obtain ⟨k, v, s, cs⟩ := b
  obtain ⟨k', v', s', args⟩ := send
  obtain rfl : k = "block" := hb
  have hk : isCallKind k' := hc
  match cs with
  | [] => simp [slot] at hs
  | c :: body =>
    obtain rfl : c = some (.mk k' v' s' args) := by simpa [slot] using hs
    simp [ofNode, hk]

theorem ofNode_call {n : Node} (h : n.isCall) (enclosing : List Call) :
    ofNode enclosing n =
      (Walk.mk [⟨⟨n, none⟩, enclosing⟩] none).andThen (ofSlots enclosing n.children) := by
  obtain ⟨k, v, s, cs⟩ := n
  have hb : k ≠ "block" := not_block_of_isCall h
  have hc : isCallKind k := h
  rw [ofNode.eq_def]
  simp [hb, hc, children]

theorem ofNode_other {n : Node} (hb : n.kind ≠ "block") (hc : ¬ n.isCall) (enclosing : List Call) :
    ofNode enclosing n = ofSlots enclosing n.children := by
  obtain ⟨k, v, s, cs⟩ := n
  have hb : k ≠ "block" := hb
  have hc : ¬ isCallKind k := hc
  rw [ofNode.eq_def]
  simp [hb, hc, children]

theorem agreeBelow_strayAt (n : Node) : AgreeBelow 0 n.children (strayAt (some n)) strayAt := by
  intro j c p hc
  rw [Nat.zero_add, strayAt_cons, slot_eq_some_iff.mpr hc]

theorem agreeBelow_visitAt {n : Node} (hb : n.kind ≠ "block") (enclosing : List Call) :
    AgreeBelow 0 n.children (visitAt enclosing (some n)) (visitAt enclosing) := by
  intro j c p hc
  rw [Nat.zero_add, visitAt_cons hb, slot_eq_some_iff.mpr hc]

theorem scan_of_stray {n : Node} (h : n.isStray) (enclosing : List Call) :
    ofNode enclosing n = scan (strayAt (some n)) (visitAt enclosing (some n)) n.positions := by
  have hroot : strayAt (some n) [] = true := by simp [strayAt, h]
  rw [ofNode_stray h, positions_eq, scan, hroot]
  rfl

theorem scan_of_plain {n : Node} (hb : n.kind ≠ "block") {enclosing : List Call}
    (ih : ofSlots enclosing n.children =
      scan (strayAt (some n)) (visitAt enclosing (some n)) (positionsFrom 0 n.children)) :
    ofNode enclosing n = scan (strayAt (some n)) (visitAt enclosing (some n)) n.positions := by
  have hroot : strayAt (some n) [] = false := by simp [strayAt, isStray, hb]
  rw [positions_eq, scan, hroot, ← ih]
  by_cases hc : n.isCall
  · rw [ofNode_call hc]
    simp [visitAt, enclosingAt, Option.filter_some, hc]
  · rw [ofNode_other hb hc]
    simp [visitAt, Option.filter_some, hc]

theorem positions_block {b send : Node} (hs : b.slot 0 = some send) :
    b.positions = [] :: [0] :: ((positionsFrom 0 send.children).map (0 :: ·) ++
      positionsFrom 1 b.children.tail) := by
  obtain ⟨k, v, s, cs⟩ := b
  match cs with
  | [] => simp [slot] at hs
  | c :: body =>
    obtain rfl : c = some send := by simpa [slot] using hs
    simp [positions, positionsFrom, positions_eq send]

theorem scan_of_block {b send : Node} (hb : b.kind = "block") (hs : b.slot 0 = some send)
    (hc : send.isCall) {enclosing : List Call}
    (iha : ∀ stray visit, AgreeBelow 0 send.children stray strayAt →
      AgreeBelow 0 send.children visit (visitAt enclosing) →
      ofSlots enclosing send.children = scan stray visit (positionsFrom 0 send.children))
    (ihb : ∀ inner stray visit, AgreeBelow 1 b.children.tail stray strayAt →
      AgreeBelow 1 b.children.tail visit (visitAt inner) →
      ofSlots inner b.children.tail = scan stray visit (positionsFrom 1 b.children.tail)) :
    ofNode enclosing b = scan (strayAt (some b)) (visitAt enclosing (some b)) b.positions := by
  have hroot : strayAt (some b) [] = false := by simp [strayAt, isStray, hs, hc]
  have hsend : strayAt (some b) [0] = false := by
    simp [strayAt, hs, isStray, not_block_of_isCall hc]
  have hnone : visitAt enclosing (some b) [] = none := by
    simp [visitAt, isCall, isCallKind, hb]
  have hargs : ofSlots enclosing send.children = scan (strayAt (some b)) (visitAt enclosing (some b))
      ((positionsFrom 0 send.children).map (0 :: ·)) := by
    rw [scan_map (0 :: ·) _ (fun _ => rfl) (fun _ => rfl)]
    apply iha
    · intro j c p hj
      change strayAt (b.slot 0) ((0 + j) :: p) = _
      rw [hs, agreeBelow_strayAt send j c p hj]
    · intro j c p hj
      change visitAt enclosing (some b) (0 :: (0 + j) :: p) = _
      rw [visitAt_argument hs hc, Nat.zero_add, slot_eq_some_iff.mpr hj]
  have hbody : ofSlots (enclosing ++ [⟨send, some b⟩]) b.children.tail =
      scan (strayAt (some b)) (visitAt enclosing (some b)) (positionsFrom 1 b.children.tail) := by
    have hslot : ∀ j c, b.children.tail[j]? = some (some c) → b.slot (j + 1) = some c := by
      intro j c hj
      rw [slot_eq_some_iff, ← hj, List.getElem?_tail]
    apply ihb
    · intro j c p hj
      rw [Nat.add_comm, strayAt_cons, hslot j c hj]
    · intro j c p hj
      rw [Nat.add_comm, visitAt_statement hb hs hc, hslot j c hj]
  rw [ofNode_block hb hs hc, hargs, hbody, positions_block hs, scan, hroot, scan, hsend, hnone,
    visitAt_send hb hs hc, scan_append]
  simp

mutual

theorem ofNode_eq_scan (enclosing : List Call) : ∀ n : Node,
    ofNode enclosing n = scan (strayAt (some n)) (visitAt enclosing (some n)) n.positions
  | .mk kind value span children => by
    by_cases hb : kind = "block"
    · subst hb
      match children with
      | [] => exact scan_of_stray rfl enclosing
      | none :: _ => exact scan_of_stray rfl enclosing
      | some (.mk k v s args) :: body =>
        by_cases hc : (Node.mk k v s args).isCall
        · exact scan_of_block rfl rfl hc (ofSlots_eq_scan enclosing args 0)
            (fun inner => ofSlots_eq_scan inner body 1)
        · exact scan_of_stray (by simpa [isStray, slot] using hc) enclosing
    · have hn : (Node.mk kind value span children).kind ≠ "block" := hb
      exact scan_of_plain hn (ofSlots_eq_scan enclosing children 0 _ _
        (agreeBelow_strayAt (.mk kind value span children)) (agreeBelow_visitAt hn enclosing))

theorem ofSlots_eq_scan (enclosing : List Call) : ∀ (cs : List Slot) (i : Nat)
    (stray : Position → Bool) (visit : Position → Option Visit),
    AgreeBelow i cs stray strayAt → AgreeBelow i cs visit (visitAt enclosing) →
    ofSlots enclosing cs = scan stray visit (positionsFrom i cs)
  | [], i, stray, visit, hs, hv => rfl
  | none :: r, i, stray, visit, hs, hv => by
    rw [ofSlots, positionsFrom]
    exact ofSlots_eq_scan enclosing r (i + 1) stray visit hs.tail hv.tail
  | some n :: r, i, stray, visit, hs, hv => by
    have hn : scan stray visit (n.positions.map (i :: ·)) = ofNode enclosing n := by
      rw [ofNode_eq_scan enclosing n]
      exact scan_map _ _ (fun p => hs 0 n p rfl) (fun p => hv 0 n p rfl)
    rw [ofSlots, positionsFrom, scan_append, hn,
      ofSlots_eq_scan enclosing r (i + 1) stray visit hs.tail hv.tail]

end

theorem ofRoot_eq_scan (root : Slot) :
    ofRoot root = scan (strayAt root) (visitAt [] root) (positionsOf root) := by
  cases root with
  | none => rfl
  | some n => exact ofNode_eq_scan [] n

theorem ofRoot_visits (root : Slot) : (ofRoot root).visits =
    ((positionsOf root).takeWhile fun p => !strayAt root p).filterMap (visitAt [] root) := by
  rw [ofRoot_eq_scan, scan_visits]

theorem strayAt_iff {root : Slot} {p : Position} : strayAt root p = true ↔ IsStrayAt root p := by
  simp [strayAt, IsStrayAt, Option.any_eq_true]

theorem ofRoot_fault_eq_some_iff {root : Slot} {f : CallFault} :
    (ofRoot root).fault = some f ↔ f = .blockWithoutCall "block" ∧ ∃ m, IsStrayAt root m := by
  have hany : (positionsOf root).any (strayAt root) = true ↔ ∃ m, IsStrayAt root m := by
    simp only [List.any_eq_true, strayAt_iff, mem_positionsOf]
    constructor
    · rintro ⟨m, -, hm⟩
      exact ⟨m, hm⟩
    · rintro ⟨m, n, hn, hs⟩
      exact ⟨m, ⟨n, hn⟩, n, hn, hs⟩
  rw [ofRoot_eq_scan, scan_fault, ← hany]
  split
  · next h => simp [h, eq_comm]
  · next h => simp [h]

theorem ofRoot_fault_eq_none_iff {root : Slot} :
    (ofRoot root).fault = none ↔ BlocksOpenCalls root := by
  rw [Option.eq_none_iff_forall_ne_some, blocksOpenCalls_iff]
  simp only [ne_eq, ofRoot_fault_eq_some_iff, not_and, not_exists]
  exact ⟨fun h => h _ rfl, fun h _ _ => h⟩

end Walk

theorem visitAt_isSome_iff {enclosing : List Call} {s : Slot} {p : Position} :
    (visitAt enclosing s p).isSome ↔ IsCallAt s p := by
  simp [visitAt, IsCallAt, Option.any_eq_true]

/-- A visit told by its position: the call there, with the block that it opens, and the calls around
it. The node of the site is thus the block if there is one, else the call itself. -/
structure VisitedAt (root : Slot) (p : Position) (v : Visit) : Prop where
  send : slotAt root p = some v.call.send
  isCall : v.call.send.isCall
  block : v.call.block = blockOver root p
  enclosing : v.enclosing = enclosingAt root p

theorem visitedAt_of_visitAt {root : Slot} {p : Position} {v : Visit}
    (h : visitAt [] root p = some v) : VisitedAt root p v := by
  obtain ⟨n, hn, rfl⟩ := Option.map_eq_some_iff.mp h
  obtain ⟨hn, hc⟩ := Option.filter_eq_some_iff.mp hn
  exact ⟨hn, hc, rfl, rfl⟩

def IsFirstStray (root : Slot) (m : Position) : Prop :=
  IsStrayAt root m ∧ ∀ q, IsStrayAt root q → q = m ∨ Position.Before m q

theorem exists_firstStray {root : Slot} {q : Position} (h : IsStrayAt root q) :
    ∃ m, IsFirstStray root m := by
  have hmem : ∀ {p}, IsStrayAt root p → p ∈ positionsOf root := fun ⟨n, hn, _⟩ =>
    mem_positionsOf.mpr ⟨n, hn⟩
  have hfound : ((positionsOf root).find? (strayAt root)).isSome :=
    List.find?_isSome.mpr ⟨q, hmem h, Walk.strayAt_iff.mpr h⟩
  obtain ⟨m, hm⟩ := Option.isSome_iff_exists.mp hfound
  obtain ⟨hstray, earlier, later, hsplit, hearlier⟩ := List.find?_eq_some_iff_append.mp hm
  refine ⟨m, Walk.strayAt_iff.mp hstray, fun p hp => ?_⟩
  have hsorted := positionsOf_sorted root
  have hin := hmem hp
  rw [hsplit] at hsorted hin
  rcases List.mem_append.mp hin with hin | hin
  · have hno := hearlier p hin
    simp [Walk.strayAt_iff.mpr hp] at hno
  · rcases List.mem_cons.mp hin with rfl | hin
    · exact Or.inl rfl
    · exact Or.inr ((List.pairwise_cons.mp (List.pairwise_append.mp hsorted).2.1).1 p hin)

theorem before_firstStray_iff {root : Slot} {p : Position} :
    (∀ m, IsFirstStray root m → Position.Before p m) ↔
      ∀ m, IsStrayAt root m → Position.Before p m := by
  constructor
  · intro h q hq
    obtain ⟨m, hm⟩ := exists_firstStray hq
    rcases hm.2 q hq with rfl | hmq
    · exact h q hm
    · exact (h m hm).trans hmq
  · exact fun h m hm => h m hm.1

/-- Up to the first position with a property, a list in pre-order holds those before all that have
it. -/
theorem mem_takeWhile_iff_before {ps : List Position} (hps : ps.Pairwise Position.Before)
    {f : Position → Bool} {p : Position} :
    (p ∈ ps.takeWhile fun q => !f q) ↔ p ∈ ps ∧ ∀ m ∈ ps, f m → Position.Before p m := by
  induction ps with
  | nil => simp
  | cons a ps ih =>
    obtain ⟨ha, hps⟩ := List.pairwise_cons.mp hps
    by_cases hf : f a
    · rw [List.takeWhile_cons_of_neg (by simp [hf])]
      constructor
      · intro h
        simp at h
      · rintro ⟨hp, hm⟩
        have hpa := hm a List.mem_cons_self hf
        rcases List.mem_cons.mp hp with rfl | hp
        · exact absurd hpa (Position.Before.irrefl p)
        · exact absurd (hpa.trans (ha p hp)) (Position.Before.irrefl p)
    · rw [List.takeWhile_cons_of_pos (by simp [hf]), List.mem_cons, ih hps, List.forall_mem_cons]
      constructor
      · rintro (rfl | ⟨hp, hm⟩)
        · exact ⟨List.mem_cons_self, fun h => absurd h hf, fun m hm _ => ha m hm⟩
        · exact ⟨List.mem_cons_of_mem a hp, fun h => absurd h hf, hm⟩
      · rintro ⟨hp, -, hm⟩
        exact (List.mem_cons.mp hp).imp_right fun hp => ⟨hp, hm⟩

theorem forall₂_filterMap {f : α → Option β} {R : α → β → Prop} (h : ∀ a b, f a = some b → R a b)
    (as : List α) : List.Forall₂ R (as.filter fun a => (f a).isSome) (as.filterMap f) := by
  induction as with
  | nil => exact .nil
  | cons a as ih =>
    cases hf : f a with
    | none => simpa [hf] using ih
    | some b => simpa [hf] using ⟨h a b hf, ih⟩

/-- The walk visits the calls before the first stray block in pre-order, each exactly once, and
fails there if there is such a block. -/
theorem ofRoot_visits_in_preorder (root : Slot) :
    (∃ ps : List Position, ps.Pairwise Position.Before ∧
      (∀ p, p ∈ ps ↔ IsCallAt root p ∧ ∀ m, IsFirstStray root m → Position.Before p m) ∧
      List.Forall₂ (VisitedAt root) ps (Walk.ofRoot root).visits) ∧
    ∀ f, (Walk.ofRoot root).fault = some f ↔
      f = .blockWithoutCall "block" ∧ ∃ m, IsFirstStray root m := by
  have hstray : (∃ m, IsFirstStray root m) ↔ ∃ m, IsStrayAt root m :=
    ⟨fun ⟨m, hm⟩ => ⟨m, hm.1⟩, fun ⟨_, hm⟩ => exists_firstStray hm⟩
  refine ⟨?_, fun f => by rw [Walk.ofRoot_fault_eq_some_iff, hstray]⟩
  refine ⟨((positionsOf root).takeWhile fun p => !strayAt root p).filter
    fun p => (visitAt [] root p).isSome, ?_, ?_, ?_⟩
  · exact (positionsOf_sorted root).sublist
      (List.filter_sublist.trans (List.takeWhile_sublist _))
  · intro p
    rw [List.mem_filter, mem_takeWhile_iff_before (positionsOf_sorted root), visitAt_isSome_iff,
      before_firstStray_iff, mem_positionsOf]
    constructor
    · rintro ⟨⟨-, hm⟩, hp⟩
      refine ⟨hp, fun m hs => ?_⟩
      obtain ⟨n, hn, -⟩ := id hs
      exact hm m (mem_positionsOf.mpr ⟨n, hn⟩) (Walk.strayAt_iff.mpr hs)
    · rintro ⟨hp, hm⟩
      obtain ⟨n, hn, -⟩ := id hp
      exact ⟨⟨⟨n, hn⟩, fun m _ hs => hm m (Walk.strayAt_iff.mp hs)⟩, hp⟩
  · rw [Walk.ofRoot_visits]
    exact forall₂_filterMap (fun _ _ => visitedAt_of_visitAt) _

end GroupLint
