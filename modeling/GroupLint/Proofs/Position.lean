import GroupLint.Syntax.Node
import Mathlib.Data.List.Forall2

/-! Positions of a tree. A position lists the slots to go through from the root; the root itself is
at the empty position. Pre-order is the lexicographic order of positions. -/
namespace GroupLint

abbrev Position := List Nat

namespace Position

/-- A node comes before all that is below it, and all below a slot before what is in later ones. -/
def Before : Position → Position → Prop := List.Lex (· < ·)

theorem Before.irrefl (p : Position) : ¬ Before p p := List.lex_irrefl Nat.lt_irrefl p

theorem Before.trans {p q r : Position} (hpq : Before p q) (hqr : Before q r) : Before p r :=
  List.lex_trans Nat.lt_trans hpq hqr

end Position

namespace Node

@[simp] theorem kind_mk (k : String) (v : Option String) (s : Span) (cs : List Slot) :
    (mk k v s cs).kind = k := rfl

@[simp] theorem value_mk (k : String) (v : Option String) (s : Span) (cs : List Slot) :
    (mk k v s cs).value = v := rfl

@[simp] theorem span_mk (k : String) (v : Option String) (s : Span) (cs : List Slot) :
    (mk k v s cs).span = s := rfl

@[simp] theorem children_mk (k : String) (v : Option String) (s : Span) (cs : List Slot) :
    (mk k v s cs).children = cs := rfl

/-- The slot of an index; empty beyond the last. -/
def slot (n : Node) (i : Nat) : Slot := n.children[i]?.join

def slotAt : Slot → Position → Slot
  | s, [] => s
  | none, _ :: _ => none
  | some n, i :: p => slotAt (n.slot i) p

@[simp] theorem slotAt_nil (s : Slot) : slotAt s [] = s := by
  cases s <;> rfl

@[simp] theorem slotAt_none (p : Position) : slotAt none p = none := by
  cases p <;> rfl

@[simp] theorem slotAt_cons (n : Node) (i : Nat) (p : Position) :
    slotAt (some n) (i :: p) = slotAt (n.slot i) p := rfl

theorem slotAt_append (s : Slot) (p q : Position) : slotAt s (p ++ q) = slotAt (slotAt s p) q := by
  induction p generalizing s with
  | nil => simp
  | cons i p ih =>
    cases s with
    | none => simp
    | some n => exact ih (n.slot i)

theorem slotAt_snoc {s : Slot} {p : Position} {n : Node} (h : slotAt s p = some n) (i : Nat) :
    slotAt s (p ++ [i]) = n.slot i := by
  rw [slotAt_append, h, slotAt_cons, slotAt_nil]

theorem slot_eq_some_iff {n c : Node} {i : Nat} :
    n.slot i = some c ↔ n.children[i]? = some (some c) := by
  simp [slot, Option.join_eq_some_iff]

mutual

def positions : Node → List Position
  | .mk _ _ _ cs => [] :: positionsFrom 0 cs

def positionsFrom (i : Nat) : List Slot → List Position
  | [] => []
  | none :: r => positionsFrom (i + 1) r
  | some n :: r => (positions n).map (i :: ·) ++ positionsFrom (i + 1) r

end

theorem positions_eq (n : Node) : n.positions = [] :: positionsFrom 0 n.children := by
  cases n
  rw [positions, children]

theorem mem_positionsFrom {i : Nat} {cs : List Slot} {p : Position} :
    p ∈ positionsFrom i cs ↔
      ∃ j q n, cs[j]? = some (some n) ∧ p = (i + j) :: q ∧ q ∈ n.positions := by
  induction cs generalizing i with
  | nil => simp [positionsFrom]
  | cons c cs ih =>
    have hr : p ∈ positionsFrom (i + 1) cs ↔
        ∃ j q n, (c :: cs)[j + 1]? = some (some n) ∧ p = (i + (j + 1)) :: q ∧ q ∈ n.positions := by
      rw [ih]
      simp only [List.getElem?_cons_succ, Nat.add_assoc, Nat.add_comm 1]
    cases c with
    | none =>
      rw [positionsFrom, hr]
      constructor
      · rintro ⟨j, q, n, h⟩
        exact ⟨j + 1, q, n, h⟩
      · rintro ⟨_ | j, q, n, hn, h⟩
        · simp at hn
        · exact ⟨j, q, n, hn, h⟩
    | some m =>
      rw [positionsFrom, List.mem_append, hr, List.mem_map]
      constructor
      · rintro (⟨q, hq, rfl⟩ | ⟨j, q, n, h⟩)
        · exact ⟨0, q, m, rfl, rfl, hq⟩
        · exact ⟨j + 1, q, n, h⟩
      · rintro ⟨_ | j, q, n, hn, rfl, hq⟩
        · obtain rfl : m = n := by simpa using hn
          exact Or.inl ⟨q, hq, rfl⟩
        · exact Or.inr ⟨j, q, n, hn, rfl, hq⟩

theorem mem_positions {n : Node} {p : Position} :
    p ∈ n.positions ↔ ∃ m, slotAt (some n) p = some m := by
  induction p generalizing n with
  | nil => simp [positions_eq]
  | cons i p ih =>
    rw [positions_eq, List.mem_cons, mem_positionsFrom]
    simp only [reduceCtorEq, false_or, Nat.zero_add, List.cons.injEq, slotAt_cons]
    constructor
    · rintro ⟨j, q, c, hc, ⟨rfl, rfl⟩, hq⟩
      rw [slot_eq_some_iff.mpr hc]
      exact ih.mp hq
    · rintro ⟨m, hm⟩
      cases hs : n.slot i with
      | none => simp [hs] at hm
      | some c =>
        rw [hs] at hm
        exact ⟨i, p, c, slot_eq_some_iff.mp hs, ⟨rfl, rfl⟩, ih.mpr ⟨m, hm⟩⟩

mutual

theorem positions_sorted : ∀ n : Node, n.positions.Pairwise Position.Before
  | .mk _ _ _ cs => by
    rw [positions, List.pairwise_cons]
    refine ⟨fun p hp => ?_, positionsFrom_sorted 0 cs⟩
    obtain ⟨j, q, n, -, rfl, -⟩ := mem_positionsFrom.mp hp
    exact List.Lex.nil

theorem positionsFrom_sorted (i : Nat) : ∀ cs : List Slot,
    (positionsFrom i cs).Pairwise Position.Before
  | [] => List.Pairwise.nil
  | none :: r => positionsFrom_sorted (i + 1) r
  | some n :: r => by
    rw [positionsFrom, List.pairwise_append, List.pairwise_map]
    refine ⟨(positions_sorted n).imp List.Lex.cons, positionsFrom_sorted (i + 1) r, ?_⟩
    intro p hp q hq
    obtain ⟨p', -, rfl⟩ := List.mem_map.mp hp
    obtain ⟨j, q', m, -, rfl, -⟩ := mem_positionsFrom.mp hq
    exact List.Lex.rel (by omega)

end

def positionsOf (s : Slot) : List Position := (s.map positions).getD []

theorem mem_positionsOf {s : Slot} {p : Position} :
    p ∈ positionsOf s ↔ ∃ m, slotAt s p = some m := by
  cases s with
  | none => simp [positionsOf]
  | some n => exact mem_positions

theorem positionsOf_sorted (s : Slot) : (positionsOf s).Pairwise Position.Before := by
  cases s with
  | none => exact List.Pairwise.nil
  | some n => exact positions_sorted n

def Everywhere (P : Node → Prop) (s : Slot) : Prop := ∀ p n, slotAt s p = some n → P n

theorem everywhere_none (P : Node → Prop) : Everywhere P none := by
  intro p n h
  simp at h

theorem everywhere_some_iff {P : Node → Prop} {n : Node} :
    Everywhere P (some n) ↔ P n ∧ ∀ s ∈ n.children, Everywhere P s := by
  constructor
  · intro h
    refine ⟨h [] n (slotAt_nil _), fun s hs p m hm => ?_⟩
    obtain ⟨i, hi⟩ := List.getElem?_of_mem hs
    have hslot : n.slot i = s := by simp [slot, hi]
    exact h (i :: p) m (by rw [slotAt_cons, hslot, hm])
  · rintro ⟨hn, hs⟩ (_ | ⟨i, p⟩) m hm
    · obtain rfl : n = m := by simpa using hm
      exact hn
    · rw [slotAt_cons] at hm
      cases hi : n.slot i with
      | none => simp [hi] at hm
      | some c =>
        rw [hi] at hm
        exact hs (some c) (List.mem_of_getElem? (slot_eq_some_iff.mp hi)) p m hm

theorem everywhere_iff_positions {P : Node → Prop} {s : Slot} :
    Everywhere P s ↔ ∀ p ∈ positionsOf s, ∀ n, slotAt s p = some n → P n := by
  constructor
  · exact fun h p _ n hn => h p n hn
  · exact fun h p n hn => h p (mem_positionsOf.mpr ⟨n, hn⟩) n hn

instance {P : Node → Prop} [DecidablePred P] {s : Slot} : Decidable (Everywhere P s) :=
  decidable_of_iff (∀ p ∈ positionsOf s, (slotAt s p).all fun n => decide (P n)) <| by
    simp [everywhere_iff_positions, Option.all_eq_true]

end Node
end GroupLint
