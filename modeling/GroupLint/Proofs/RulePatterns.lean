import GroupLint.Rule
import GroupLint.Proofs.Position

/-! What the patterns of the rule say about a node. Each of them comes down to a test of the node, and
to the slots it captures if the test holds. -/
namespace GroupLint
open Node

namespace Pattern

@[simp] theorem keepIf_true (acc : Captures) : keepIf true acc = .ok (some acc) := rfl

@[simp] theorem keepIf_false (acc : Captures) : keepIf false acc = .ok none := rfl

@[simp] theorem extend_keepIf (acc cs : Captures) (b : Bool) :
    extend acc (keepIf b cs) = keepIf b (acc ++ cs) := by
  cases b <;> rfl

@[simp] theorem extend_none (acc : Captures) : extend acc (.ok none) = .ok none := rfl

@[simp] theorem extend_some (acc cs : Captures) :
    extend acc (.ok (some cs)) = .ok (some (acc ++ cs)) := rfl

@[simp] theorem extend_nil (o : Outcome) : extend [] o = o := by
  obtain _ | _ | _ := o <;> rfl

theorem firstFit_keepIf (f : Slot → Bool) (cs : List Slot) :
    firstFit (fun c => keepIf (f c) []) cs = keepIf (cs.any f) [] := by
  induction cs with
  | nil => rfl
  | cons c cs ih => cases hf : f c <;> simp [firstFit, hf, ih]

theorem match_shape (k u : String) (ps : List Pattern) (n : Node) :
    (shape [k] (.value (some u)) ps).match? (some n) =
      if n.kind = k ∧ n.value = some u ∧ coversLength ps n.children.length then
        collectRow ps n.children []
      else .ok none := by
  rw [match?, collect]
  by_cases hk : n.kind = k
  · by_cases hv : n.value = some u
    · simp [hk, hv, collect]
    · have hu : (n.value == some u) = false := beq_eq_false_iff_ne.mpr hv
      simp [hk, hv, hu, collect]
  · simp [hk]

theorem collectRow_test (f : Slot → Bool) (ps : List Pattern) (s : Slot) (ss : List Slot)
    (acc : Captures) :
    collectRow (.test f :: ps) (s :: ss) acc = if f s then collectRow ps ss acc else .ok none := by
  cases hf : f s <;> simp [collectRow, collect, hf]

theorem collectRow_singleton {p : Pattern} (hp : p ≠ .rest) (s : Slot) (acc : Captures) :
    collectRow [p] [s] acc = p.collect s acc := by
  rw [collectRow]
  · obtain _ | _ | _ := p.collect s acc <;> simp [collectRow]
  · exact hp

/-- After a rest, one pattern is left for the last slot. -/
theorem collectRow_rest_last {p : Pattern} (hp : p ≠ .rest) {ss : List Slot} (hs : ss ≠ [])
    (acc : Captures) : collectRow [.rest, p] ss acc = p.collect (ss.getLast hs) acc := by
  have hlast : ss.drop (ss.length - 1) = [ss.getLast hs] := calc
    ss.drop (ss.length - 1) = (ss.dropLast ++ [ss.getLast hs]).drop ss.dropLast.length := by
      rw [List.dropLast_append_getLast, List.length_dropLast]
    _ = [ss.getLast hs] := List.drop_left
  rw [collectRow, List.length_singleton, hlast, collectRow_singleton hp]

end Pattern

def IsRspec (s : Slot) : Prop :=
  s = none ∨ ∃ n c, s = some n ∧ n.kind = "const" ∧ n.value = some "RSpec" ∧ n.children = [c] ∧
    (c = none ∨ ∃ r, c = some r ∧ r.kind = "cbase")

section Meaning
open Pattern

theorem match_anyOf_empty (p : Pattern) (n : Node) :
    (anyOf [.empty, p]).match? (some n) = p.match? (some n) := by
  simp only [match?, collect, collectFirst, extend_nil, Option.isNone_some, keepIf_false]
  split <;> simp_all

theorem collect_emptyOrKind (k : String) (s : Slot) (acc : Captures) :
    (anyOf [.empty, .kind [k]]).collect s acc = keepIf (s.all fun n => decide (n.kind = k)) acc := by
  cases s with
  | none => simp [collect, collectFirst]
  | some n => by_cases hk : n.kind = k <;> simp [collect, collectFirst, hk]

theorem isRspecReceiver_iff {s : Slot} : Vocabulary.isRspecReceiver s = true ↔ IsRspec s := by
  rw [Vocabulary.isRspecReceiver, Vocabulary.rspecReceiver, fits]
  cases s with
  | none => simp [match?, collect, collectFirst, IsRspec]
  | some n =>
    have hcovers : coversLength [.anyOf [.empty, .kind ["cbase"]]] n.children.length ↔
        ∃ c, n.children = [c] := by
      rw [← List.length_eq_one_iff]
      simp [coversLength, isRest, eq_comm (a := 1)]
    rw [match_anyOf_empty, match_shape]
    by_cases h : n.kind = "const" ∧ n.value = some "RSpec" ∧
        coversLength [.anyOf [.empty, .kind ["cbase"]]] n.children.length
    · obtain ⟨c, hc⟩ := hcovers.mp h.2.2
      rw [if_pos h, hc, collectRow_singleton (by simp), collect_emptyOrKind]
      cases c with
      | none => simp [IsRspec, h.1, h.2.1, hc]
      | some r => by_cases hr : r.kind = "cbase" <;> simp [IsRspec, h.1, h.2.1, hc, hr]
    · rw [if_neg h]
      refine iff_of_false (by simp) ?_
      rintro (hn | ⟨m, c, hm, hk, hv, hc, -⟩)
      · simp at hn
      · obtain rfl : n = m := by simpa using hm
        exact h ⟨hk, hv, hcovers.mpr ⟨c, hc⟩⟩

def IsIgnoredPair (m : IgnoredMetadata) (s : Slot) : Prop :=
  ∃ n key value, s = some n ∧ n.kind = "pair" ∧ n.children = [some key, some value] ∧
    key.kind = "sym" ∧ value.kind = "sym" ∧
    m.allows (IgnoredMetadata.symbolText key) (IgnoredMetadata.symbolText value)

theorem ignoresPair_iff {m : IgnoredMetadata} {s : Slot} :
    m.ignoresPair s = true ↔ IsIgnoredPair m s := by
  rw [IgnoredMetadata.ignoresPair, match?, IgnoredMetadata.symbolPair]
  cases s with
  | none => simp [collect, IsIgnoredPair]
  | some n =>
    by_cases hk : n.kind = "pair"
    · match hc : n.children with
      | [] => simp [collect, coversLength, isRest, IsIgnoredPair, hk, hc]
      | [_] => simp [collect, coversLength, isRest, IsIgnoredPair, hk, hc]
      | _ :: _ :: _ :: _ => simp [collect, coversLength, isRest, IsIgnoredPair, hk, hc]
      | [none, _] => simp [collect, collectRow, coversLength, isRest, IsIgnoredPair, hk, hc]
      | [some a, none] =>
        by_cases ha : a.kind = "sym" <;>
          simp [collect, collectRow, coversLength, isRest, IsIgnoredPair, hk, hc, ha]
      | [some a, some b] =>
        by_cases ha : a.kind = "sym" <;> by_cases hb : b.kind = "sym" <;>
          simp [collect, collectRow, coversLength, isRest, IsIgnoredPair, hk, hc, ha, hb]
    · simp [collect, IsIgnoredPair, hk]

instance : DecidablePred IsRspec := fun _ => decidable_of_iff _ isRspecReceiver_iff

def Describes (n : Node) : Prop :=
  n.kind = "send" ∧ n.value = some "describe" ∧ 2 ≤ n.children.length ∧ IsRspec (n.slot 0)

instance : DecidablePred Describes := fun _ => inferInstanceAs (Decidable (_ ∧ _))

def CarriesIgnored (m : IgnoredMetadata) (n : Node) : Prop :=
  ∃ h, n.children.getLast? = some (some h) ∧ h.kind = "hash" ∧ ∃ s ∈ h.children, IsIgnoredPair m s

theorem any_hash_iff {m : IgnoredMetadata} {n : Node} :
    (n.children.getLast?.join.any fun h => decide (h.kind = "hash") && h.children.any m.ignoresPair) ↔
      CarriesIgnored m n := by
  simp [CarriesIgnored, Option.any_eq_true, Option.join_eq_some_iff, ignoresPair_iff]

instance (m : IgnoredMetadata) : DecidablePred (CarriesIgnored m) :=
  fun _ => decidable_of_iff _ any_hash_iff

def NamesConstant (d : Node) : Prop :=
  d.kind = "const" ∨ d.kind = "str" ∧ Text.hasConstantLine (d.value.getD "").toList

instance : DecidablePred NamesConstant := fun _ => inferInstanceAs (Decidable (_ ∨ _))

theorem collect_hashWith (f : Slot → Bool) (s : Slot) (acc : Captures) :
    (allOf [.kind ["hash"], .hasChild (.test f)]).collect s acc =
      keepIf (s.any fun h => decide (h.kind = "hash") && h.children.any f) acc := by
  cases s with
  | none => rfl
  | some h =>
    by_cases hh : h.kind = "hash"
    · cases hf : h.children.any f <;> simp [collect, collectAll, firstFit_keepIf, hh, hf]
    · simp [collect, collectAll, hh]

theorem collect_nonConstant (s : Slot) :
    (allOf [.notKind ["const"], .not (.test isStringConstant)]).collect s [] =
      keepIf (decide (∀ d, s = some d → ¬ NamesConstant d)) [] := by
  cases s with
  | none => rfl
  | some d =>
    by_cases hk : d.kind = "const"
    · simp [collect, collectAll, NamesConstant, hk]
    · have hs : isStringConstant (some d) ↔ NamesConstant d := by
        simp [isStringConstant, NamesConstant, hk]
      cases hd : isStringConstant (some d) <;> simp [collect, collectAll, hk, ← hs, hd]

theorem collectRow_capture_rest {p : Pattern} {s : Slot} {b : Bool} (h : p.collect s [] = keepIf b [])
    (ss : List Slot) : collectRow [.capture p, .rest] (s :: ss) [] = keepIf b [s] := by
  cases b <;> simp [collectRow, collect, h]

/-- Both patterns of the rule are about a `describe` and differ in what they ask of its arguments. -/
theorem match_describe {ps : List Pattern}
    (hps : ∀ k, coversLength (.test Vocabulary.isRspecReceiver :: ps) k ↔ 2 ≤ k) (n : Node) :
    (shape ["send"] (.value (some "describe")) (.test Vocabulary.isRspecReceiver :: ps)).match? (some n) =
      if Describes n then collectRow ps n.children.tail [] else .ok none := by
  simp only [match_shape, hps]
  by_cases h : n.kind = "send" ∧ n.value = some "describe" ∧ 2 ≤ n.children.length
  · match hc : n.children with
    | [] => simp [hc] at h
    | a :: r =>
      have hslot : n.slot 0 = a := by simp [slot, hc]
      have hd : Describes n ↔ Vocabulary.isRspecReceiver a := by
        rw [isRspecReceiver_iff, Describes, hslot]
        exact ⟨fun hd => hd.2.2.2, fun ha => ⟨h.1, h.2.1, h.2.2, ha⟩⟩
      simp only [hc] at h
      rw [if_pos h, collectRow_test, List.tail_cons]
      simp only [hd]
  · rw [if_neg h, if_neg fun hd => h ⟨hd.1, hd.2.1, hd.2.2.1⟩]

theorem children_of_describes {n : Node} (h : Describes n) :
    ∃ a d r, n.children = a :: d :: r := by
  match hc : n.children, h.2.2.1 with
  | a :: d :: r, _ => exact ⟨a, d, r, rfl⟩

theorem match_withIgnoredMetadata (m : IgnoredMetadata) (n : Node) :
    (Rule.withIgnoredMetadata m).match? (some n) =
      keepIf (decide (Describes n ∧ CarriesIgnored m n)) [] := by
  rw [Rule.withIgnoredMetadata, match_describe fun k => by simp [coversLength, isRest]]
  by_cases h : Describes n
  · obtain ⟨a, d, r, hc⟩ := children_of_describes h
    have hlast : n.children.getLast?.join = (d :: r).getLast (by simp) := by
      simp [hc, List.getLast?_eq_some_getLast]
    have hcarries := any_hash_iff (m := m) (n := n)
    rw [hlast] at hcarries
    rw [if_pos h, hc, List.tail_cons, collectRow_rest_last (by simp) (by simp), collect_hashWith]
    simp [h, ← hcarries]
  · simp [h]

theorem match_describedWithNonConstant (n : Node) :
    Rule.describedWithNonConstant.match? (some n) =
      keepIf (decide (Describes n ∧ ∀ d, n.slot 1 = some d → ¬ NamesConstant d)) [n.slot 1] := by
  rw [Rule.describedWithNonConstant, match_describe fun k => by simp [coversLength, isRest]]
  by_cases h : Describes n
  · obtain ⟨a, d, r, hc⟩ := children_of_describes h
    have hslot : n.slot 1 = d := by simp [slot, hc]
    rw [if_pos h, hc, List.tail_cons, hslot, collectRow_capture_rest (collect_nonConstant d)]
    simp [h]
  · simp [h]

end Meaning
end GroupLint
