import GroupLint.Proofs.SourceOrder

/-! Offenses come in source order. They are found at calls in pre-order but located at arguments, so
the order could break only where a call is reported inside the receiver of another; the receiver of a
reported call has no calls in it. -/
namespace GroupLint
open Node

theorem Position.before_argument {p q : Position} (h : Before p q) (hr : ∀ t, q ≠ p ++ 0 :: t) :
    Before (p ++ [1]) (q ++ [1]) := by
  induction h with
  | @nil i q =>
    have hi : i ≠ 0 := by
      rintro rfl
      exact hr q rfl
    by_cases hone : i = 1
    · subst hone
      refine .cons ?_
      cases q <;> exact .nil
    · exact .rel (by omega)
  | cons h ih =>
    refine .cons (ih fun t ht => ?_)
    exact hr t (by rw [ht, List.cons_append])
  | rel h => exact .rel h

namespace Lowering

theorem kind_asSymbol (n : Node) :
    (asSymbol n).kind = "dsym" ∨ (asSymbol n).kind = "sym" ∨ asSymbol n = n := by
  rw [asSymbol]
  split
  · exact Or.inl rfl
  · split
    · exact Or.inr (Or.inl rfl)
    · exact Or.inr (Or.inr rfl)

variable {bytes : List UInt8} {c : Concrete} {ls : List Lowered}

theorem kind_ne_cbase_of_isCall {n : Node} (h : n.isCall) : n.kind ≠ "cbase" := by
  intro hk
  simp [isCall, isCallKind, hk] at h

theorem kind_assemble (hc : c.kind ≠ "cbase") {n : Node} (h : assemble bytes c ls = some n) :
    n.kind ≠ "cbase" := by
  rw [assemble] at h
  split at h
  · cases h
  · obtain rfl := Option.some.inj h
    split
    · simp
    · rw [call]
      cases inField "block" ls with
      | none => exact kind_ne_cbase_of_isCall isCall_send
      | some b => simp
    · simp [textNode]
    · simp [textNode]
    · simp [scopeResolution]
    · rw [quotedNode]
      split <;> simp
    · rw [quotedNode]
      split <;> simp
    · simp
    · simp [textNode]
    · simp
    · simp [pair]
    · rw [binary]
      split
      · simp
      · split <;> simp
    · exact hc

end Lowering

/-- Only lowering itself makes roots of paths, and it puts nothing below them. -/
theorem cbase_toNode {c : Concrete} (h : ∀ d ∈ c.nodes, d.kind ≠ "cbase") (bytes : List UInt8) :
    Everywhere (fun n => n.kind = "cbase" → n.children = []) (c.toNode bytes) := by
  have hderived : Lowering.Derived fun n => n.kind = "cbase" → n.children = [] := by
    refine ⟨fun first rest hk => ?_, fun _ _ => rfl, fun n hn => ?_⟩
    · simp [Lowering.keywordHash] at hk
    · rcases Lowering.kind_asSymbol n with hk | hk | hk
      · simp [hk]
      · simp [hk]
      · rwa [hk]
  refine Lowering.everywhere_toNode hderived fun d hd => ⟨fun n hn hk => ?_, fun _ hk => ?_⟩
  · exact absurd hk (Lowering.kind_assemble (h d hd) hn)
  · exact absurd hk (Lowering.kind_ne_cbase_of_isCall Lowering.isCall_send)

theorem not_isCall_of_isRspec {s : Slot} (hs : IsRspec s)
    (hbase : Everywhere (fun n => n.kind = "cbase" → n.children = []) s) :
    Everywhere (fun n => ¬ n.isCall) s := by
  rcases hs with rfl | ⟨n, t, rfl, hk, -, hcs, ht⟩
  · exact everywhere_none _
  · have hn : ¬ n.isCall := by simp [isCall, isCallKind, hk]
    refine everywhere_some_iff.mpr ⟨hn, ?_⟩
    have hbelow := (everywhere_some_iff.mp hbase).2
    rw [hcs, List.forall_mem_singleton] at hbelow ⊢
    rcases ht with rfl | ⟨r, rfl, hr⟩
    · exact everywhere_none _
    · have hroot : r.children = [] := (everywhere_some_iff.mp hbelow).1 hr
      exact everywhere_some_iff.mpr ⟨by simp [isCall, isCallKind, hr], by simp [hroot]⟩

namespace Rule

theorem offenseAt_le {r : Rule} {path : Option String} {root : Slot}
    (hsorted : (startsOf root).Pairwise (· ≤ ·))
    (hbase : Everywhere (fun n => n.kind = "cbase" → n.children = []) root) {p q : Position}
    (hpq : Position.Before p q) {o o' : Offense} (ho : r.offenseAt path root p = some o)
    (ho' : r.offenseAt path root q = some o') : o.location.start ≤ o'.location.start := by
  obtain ⟨send, d, hp, hd, rfl⟩ := offenseAt_eq_some_iff.mp ho
  obtain ⟨send', d', hq, hd', rfl⟩ := offenseAt_eq_some_iff.mp ho'
  -- The later call is not in the receiver of the earlier one, so its argument comes later too.
  have hreceiver : ∀ t, q ≠ p ++ 0 :: t := by
    rintro t rfl
    have hbelow : Everywhere (fun n => n.kind = "cbase" → n.children = []) (send.slot 0) := by
      intro u n hn
      exact hbase (p ++ 0 :: u) n (by rw [slotAt_append, hp.at_position, slotAt_cons, hn])
    have hcall := not_isCall_of_isRspec hp.describes.2.2.2 hbelow t send' (by
      rw [← hq.at_position, slotAt_append, hp.at_position, slotAt_cons])
    simp [isCall, isCallKind, hq.describes.1] at hcall
  refine start_le_of_before hsorted (Position.before_argument hpq hreceiver) ?_ ?_
  · rw [slotAt_snoc hp.at_position, hd]
  · rw [slotAt_snoc hq.at_position, hd']

/-- The offenses in a source whose concrete tree is in order are located one after the other. -/
theorem investigate_toNode_sorted (r : Rule) (path : Option String) (bytes : List UInt8) (c : Concrete)
    (horder : c.SpanOrdered) (hbase : ∀ d ∈ c.nodes, d.kind ≠ "cbase") (offenses : List Offense)
    (h : r.investigate path (c.toNode bytes) = .ok offenses) :
    (offenses.map (·.location.start)).Pairwise (· ≤ ·) := by
  obtain ⟨-, rfl⟩ := offenses_of_investigate h
  rw [List.pairwise_map, List.pairwise_filterMap]
  refine (positionsOf_sorted (c.toNode bytes)).imp fun {p q} hpq o ho o' ho' => ?_
  exact offenseAt_le (startsOf_toNode_sorted horder bytes) (cbase_toNode hbase bytes) hpq ho ho'

/-- The tree of `describe 'one', describe('two')`. -/
def nestedTexts : Concrete :=
  let node (kind : String) (field : Option String) (start stop : Int) : List Concrete → Concrete :=
    .mk kind true field ⟨start, stop, 0, start⟩ false false
  let token (kind : String) (start : Int) : Concrete :=
    .mk kind false none ⟨start, start + 1, 0, start⟩ false false []
  let text (start : Int) : Concrete :=
    node "string" none start (start + 5) [node "string_content" none (start + 1) (start + 4) []]
  node "program" none 0 31
    [node "call" none 0 31
      [node "identifier" (some "method") 0 8 [],
       node "argument_list" (some "arguments") 9 31
        [text 9, token "," 14,
         node "call" none 16 31
          [node "identifier" (some "method") 16 24 [],
           node "argument_list" (some "arguments") 24 31 [token "(" 24, text 25, token ")" 30]]]]]

/-- A group among the arguments of another is reported after it. -/
theorem investigate_nestedTexts :
    nestedTexts.SpanOrdered ∧ (∀ d ∈ nestedTexts.nodes, d.kind ≠ "cbase") ∧
      ∃ offenses, (Rule.mk .standard .standard).investigate none
          (nestedTexts.toNode (Text.Utf8.encode "describe 'one', describe('two')".toList)) = .ok offenses ∧
        offenses.length = 2 ∧ (offenses.map (·.location.start)).Pairwise (· ≤ ·) := by
  have horder : nestedTexts.SpanOrdered := by decide
  have hbase : ∀ d ∈ nestedTexts.nodes, d.kind ≠ "cbase" := by decide
  have hok : (Rule.mk .standard .standard).investigate none
      (nestedTexts.toNode (Text.Utf8.encode "describe 'one', describe('two')".toList)) =
        .ok [⟨⟨9, 14, 1, 9⟩, message, name, none⟩, ⟨⟨25, 30, 1, 25⟩, message, name, none⟩] := by
    decide +kernel
  exact ⟨horder, hbase, _, hok, rfl, investigate_toNode_sorted _ none _ nestedTexts horder hbase _ hok⟩

end Rule
end GroupLint
