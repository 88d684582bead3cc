import GroupLint.Proofs.LoweredTree
import GroupLint.Proofs.Offenses

/-! The calls and blocks of a lowered tree. No argument of a call is empty, and only the block of no
call can be stray. -/
namespace GroupLint
open Node

namespace Concrete

def childIn (name : String) (c : Concrete) : Option Concrete :=
  c.children.find? (·.field == some name)

/-- No node passes for a call of its own, and no binary operation for a `describe`. -/
def Regular (bytes : List UInt8) (c : Concrete) : Prop :=
  ∀ d ∈ c.nodes, d.kind ≠ "send" ∧
    (d.kind = "binary" → ∀ o ∈ d.childIn "operator", String.ofList (o.text bytes) ≠ "describe")

instance (bytes : List UInt8) (c : Concrete) : Decidable (c.Regular bytes) :=
  inferInstanceAs (Decidable (∀ d ∈ c.nodes, _))

end Concrete

def Node.isInert (n : Node) : Bool := !n.isCall && n.kind != "block"

theorem not_describes_of_isInert {n : Node} (h : n.isInert) : ¬ Describes n := by
  intro hd
  simp [isInert, isCall, isCallKind, hd.1] at h

theorem not_isStray_of_isInert {n : Node} (h : n.isInert) : ¬ n.isStray := by
  rw [isInert, Bool.and_eq_true, bne_iff_ne] at h
  exact not_isStray_iff.mpr fun hb => absurd hb h.2

namespace Lowering

theorem lowerAll_eq_map (bytes : List UInt8) (cs : List Concrete) :
    lowerAll bytes cs = cs.map (lower bytes) := by
  induction cs with
  | nil => rfl
  | cons c cs ih => rw [lowerAll, ih, List.map_cons]

theorem source_lower (bytes : List UInt8) (c : Concrete) : (lower bytes c).source = c := by
  cases c
  rfl

theorem inField_lowerAll (name : String) (bytes : List UInt8) (c : Concrete) :
    inField name (lowerAll bytes c.children) = (c.childIn name).map (lower bytes) := by
  rw [inField, lowerAll_eq_map, List.find?_map, Concrete.childIn]
  simp only [Function.comp_def, source_lower]

variable {bytes : List UInt8} {c : Concrete} {ls : List Lowered}

theorem isInert_quotedNode {k k' : String} (hk : (Node.mk k none c.span []).isInert)
    (hk' : (Node.mk k' none c.span []).isInert) : (quotedNode k k' bytes c ls).isInert := by
  rw [quotedNode]
  split
  · exact hk'
  · exact hk

/-- A concrete node becomes a call with or without a block, a bare name, an operation, a node of its
own kind, or something that is neither call nor block. -/
theorem assemble_cases {n : Node} (h : assemble bytes c ls = some n) :
    n.isInert ∨ (c.kind = "call" ∧ n = call bytes c ls) ∨ n = textNode "send" bytes c [none] ∨
      (c.kind = "binary" ∧ n = binary bytes c ls) ∨ n = generic bytes c ls := by
  rw [assemble] at h
  split at h
  · cases h
  · obtain rfl := Option.some.inj h
    split
    · exact Or.inl rfl
    · next hk => exact Or.inr (Or.inl ⟨hk, rfl⟩)
    · exact Or.inr (Or.inr (Or.inl rfl))
    · exact Or.inl rfl
    · exact Or.inl rfl
    · exact Or.inl (isInert_quotedNode rfl rfl)
    · exact Or.inl (isInert_quotedNode rfl rfl)
    · exact Or.inl rfl
    · exact Or.inl rfl
    · exact Or.inl rfl
    · exact Or.inl rfl
    · next hk => exact Or.inr (Or.inr (Or.inr (Or.inl ⟨hk, rfl⟩)))
    · exact Or.inr (Or.inr (Or.inr (Or.inr rfl)))

theorem isCall_send : (send bytes c ls).isCall := by
  rw [send, isCall, kind_mk, callKind]
  cases inField "operator" ls with
  | none => rfl
  | some op =>
    dsimp only
    split <;> rfl

theorem asSymbol_cases (n : Node) : (asSymbol n).isInert ∨ asSymbol n = n := by
  rw [asSymbol]
  split
  · exact Or.inl rfl
  · split
    · exact Or.inl rfl
    · exact Or.inr rfl

theorem derived_of_isInert {P : Node → Prop} (h : ∀ n : Node, n.isInert → P n) : Derived P where
  hash _ _ := h _ rfl
  base _ := h _ rfl
  symbol n hn := by
    rcases asSymbol_cases n with hs | hs
    · exact h _ hs
    · rwa [hs]

theorem send_given (hd : Describes (send bytes c ls)) : ((send bytes c ls).slot 1).isSome := by
  have hlen := hd.2.2.1
  rw [send] at hlen ⊢
  cases h : callArguments ls with
  | nil => simp [h] at hlen
  | cons a r => simp [slot]

theorem call_given (hd : Describes (call bytes c ls)) : ((call bytes c ls).slot 1).isSome := by
  rw [call] at hd ⊢
  cases h : inField "block" ls with
  | none =>
    rw [h] at hd
    exact send_given hd
  | some b =>
    rw [h] at hd
    exact absurd hd.1 (by simp)

theorem not_isStray_call : ¬ (call bytes c ls).isStray := by
  rw [not_isStray_iff, call]
  cases inField "block" ls with
  | none => exact fun hb => absurd hb (not_block_of_isCall isCall_send)
  | some b =>
    intro _
    simp [slot, isCall_send]

theorem not_isStray_binary : ¬ (binary bytes c ls).isStray := by
  rw [not_isStray_iff, binary]
  split
  · simp
  · split <;> simp

theorem describes_binary
    (h : Describes (binary bytes c (lowerAll bytes c.children))) :
    ∃ o ∈ c.childIn "operator", String.ofList (o.text bytes) = "describe" := by
  have hv := h.2.1
  rw [binary, inField_lowerAll] at hv
  split at hv
  · simp at hv
  · split at hv
    · simp at hv
    · cases ho : c.childIn "operator" with
      | none => simp [ho] at hv
      | some o => exact ⟨o, rfl, by simpa [ho, source_lower] using hv⟩

end Lowering

/-- No `describe` of a lowered tree has an empty first argument. -/
theorem describesGiven_toNode {bytes : List UInt8} {c : Concrete} (h : c.Regular bytes) :
    DescribesGiven (c.toNode bytes) := by
  refine Lowering.everywhere_toNode (Lowering.derived_of_isInert fun n hn hd =>
    absurd hd (not_describes_of_isInert hn)) fun d hdc => ⟨fun n hn hd => ?_, ?_⟩
  · obtain ⟨hkind, hop⟩ := h d hdc
    rcases Lowering.assemble_cases hn with hi | ⟨-, rfl⟩ | rfl | ⟨hk, rfl⟩ | rfl
    · exact absurd hd (not_describes_of_isInert hi)
    · exact Lowering.call_given hd
    · exact absurd hd.2.2.1 (by simp [Lowering.textNode])
    · obtain ⟨o, ho, htext⟩ := Lowering.describes_binary hd
      exact absurd htext (hop hk o ho)
    · exact absurd hd.1 hkind
  · exact fun _ => Lowering.send_given

def Concrete.beginsWithCall (bytes : List UInt8) (c : Concrete) : Bool :=
  (Lowering.nodes (Lowering.named (Lowering.lowerAll bytes c.children))).head?.any isCall

theorem Lowering.isStray_generic {bytes : List UInt8} {c : Concrete} :
    (generic bytes c (lowerAll bytes c.children)).isStray ↔
      c.kind = "block" ∧ ¬ c.beginsWithCall bytes := by
  rw [isStray, Bool.and_eq_true, beq_iff_eq, Concrete.beginsWithCall]
  cases h : nodes (named (lowerAll bytes c.children)) <;> simp [generic, slot, h]

/-- A stray block is what a concrete block outside of calls became. -/
theorem stray_toNode (bytes : List UInt8) (c : Concrete) :
    Everywhere (fun n => n.isStray → ∃ d ∈ c.nodes, d.kind = "block" ∧
      n = Lowering.generic bytes d (Lowering.lowerAll bytes d.children)) (c.toNode bytes) := by
  refine Lowering.everywhere_toNode (Lowering.derived_of_isInert fun n hn hs =>
    absurd hs (not_isStray_of_isInert hn)) fun d hdc => ⟨fun n hn hs => ?_, fun _ hs => ?_⟩
  · rcases Lowering.assemble_cases hn with hi | ⟨-, rfl⟩ | rfl | ⟨-, rfl⟩ | rfl
    · exact absurd hs (not_isStray_of_isInert hi)
    · exact absurd hs Lowering.not_isStray_call
    · exact absurd hs (by simp [Lowering.textNode, isStray])
    · exact absurd hs Lowering.not_isStray_binary
    · exact ⟨d, hdc, (Lowering.isStray_generic.mp hs).1, rfl⟩
  · exact absurd hs (not_isStray_iff.mpr fun hb => absurd hb (not_block_of_isCall Lowering.isCall_send))

theorem concrete_of_stray {bytes : List UInt8} {c : Concrete} {p : Position} {n : Node}
    (hn : slotAt (c.toNode bytes) p = some n) (hs : n.isStray) :
    ∃ d ∈ c.nodes, d.kind = "block" ∧ ¬ d.beginsWithCall bytes := by
  obtain ⟨d, hd, -, rfl⟩ := stray_toNode bytes c p n hn hs
  exact ⟨d, hd, Lowering.isStray_generic.mp hs⟩

end GroupLint
