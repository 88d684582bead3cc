import GroupLint.Syntax.Lowering
import GroupLint.Proofs.Position

/-! Properties of every node of a lowered tree. Lowering makes a node for each concrete node that it
keeps, the call in each block, the hash over a run of keywords, the root of a path and the symbol for
a key; what holds of all of these holds everywhere. -/
namespace GroupLint
open Node

namespace Concrete

mutual

def nodes : Concrete → List Concrete
  | mk k n f x e m cs => mk k n f x e m cs :: nodesIn cs

def nodesIn : List Concrete → List Concrete
  | [] => []
  | c :: r => c.nodes ++ nodesIn r

end

theorem mem_nodes_self (c : Concrete) : c ∈ c.nodes := by
  cases c
  exact List.mem_cons_self

end Concrete

namespace Lowering

structure Lowered.Has (P : Node → Prop) (l : Lowered) : Prop where
  node : Everywhere P l.node
  parts : ∀ n ∈ l.parts, Everywhere P (some n)
  body : ∀ n ∈ l.body, Everywhere P (some n)

structure Derived (P : Node → Prop) : Prop where
  hash : ∀ first rest, P (keywordHash first rest)
  base : ∀ span, P (.mk "cbase" none span [])
  symbol : ∀ n, P n → P (asSymbol n)

structure Made (P : Node → Prop) (bytes : List UInt8) (c : Concrete) (ls : List Lowered) : Prop where
  node : ∀ n, assemble bytes c ls = some n → P n
  send : c.kind = "call" → P (send bytes c ls)

section Step
variable {P : Node → Prop} {ls : List Lowered} (hls : ∀ l ∈ ls, l.Has P)
include hls

theorem has_of_inField {name : String} {l : Lowered} (h : inField name ls = some l) : l.Has P :=
  hls l (List.mem_of_find?_eq_some h)

theorem everywhere_nodeIn (name : String) : Everywhere P (nodeIn name ls) := by
  rw [nodeIn]
  cases h : inField name ls with
  | none => exact everywhere_none P
  | some l => exact (has_of_inField hls h).node

theorem everywhere_named : ∀ n ∈ nodes (named ls), Everywhere P (some n) := by
  intro n hn
  obtain ⟨l, hl, hln⟩ := List.mem_filterMap.mp hn
  have h := (hls l (List.mem_of_mem_filter hl)).node
  rwa [hln] at h

theorem everywhere_statements : ∀ n ∈ statements ls, Everywhere P (some n) := by
  intro n hn
  obtain ⟨l, hl, hn⟩ := List.mem_flatMap.mp hn
  have hl := hls l (List.mem_of_mem_filter hl)
  split at hn
  · exact hl.parts n hn
  · have h := hl.node
    rwa [Option.mem_toList.mp hn] at h

omit hls in
theorem everywhere_gather (hash : ∀ first rest, P (keywordHash first rest)) {run args : List Node}
    (hrun : ∀ n ∈ run, Everywhere P (some n)) (hargs : ∀ n ∈ args, Everywhere P (some n)) :
    ∀ n ∈ gather run args, Everywhere P (some n) := by
  have hflush : ∀ {run : List Node}, (∀ n ∈ run, Everywhere P (some n)) →
      ∀ n ∈ flush run, Everywhere P (some n) := by
    intro run hrun n hn
    cases run with
    | nil => simp [flush] at hn
    | cons first rest =>
      obtain rfl : n = keywordHash first rest := by simpa [flush] using hn
      refine everywhere_some_iff.mpr ⟨hash first rest, fun s hs => ?_⟩
      obtain ⟨m, hm, rfl⟩ := List.mem_map.mp hs
      exact hrun m hm
  fun_induction gather run args with
  | case1 run => exact hflush hrun
  | case2 run a r hk ih =>
    obtain ⟨ha, hr⟩ := List.forall_mem_cons.mp hargs
    exact ih (List.forall_mem_append.mpr ⟨hrun, by simpa using ha⟩) hr
  | case3 run a r hk ih =>
    obtain ⟨ha, hr⟩ := List.forall_mem_cons.mp hargs
    exact List.forall_mem_append.mpr ⟨hflush hrun, List.forall_mem_cons.mpr ⟨ha, ih (by simp) hr⟩⟩

variable {bytes : List UInt8} {c : Concrete}

theorem everywhere_send (hash : ∀ first rest, P (keywordHash first rest))
    (hsend : P (send bytes c ls)) : Everywhere P (some (send bytes c ls)) := by
  have hargs : ∀ n ∈ callArguments ls, Everywhere P (some n) := by
    rw [callArguments]
    cases h : inField "arguments" ls with
    | none => simp
    | some a => exact everywhere_gather hash (by simp) (has_of_inField hls h).parts
  refine everywhere_some_iff.mpr ⟨hsend, ?_⟩
  rw [send, children_mk, List.forall_mem_cons]
  refine ⟨everywhere_nodeIn hls "receiver", fun s hs => ?_⟩
  obtain ⟨n, hn, rfl⟩ := List.mem_map.mp hs
  exact hargs n hn

theorem slots_call (hash : ∀ first rest, P (keywordHash first rest)) (hsend : P (send bytes c ls)) :
    ∀ s ∈ (call bytes c ls).children, Everywhere P s := by
  have hs := everywhere_send hls hash hsend
  rw [call]
  cases h : inField "block" ls with
  | none => exact (everywhere_some_iff.mp hs).2
  | some b =>
    rw [children_mk, List.forall_mem_cons]
    refine ⟨hs, fun s hs => ?_⟩
    obtain ⟨n, hn, rfl⟩ := List.mem_map.mp hs
    exact (has_of_inField hls h).body n hn

theorem everywhere_scopeSlot (base : ∀ span, P (.mk "cbase" none span [])) :
    Everywhere P (scopeSlot c ls) := by
  rw [scopeSlot]
  cases h : inField "scope" ls with
  | none => exact everywhere_some_iff.mpr ⟨base _, by simp⟩
  | some l => exact (has_of_inField hls h).node

omit hls in
theorem everywhere_asSymbol (symbol : ∀ n, P n → P (asSymbol n)) {n : Node}
    (h : Everywhere P (some n)) : Everywhere P (some (asSymbol n)) := by
  obtain ⟨hn, hcs⟩ := everywhere_some_iff.mp h
  refine everywhere_some_iff.mpr ⟨symbol n hn, ?_⟩
  rw [asSymbol]
  split
  · exact hcs
  · split
    · simp
    · exact hcs

theorem everywhere_keySlot (symbol : ∀ n, P n → P (asSymbol n)) : Everywhere P (keySlot c ls) := by
  rw [keySlot]
  cases h : inField "key" ls with
  | none => exact everywhere_none P
  | some k =>
    have hk := (has_of_inField hls h).node
    dsimp only
    split
    · cases hn : k.node with
      | none => exact everywhere_none P
      | some n =>
        rw [hn] at hk
        exact everywhere_asSymbol symbol hk
    · exact hk

theorem slots_quotedNode (plain interpolated : String) :
    ∀ s ∈ (quotedNode plain interpolated bytes c ls).children, Everywhere P s := by
  rw [quotedNode]
  split
  · simpa using everywhere_named hls
  · simp

theorem slots_binary : ∀ s ∈ (binary bytes c ls).children, Everywhere P s := by
  have hoperands : ∀ s ∈ [nodeIn "left" ls, nodeIn "right" ls], Everywhere P s := by
    simp [everywhere_nodeIn hls]
  rw [binary]
  split
  · exact hoperands
  · split
    · exact hoperands
    · exact hoperands

theorem everywhere_assemble (hd : Derived P) (hm : Made P bytes c ls) :
    Everywhere P (assemble bytes c ls) := by
  have hnamed : ∀ s ∈ (nodes (named ls)).map some, Everywhere P s := by
    simpa using everywhere_named hls
  have hempty : ∀ s ∈ ([] : List Slot), Everywhere P s := by simp
  have hnone : ∀ s ∈ ([none] : List Slot), Everywhere P s := by simpa using everywhere_none P
  have hmade := hm.node
  rw [assemble] at hmade ⊢
  split
  · exact everywhere_none P
  · next hskip =>
    refine everywhere_some_iff.mpr ⟨hmade _ (if_neg hskip), ?_⟩
    split
    · exact hnamed
    · next hk => exact slots_call hls hd.hash (hm.send hk)
    · exact hnone
    · exact hnone
    · simpa [scopeResolution] using everywhere_scopeSlot hls hd.base
    · exact slots_quotedNode hls "str" "dstr"
    · exact slots_quotedNode hls "sym" "dsym"
    · exact hempty
    · exact hempty
    · exact hnamed
    · simpa [pair] using ⟨everywhere_keySlot hls hd.symbol, everywhere_nodeIn hls "value"⟩
    · exact slots_binary hls
    · exact hnamed

theorem assembled_has (hd : Derived P) (hm : Made P bytes c ls) : (assembled bytes c ls).Has P :=
  ⟨everywhere_assemble hls hd hm, everywhere_named hls, everywhere_statements hls⟩

end Step

mutual

theorem lower_has {P : Node → Prop} (hd : Derived P) (bytes : List UInt8) : ∀ c : Concrete,
    (∀ d ∈ c.nodes, Made P bytes d (lowerAll bytes d.children)) → (lower bytes c).Has P
  | .mk k n f x e m cs, h => by
    rw [Concrete.nodes, List.forall_mem_cons] at h
    -- The node itself is made from children that have the property by induction.
    exact assembled_has (lowerAll_has hd bytes cs h.2) hd h.1

theorem lowerAll_has {P : Node → Prop} (hd : Derived P) (bytes : List UInt8) : ∀ cs : List Concrete,
    (∀ d ∈ Concrete.nodesIn cs, Made P bytes d (lowerAll bytes d.children)) →
    ∀ l ∈ lowerAll bytes cs, l.Has P
  | [], _ => by simp [lowerAll]
  | c :: r, h => by
    rw [Concrete.nodesIn, List.forall_mem_append] at h
    rw [lowerAll, List.forall_mem_cons]
    exact ⟨lower_has hd bytes c h.1, lowerAll_has hd bytes r h.2⟩

end

/-- What holds of every node made holds everywhere in the tree. -/
theorem everywhere_toNode {P : Node → Prop} (hd : Derived P) {bytes : List UInt8} {c : Concrete}
    (h : ∀ d ∈ c.nodes, Made P bytes d (lowerAll bytes d.children)) :
    Everywhere P (c.toNode bytes) :=
  (lower_has hd bytes c h).node

end Lowering
end GroupLint
