import GroupLint.Proofs.Nesting

/-! How lowered nodes are laid out. Rules rely on the slots that a node of some kind has, and on its
value; lowering gives them to all nodes that it makes. Only what a binary operation became may leave
an argument slot empty, or hold a keyword that is in no hash. -/
namespace GroupLint
open Node

namespace Node

def prescribedKinds : List String := ["send", "csend", "pair", "const", "str", "sym", "dstr", "dsym"]

structure LaidOut (n : Node) : Prop where
  call : n.isCall → n.children ≠ [] ∧ n.value.isSome
  pair : n.kind = "pair" → n.children.length = 2
  const : n.kind = "const" → n.children.length = 1
  text : n.kind = "str" ∨ n.kind = "sym" → n.children = [] ∧ n.value.isSome
  interpolated : n.kind = "dstr" ∨ n.kind = "dsym" → n.value = none

/-- Only a receiver, a scope, a key or the value of a key is missing. -/
def Filled (n : Node) : Prop :=
  ∀ i, n.children[i]? = some none → (n.isCall ∧ i = 0) ∨ n.kind = "const" ∨ n.kind = "pair"

/-- No argument of a call is a keyword by itself. -/
def GroupsKeywords (n : Node) : Prop :=
  n.isCall → ∀ i m, 1 ≤ i → n.children[i]? = some (some m) → ¬ Lowering.isKeywordKind m.kind

structure Orderly (n : Node) : Prop where
  laidOut : n.LaidOut
  filled : n.Filled
  groups : n.GroupsKeywords

theorem filled_of_children {n : Node} {ns : List Node} (h : n.children = ns.map some) : n.Filled := by
  intro i hi
  simp [h] at hi

theorem groupsKeywords_of_not_isCall {n : Node} (h : ¬ n.isCall) : n.GroupsKeywords :=
  fun hc => absurd hc h

theorem orderly_of_kind {k : String} (hk : k ∉ prescribedKinds) (v : Option String) (s : Span)
    (ns : List Node) : (Node.mk k v s (ns.map some)).Orderly := by
  simp only [prescribedKinds, List.mem_cons, List.not_mem_nil, or_false, not_or] at hk
  have hcall : ¬ (Node.mk k v s (ns.map some)).isCall := by simp [isCall, isCallKind, hk]
  refine ⟨⟨fun hc => absurd hc hcall, ?_, ?_, ?_, ?_⟩, filled_of_children rfl,
    groupsKeywords_of_not_isCall hcall⟩ <;> simp [hk]

end Node

namespace Lowering

theorem not_isKeywordKind_of_mem_gather {run args : List Node} :
    ∀ n ∈ gather run args, ¬ isKeywordKind n.kind := by
  have hflush : ∀ run : List Node, ∀ n ∈ flush run, ¬ isKeywordKind n.kind := by
    intro run n hn
    cases run with
    | nil => simp [flush] at hn
    | cons first rest =>
      obtain rfl : n = keywordHash first rest := by simpa [flush] using hn
      simp [keywordHash, isKeywordKind]
  fun_induction gather run args with
  | case1 run => exact hflush run
  | case2 run a r hk ih => exact ih
  | case3 run a r hk ih =>
    exact List.forall_mem_append.mpr ⟨hflush run, List.forall_mem_cons.mpr ⟨hk, ih⟩⟩

variable {bytes : List UInt8} {c : Concrete} {ls : List Lowered}

theorem orderly_plain {k : String} (hk : k = "str" ∨ k = "sym") (v : String) (s : Span) :
    (Node.mk k (some v) s []).Orderly := by
  refine ⟨?_, by simp [Filled], by simp [GroupsKeywords]⟩
  rcases hk with rfl | rfl <;> constructor <;> simp [isCall, isCallKind]

theorem orderly_interpolated {k : String} (hk : k = "dstr" ∨ k = "dsym") (s : Span) {cs : List Slot}
    (hcs : none ∉ cs) : (Node.mk k none s cs).Orderly := by
  refine ⟨?_, fun i hi => absurd (List.mem_of_getElem? hi) hcs, ?_⟩
  · rcases hk with rfl | rfl <;> constructor <;> simp [isCall, isCallKind]
  · rcases hk with rfl | rfl <;> simp [GroupsKeywords, isCall, isCallKind]

theorem orderly_quotedNode {plain interpolated : String} (hplain : plain = "str" ∨ plain = "sym")
    (hinterpolated : interpolated = "dstr" ∨ interpolated = "dsym") :
    (quotedNode plain interpolated bytes c ls).Orderly := by
  rw [quotedNode]
  split
  · exact orderly_interpolated hinterpolated _ (by simp)
  · exact orderly_plain hplain _ _

theorem orderly_const (v : Option String) (s : Span) (scope : Slot) :
    (Node.mk "const" v s [scope]).Orderly := by
  refine ⟨?_, by simp [Filled], by simp [GroupsKeywords, isCall, isCallKind]⟩
  constructor <;> simp [isCall, isCallKind]

theorem orderly_pair : (pair c ls).Orderly := by
  refine ⟨?_, by simp [Filled, pair], by simp [GroupsKeywords, pair, isCall, isCallKind]⟩
  constructor <;> simp [pair, isCall, isCallKind]

theorem laidOut_of_isCall {n : Node} (h : n.isCall) (hc : n.children ≠ []) (hv : n.value.isSome) :
    n.LaidOut := by
  have hk : n.kind = "send" ∨ n.kind = "csend" := by simpa [isCall, isCallKind] using h
  refine ⟨fun _ => ⟨hc, hv⟩, ?_, ?_, ?_, ?_⟩ <;> rcases hk with hk | hk <;> simp [hk]

theorem orderly_of_isCall {k v : String} {s : Span} {receiver : Slot} (args : List Node)
    (h : (Node.mk k (some v) s (receiver :: args.map some)).isCall)
    (hargs : ∀ a ∈ args, ¬ isKeywordKind a.kind) :
    (Node.mk k (some v) s (receiver :: args.map some)).Orderly := by
  refine ⟨laidOut_of_isCall h (by simp) rfl, fun i hi => ?_, fun _ i m hi hm => ?_⟩
  · cases i with
    | zero => exact Or.inl ⟨h, rfl⟩
    | succ i => simp at hi
  · obtain ⟨j, rfl⟩ : ∃ j, i = j + 1 := ⟨i - 1, by omega⟩
    have hslot : some m ∈ args.map some := List.mem_of_getElem? hm
    exact hargs m (by simpa using hslot)

theorem not_isKeywordKind_of_mem_callArguments :
    ∀ a ∈ callArguments ls, ¬ isKeywordKind a.kind := by
  rw [callArguments]
  cases inField "arguments" ls with
  | none => simp
  | some l => exact not_isKeywordKind_of_mem_gather

theorem orderly_send : (send bytes c ls).Orderly :=
  orderly_of_isCall _ isCall_send not_isKeywordKind_of_mem_callArguments

theorem orderly_call : (call bytes c ls).Orderly := by
  rw [call]
  cases inField "block" ls with
  | none => exact orderly_send
  | some b => exact orderly_of_kind (by decide) none c.span (send bytes c ls :: b.body)

theorem binary_cases : ((binary bytes c ls).kind = "and" ∨ (binary bytes c ls).kind = "or" ∨
    (binary bytes c ls).kind = "send") ∧ (binary bytes c ls).LaidOut := by
  rw [binary]
  split
  · exact ⟨Or.inl rfl, by constructor <;> simp [isCall, isCallKind]⟩
  · split
    · exact ⟨Or.inr (Or.inl rfl), by constructor <;> simp [isCall, isCallKind]⟩
    · exact ⟨Or.inr (Or.inr rfl), laidOut_of_isCall rfl (by simp) rfl⟩

def loweredKinds : List String := ["send", "csend", "const", "str", "dstr", "sym", "dsym"]

theorem orderly_or_binary (hc : c.kind ∉ loweredKinds) {n : Node} (h : assemble bytes c ls = some n) :
    n.Orderly ∨ (c.kind = "binary" ∧ n = binary bytes c ls) := by
  rw [assemble] at h
  split at h
  · cases h
  · obtain rfl := Option.some.inj h
    split
    · exact Or.inl (orderly_of_kind (by decide) _ _ _)
    · exact Or.inl orderly_call
    · exact Or.inl (orderly_of_isCall [] rfl (by simp))
    · exact Or.inl (orderly_const _ _ _)
    · exact Or.inl (orderly_const _ _ _)
    · exact Or.inl (orderly_quotedNode (by simp) (by simp))
    · exact Or.inl (orderly_quotedNode (by simp) (by simp))
    · exact Or.inl (orderly_plain (by simp) _ _)
    · exact Or.inl (orderly_plain (by simp) _ _)
    · exact Or.inl (orderly_of_kind (by decide) _ _ _)
    · exact Or.inl orderly_pair
    · next hk => exact Or.inr ⟨hk, rfl⟩
    · -- A kind that is kept is neither reserved nor that of a pair.
      refine Or.inl (orderly_of_kind ?_ _ _ _)
      simp_all [loweredKinds, prescribedKinds]

end Lowering

def Concrete.HasOperation (bytes : List UInt8) (c : Concrete) (n : Node) : Prop :=
  ∃ d ∈ c.nodes, d.kind = "binary" ∧ d.toNode bytes = some n

namespace Lowering
variable {bytes : List UInt8} {c : Concrete}

theorem toNode_of_binary {d : Concrete} (hd : d.kind = "binary") :
    d.toNode bytes = some (binary bytes d (lowerAll bytes d.children)) := by
  obtain ⟨k, n, f, x, e, m, cs⟩ := d
  obtain rfl : k = "binary" := hd
  rfl

theorem kind_of_hasOperation {n : Node} (h : c.HasOperation bytes n) :
    n.kind = "and" ∨ n.kind = "or" ∨ n.kind = "send" := by
  obtain ⟨d, -, hk, hn⟩ := h
  rw [toNode_of_binary hk] at hn
  obtain rfl := Option.some.inj hn
  exact binary_cases.1

theorem orderly_asSymbol {n : Node} (h : n.LaidOut ∧ (c.HasOperation bytes n ∨ n.Orderly)) :
    (asSymbol n).LaidOut ∧ (c.HasOperation bytes (asSymbol n) ∨ (asSymbol n).Orderly) := by
  have hsame := h
  obtain ⟨hlaid, horigin⟩ := h
  rw [asSymbol]
  split
  · next hk =>
    rw [beq_iff_eq] at hk
    have hfilled : none ∉ n.children := by
      intro hnone
      obtain ⟨i, hi⟩ := List.getElem?_of_mem hnone
      rcases horigin with hop | hn
      · have hop := kind_of_hasOperation hop
        simp [hk] at hop
      · have hslot := hn.filled i hi
        simp [hk, isCall, isCallKind] at hslot
    have hsym := orderly_interpolated (Or.inr rfl) n.span hfilled
    exact ⟨hsym.laidOut, Or.inr hsym⟩
  · split
    · next hk =>
      rw [beq_iff_eq] at hk
      obtain ⟨v, hv⟩ := Option.isSome_iff_exists.mp (hlaid.text (Or.inl hk)).2
      rw [hv]
      have hsym := orderly_plain (Or.inr rfl) v n.span
      exact ⟨hsym.laidOut, Or.inr hsym⟩
    · exact hsame

end Lowering

/-- Every node of a lowered tree has the slots and the value of its kind. No call of the source keeps
a keyword outside of a hash, and only what a binary operation became holds one or leaves empty a slot
that may not be. -/
theorem toNode_laidOut (bytes : List UInt8) (c : Concrete)
    (h : ∀ d ∈ c.nodes, d.kind ∉ Lowering.loweredKinds) :
    Everywhere LaidOut (c.toNode bytes) ∧
      (∀ d ∈ c.nodes, d.kind = "call" →
        (Lowering.send bytes d (Lowering.lowerAll bytes d.children)).GroupsKeywords) ∧
      Everywhere (fun n => c.HasOperation bytes n ∨ n.GroupsKeywords) (c.toNode bytes) ∧
      Everywhere (fun n => c.HasOperation bytes n ∨ n.Filled) (c.toNode bytes) := by
  have hderived : Lowering.Derived fun n => n.LaidOut ∧ (c.HasOperation bytes n ∨ n.Orderly) := by
    refine ⟨fun first rest => ?_, fun span => ?_, fun n hn => Lowering.orderly_asSymbol hn⟩
    · have hhash : (Lowering.keywordHash first rest).Orderly := orderly_of_kind (by decide) _ _ _
      exact ⟨hhash.laidOut, Or.inr hhash⟩
    · have hbase : (Node.mk "cbase" none span []).Orderly := orderly_of_kind (by decide) _ _ []
      exact ⟨hbase.laidOut, Or.inr hbase⟩
  have hall : Everywhere (fun n => n.LaidOut ∧ (c.HasOperation bytes n ∨ n.Orderly))
      (c.toNode bytes) := by
    refine Lowering.everywhere_toNode hderived fun d hd => ⟨fun n hn => ?_, fun _ => ?_⟩
    · rcases Lowering.orderly_or_binary (h d hd) hn with hn | ⟨hk, rfl⟩
      · exact ⟨hn.laidOut, Or.inr hn⟩
      · exact ⟨Lowering.binary_cases.2, Or.inl ⟨d, hd, hk, Lowering.toNode_of_binary hk⟩⟩
    · exact ⟨Lowering.orderly_send.laidOut, Or.inr Lowering.orderly_send⟩
  refine ⟨fun p n hn => (hall p n hn).1, fun d _ _ => Lowering.orderly_send.groups,
    fun p n hn => ?_, fun p n hn => ?_⟩
  · exact (hall p n hn).2.imp_right Orderly.groups
  · exact (hall p n hn).2.imp_right Orderly.filled

theorem toNode_laidOut_callOverLines :
    let bytes := Text.Utf8.encode "a ::B, c: 1,\n \"d\": 2 do\n  e + f\nend".toList
    (∀ d ∈ callOverLines.nodes, d.kind ∉ Lowering.loweredKinds) ∧
      Everywhere LaidOut (callOverLines.toNode bytes) ∧
      Everywhere (fun n => callOverLines.HasOperation bytes n ∨ n.Filled)
        (callOverLines.toNode bytes) ∧
      ∃ d ∈ callOverLines.nodes, d.kind = "call" ∧
        (Lowering.send bytes d (Lowering.lowerAll bytes d.children)).children.length = 3 ∧
        (Lowering.send bytes d (Lowering.lowerAll bytes d.children)).GroupsKeywords := by
  intro bytes
  have hkinds : ∀ d ∈ callOverLines.nodes, d.kind ∉ Lowering.loweredKinds := by decide
  obtain ⟨hlaid, hcalls, -, hfilled⟩ := toNode_laidOut bytes callOverLines hkinds
  obtain ⟨d, hd, hk, hlength⟩ : ∃ d ∈ callOverLines.nodes, d.kind = "call" ∧
      (Lowering.send bytes d (Lowering.lowerAll bytes d.children)).children.length = 3 := by
    decide +kernel
  exact ⟨hkinds, hlaid, hfilled, d, hd, hk, hlength, hcalls d hd hk⟩

end GroupLint
