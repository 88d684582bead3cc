import GroupLint.Proofs.LoweredCalls
import Mathlib.Tactic.MkIffOfInductiveProp

/-! Source order. In a concrete tree whose nodes hold their children one after the other, and whose
fields come in the order in which they are read, lowering puts the nodes in pre-order by where they
start. -/
namespace GroupLint
open Node

namespace Concrete

/-- Fields as far as they are present, told by the first child in each, come in the given order. -/
def FieldsInOrder (names : List String) (c : Concrete) : Prop :=
  (names.filterMap fun name => c.children.findIdx? (·.field == some name)).Pairwise (· < ·)

/-- A node holds its children one after the other, and the fields that are read from it are in order. -/
@[mk_iff]
structure HoldsInOrder (c : Concrete) : Prop where
  ends : c.extent.start ≤ c.extent.stop
  within : ∀ d ∈ c.children, c.extent.start ≤ d.extent.start ∧ d.extent.stop ≤ c.extent.stop
  apart : c.children.IsChain fun d e => d.extent.stop ≤ e.extent.start
  call : c.kind = "call" → c.FieldsInOrder ["receiver", "method", "arguments", "block"] ∧
    ∃ name ∈ ["receiver", "method", "arguments"], (c.childIn name).isSome
  pair : c.kind = "pair" → c.FieldsInOrder ["key", "value"]
  binary : c.kind = "binary" → c.FieldsInOrder ["left", "right"]

def SpanOrdered (c : Concrete) : Prop := ∀ d ∈ c.nodes, d.HoldsInOrder

instance (names : List String) (c : Concrete) : Decidable (c.FieldsInOrder names) :=
  inferInstanceAs (Decidable (List.Pairwise _ _))

instance (c : Concrete) : Decidable c.HoldsInOrder := decidable_of_iff' _ (holdsInOrder_iff c)

instance (c : Concrete) : Decidable c.SpanOrdered := inferInstanceAs (Decidable (∀ d ∈ c.nodes, _))

theorem mem_nodesIn_of_mem {c : Concrete} {cs : List Concrete} (h : c ∈ cs) : c ∈ nodesIn cs := by
  induction cs with
  | nil => simp at h
  | cons d cs ih =>
    rw [nodesIn, List.mem_append]
    rcases List.mem_cons.mp h with rfl | h
    · exact Or.inl c.mem_nodes_self
    · exact Or.inr (ih h)

theorem pairwise_apart {cs : List Concrete} (hends : ∀ d ∈ cs, d.extent.start ≤ d.extent.stop)
    (h : cs.IsChain fun d e => d.extent.stop ≤ e.extent.start) :
    cs.Pairwise fun d e => d.extent.stop ≤ e.extent.start := by
  induction cs with
  | nil => exact .nil
  | cons d cs ih =>
    have hrest := ih (fun e he => hends e (List.mem_cons_of_mem d he)) h.of_cons
    refine List.pairwise_cons.mpr ⟨fun e he => ?_, hrest⟩
    cases cs with
    | nil => simp at he
    | cons f cs =>
      have hdf : d.extent.stop ≤ f.extent.start := (List.isChain_cons_cons.mp h).1
      have hf := hends f (by simp)
      rcases List.mem_cons.mp he with rfl | he
      · exact hdf
      · have hfe := (List.pairwise_cons.mp hrest).1 e he
        omega

theorem childIn_index {name : String} {c d : Concrete} (h : c.childIn name = some d) :
    ∃ i, c.children.findIdx? (·.field == some name) = some i ∧ c.children[i]? = some d := by
  obtain ⟨hd, i, hi, rfl, hbefore⟩ := List.find?_eq_some_iff_getElem.mp h
  refine ⟨i, List.findIdx?_eq_some_iff_getElem.mpr ⟨hi, hd, fun j hj => ?_⟩, List.getElem?_eq_getElem hi⟩
  simpa using hbefore j hj

theorem stop_le_start_of_fields {c d e : Concrete}
    (hc : c.children.Pairwise fun d e => d.extent.stop ≤ e.extent.start) {names : List String}
    (hnames : c.FieldsInOrder names) {name name' : String} (hsub : [name, name'].Sublist names)
    (hd : c.childIn name = some d) (he : c.childIn name' = some e) :
    d.extent.stop ≤ e.extent.start := by
  obtain ⟨i, hi, hdi⟩ := childIn_index hd
  obtain ⟨j, hj, hej⟩ := childIn_index he
  have hij : i < j := by
    have h := hnames.sublist (hsub.filterMap _)
    simpa [hi, hj] using h
  obtain ⟨hilt, rfl⟩ := List.getElem?_eq_some_iff.mp hdi
  obtain ⟨hjlt, rfl⟩ := List.getElem?_eq_some_iff.mp hej
  exact List.pairwise_iff_getElem.mp hc i j hilt hjlt hij

end Concrete

namespace Node

mutual

def starts : Node → List Int
  | .mk _ _ s cs => s.start :: startsIn cs

def startsIn : List Slot → List Int
  | [] => []
  | none :: r => startsIn r
  | some n :: r => starts n ++ startsIn r

end

def startsOf (s : Slot) : List Int := (s.map starts).getD []

theorem starts_eq (n : Node) : n.starts = n.span.start :: startsIn n.children := by
  cases n
  rw [starts, span, children]

theorem startsIn_eq_flatMap (cs : List Slot) : startsIn cs = cs.flatMap startsOf := by
  induction cs with
  | nil => rfl
  | cons s cs ih => cases s <;> simp [startsIn, startsOf, ih]

theorem child_of_slotAt {m n : Node} {i : Nat} {p : Position} (h : slotAt (some m) (i :: p) = some n) :
    ∃ c, m.children[i]? = some (some c) ∧ slotAt (some c) p = some n := by
  rw [slotAt_cons] at h
  cases hslot : m.slot i with
  | none => simp [hslot] at h
  | some c => exact ⟨c, slot_eq_some_iff.mp hslot, by rwa [hslot] at h⟩

theorem start_mem_startsOf {s : Slot} {p : Position} {n : Node} (h : slotAt s p = some n) :
    n.span.start ∈ startsOf s := by
  induction p generalizing s with
  | nil =>
    obtain rfl : s = some n := by simpa using h
    simp [startsOf, starts_eq]
  | cons i p ih =>
    cases s with
    | none => simp at h
    | some m =>
      obtain ⟨c, hc, hn⟩ := child_of_slotAt h
      rw [startsOf, Option.map_some, Option.getD_some, starts_eq, startsIn_eq_flatMap]
      exact List.mem_cons_of_mem _ (List.mem_flatMap.mpr ⟨some c, List.mem_of_getElem? hc, ih hn⟩)

theorem startsOf_some_sorted_iff {n : Node} :
    (startsOf (some n)).Pairwise (· ≤ ·) ↔
      (∀ s ∈ n.children, ∀ x ∈ startsOf s, n.span.start ≤ x) ∧
      (∀ s ∈ n.children, (startsOf s).Pairwise (· ≤ ·)) ∧
      n.children.Pairwise fun s t => ∀ x ∈ startsOf s, ∀ y ∈ startsOf t, x ≤ y := by
  rw [startsOf, Option.map_some, Option.getD_some, starts_eq, startsIn_eq_flatMap, List.pairwise_cons,
    List.pairwise_flatMap]
  simp only [List.mem_flatMap, forall_exists_index, and_imp]
  constructor
  · rintro ⟨hall, hrest⟩
    exact ⟨fun s hs x hx => hall x s hs hx, hrest⟩
  · rintro ⟨hall, hrest⟩
    exact ⟨fun x s hs hx => hall s hs x hx, hrest⟩

/-- Of two positions in pre-order, the first does not start later. -/
theorem start_le_of_before {s : Slot} (hs : (startsOf s).Pairwise (· ≤ ·)) {p q : Position} {m n : Node}
    (hpq : Position.Before p q) (hm : slotAt s p = some m) (hn : slotAt s q = some n) :
    m.span.start ≤ n.span.start := by
  -- A node before what is below it, then two places below one child, then below two children.
  induction hpq generalizing s with
  | @nil j q =>
    obtain rfl : s = some m := by simpa using hm
    obtain ⟨c, hc, hn⟩ := child_of_slotAt hn
    exact (startsOf_some_sorted_iff.mp hs).1 _ (List.mem_of_getElem? hc) _ (start_mem_startsOf hn)
  | @cons i p q h ih =>
    cases s with
    | none => simp at hm
    | some k =>
      obtain ⟨c, hc, hm⟩ := child_of_slotAt hm
      obtain ⟨c', hc', hn⟩ := child_of_slotAt hn
      obtain rfl : c = c' := by simpa [hc] using hc'
      exact ih ((startsOf_some_sorted_iff.mp hs).2.1 _ (List.mem_of_getElem? hc)) hm hn
  | @rel i p j q h =>
    cases s with
    | none => simp at hm
    | some k =>
      obtain ⟨c, hc, hm⟩ := child_of_slotAt hm
      obtain ⟨d, hd, hn⟩ := child_of_slotAt hn
      obtain ⟨hi, hci⟩ := List.getElem?_eq_some_iff.mp hc
      obtain ⟨hj, hdj⟩ := List.getElem?_eq_some_iff.mp hd
      have hrow := List.pairwise_iff_getElem.mp (startsOf_some_sorted_iff.mp hs).2.2 i j hi hj h
      rw [hci, hdj] at hrow
      exact hrow _ (start_mem_startsOf hm) _ (start_mem_startsOf hn)

end Node

structure SortedWithin (lo hi : Int) (l : List Int) : Prop where
  sorted : l.Pairwise (· ≤ ·)
  bounds : ∀ x ∈ l, lo ≤ x ∧ x ≤ hi

namespace SortedWithin
variable {lo hi : Int} {l r : List Int}

theorem nil : SortedWithin lo hi [] := ⟨.nil, by simp⟩

theorem cons (hle : lo ≤ hi) (h : SortedWithin lo hi l) : SortedWithin lo hi (lo :: l) := by
  refine ⟨List.pairwise_cons.mpr ⟨fun x hx => (h.bounds x hx).1, h.sorted⟩, ?_⟩
  exact List.forall_mem_cons.mpr ⟨⟨Int.le_refl lo, hle⟩, h.bounds⟩

theorem append (hl : SortedWithin lo hi l) (hr : SortedWithin lo hi r)
    (hlr : ∀ x ∈ l, ∀ y ∈ r, x ≤ y) : SortedWithin lo hi (l ++ r) :=
  ⟨List.pairwise_append.mpr ⟨hl.sorted, hr.sorted, hlr⟩,
    List.forall_mem_append.mpr ⟨hl.bounds, hr.bounds⟩⟩

theorem sublist (h : SortedWithin lo hi l) (hr : r.Sublist l) : SortedWithin lo hi r :=
  ⟨h.sorted.sublist hr, fun x hx => h.bounds x (hr.subset hx)⟩

theorem widen (h : SortedWithin lo hi l) {lo' hi' : Int} (hlo : lo' ≤ lo) (hhi : hi ≤ hi') :
    SortedWithin lo' hi' l := by
  refine ⟨h.sorted, fun x hx => ?_⟩
  have hx := h.bounds x hx
  omega

theorem double {x : Int} (h : SortedWithin lo hi (l ++ x :: r)) :
    SortedWithin lo hi (l ++ x :: x :: r) := by
  obtain ⟨hl, hr, hlr⟩ := List.pairwise_append.mp h.sorted
  have hx := (List.pairwise_cons.mp hr).1
  refine ⟨List.pairwise_append.mpr ⟨hl, List.pairwise_cons.mpr ⟨?_, hr⟩, ?_⟩, fun y hy => ?_⟩
  · exact List.forall_mem_cons.mpr ⟨Int.le_refl x, hx⟩
  · intro y hy z hz
    exact hlr y hy z (by simpa using hz)
  · exact h.bounds y (by simpa using hy)

theorem flatMap {α : Type} {xs : List α} {extent : α → Extent} {f : α → List Int}
    (hf : ∀ x ∈ xs, SortedWithin (extent x).start (extent x).stop (f x))
    (hwithin : ∀ x ∈ xs, lo ≤ (extent x).start ∧ (extent x).stop ≤ hi)
    (hapart : xs.Pairwise fun x y => (extent x).stop ≤ (extent y).start) :
    SortedWithin lo hi (xs.flatMap f) := by
  refine ⟨List.pairwise_flatMap.mpr ⟨fun x hx => (hf x hx).sorted, ?_⟩, fun a ha => ?_⟩
  · -- The end of one extent and the start of a later one stand between their entries.
    refine hapart.imp_of_mem fun {x y} hx hy hxy a ha b hb => ?_
    have ha := (hf x hx).bounds a ha
    have hb := (hf y hy).bounds b hb
    omega
  · obtain ⟨x, hx, ha⟩ := List.mem_flatMap.mp ha
    have ha := (hf x hx).bounds a ha
    have hx := hwithin x hx
    omega

end SortedWithin

namespace Lowering

theorem startsIn_map_some (ns : List Node) : startsIn (ns.map some) = ns.flatMap starts := by
  rw [startsIn_eq_flatMap, List.flatMap_map]
  rfl

theorem sortedWithin_gather {lo hi : Int} (before : List Int) (run args : List Node)
    (h : SortedWithin lo hi (before ++ (run ++ args).flatMap starts)) :
    SortedWithin lo hi (before ++ (gather run args).flatMap starts) := by
  -- A hash starts where the first of its run starts; no other start is added.
  have hflush : ∀ (before : List Int) (run : List Node) (after : List Int),
      SortedWithin lo hi (before ++ (run.flatMap starts ++ after)) →
      SortedWithin lo hi (before ++ ((flush run).flatMap starts ++ after)) := by
    intro before run after h
    cases run with
    | nil => exact h
    | cons first rest =>
      have hhash : (keywordHash first rest).starts =
          first.span.start :: (first :: rest).flatMap starts := by
        rw [keywordHash, starts, startsIn_map_some]
      simp only [flush, hhash, List.flatMap_cons, List.flatMap_nil, List.append_nil, starts_eq first,
        List.cons_append] at h ⊢
      exact h.double
  fun_induction gather run args generalizing before with
  | case1 run =>
    have h := hflush before run [] (by simpa using h)
    simpa using h
  | case2 run a r hk ih =>
    exact ih before (by simpa using h)
  | case3 run a r hk ih =>
    have hrest := ih (before ++ run.flatMap starts ++ a.starts) (by simpa using h)
    have hall := hflush before run (a.starts ++ (gather [] r).flatMap starts) (by simpa using hrest)
    simpa using hall

theorem starts_asSymbol (n : Node) : (asSymbol n).starts.Sublist n.starts := by
  rw [asSymbol]
  split
  · rw [starts, starts_eq]
  · split
    · rw [starts, starts_eq]
      exact List.Sublist.cons_cons _ (List.nil_sublist _)
    · exact List.Sublist.refl _

structure Lowered.InOrder (l : Lowered) : Prop where
  node : SortedWithin l.source.extent.start l.source.extent.stop (startsOf l.node)
  parts : SortedWithin l.source.extent.start l.source.extent.stop (l.parts.flatMap starts)
  body : SortedWithin l.source.extent.start l.source.extent.stop (l.body.flatMap starts)

def fieldStarts (name : String) (f : Lowered → List Int) (ls : List Lowered) : List Int :=
  ((inField name ls).map f).getD []

theorem mem_fieldStarts {name : String} {f : Lowered → List Int} {ls : List Lowered} {x : Int} :
    x ∈ fieldStarts name f ls ↔ ∃ l, inField name ls = some l ∧ x ∈ f l := by
  cases h : inField name ls <;> simp [fieldStarts, h]

theorem startsOf_nodeIn (name : String) (ls : List Lowered) :
    startsOf (nodeIn name ls) = fieldStarts name (fun l => startsOf l.node) ls := by
  cases h : inField name ls <;> simp [nodeIn, fieldStarts, h, startsOf]

theorem starts_callArguments (ls : List Lowered) :
    (callArguments ls).flatMap starts =
      fieldStarts "arguments" (fun l => (groupKeywords l.parts).flatMap starts) ls := by
  cases h : inField "arguments" ls <;> simp [callArguments, fieldStarts, h]

theorem starts_nodes (ls : List Lowered) :
    (nodes ls).flatMap starts = ls.flatMap fun l => startsOf l.node := by
  rw [nodes]
  induction ls with
  | nil => rfl
  | cons l ls ih => cases h : l.node <;> simp [h, startsOf, ih]

theorem starts_statements (ls : List Lowered) :
    (statements ls).flatMap starts = (named ls).flatMap fun l =>
      if isBodyWrapper l.source.kind then l.parts.flatMap starts else startsOf l.node := by
  rw [statements, List.flatMap_assoc]
  congr 1
  funext l
  split
  · rfl
  · cases l.node <;> simp [startsOf]

theorem starts_send (bytes : List UInt8) (c : Concrete) (ls : List Lowered) :
    (send bytes c ls).starts = c.extent.start ::
      (fieldStarts "receiver" (fun l => startsOf l.node) ls ++
        fieldStarts "arguments" (fun l => (groupKeywords l.parts).flatMap starts) ls) := by
  rw [send, starts, startsIn_eq_flatMap, List.flatMap_cons, ← startsIn_eq_flatMap, startsIn_map_some,
    startsOf_nodeIn, starts_callArguments]
  rfl

theorem startsOf_keySlot (c : Concrete) (ls : List Lowered) :
    (startsOf (keySlot c ls)).Sublist (fieldStarts "key" (fun l => startsOf l.node) ls) := by
  rw [keySlot, fieldStarts]
  cases inField "key" ls with
  | none => exact List.Sublist.refl _
  | some k =>
    dsimp only
    split
    · cases h : k.node with
      | none => simp [startsOf, h]
      | some n => simpa [startsOf, h] using starts_asSymbol n
    · exact List.Sublist.refl _

section Step
variable {bytes : List UInt8} {c : Concrete} (hc : c.HoldsInOrder)
  (hcs : ∀ d ∈ c.children, d.HoldsInOrder) (ih : ∀ l ∈ lowerAll bytes c.children, l.InOrder)

include hc

theorem extent_lowerAll : ∀ l ∈ lowerAll bytes c.children,
    c.extent.start ≤ l.source.extent.start ∧ l.source.extent.stop ≤ c.extent.stop := by
  intro l hl
  rw [lowerAll_eq_map] at hl
  obtain ⟨d, hd, rfl⟩ := List.mem_map.mp hl
  rw [source_lower]
  exact hc.within d hd

theorem within_of_inField {name : String} {l : Lowered}
    (h : inField name (lowerAll bytes c.children) = some l) :
    c.extent.start ≤ l.source.extent.start ∧ l.source.extent.stop ≤ c.extent.stop :=
  extent_lowerAll hc l (List.mem_of_find?_eq_some h)

theorem sortedWithin_node {k : String} {v : Option String} {s : Span} {cs : List Slot}
    (hs : s.start = c.extent.start) (hcs : SortedWithin c.extent.start c.extent.stop (startsIn cs)) :
    SortedWithin c.extent.start c.extent.stop (Node.mk k v s cs).starts := by
  rw [starts, hs]
  exact hcs.cons hc.ends

theorem sortedWithin_fieldStarts {f : Lowered → List Int}
    (hf : ∀ l ∈ lowerAll bytes c.children,
      SortedWithin l.source.extent.start l.source.extent.stop (f l)) (name : String) :
    SortedWithin c.extent.start c.extent.stop (fieldStarts name f (lowerAll bytes c.children)) := by
  rw [fieldStarts]
  cases h : inField name (lowerAll bytes c.children) with
  | none => exact .nil
  | some l =>
    obtain ⟨hlo, hhi⟩ := within_of_inField hc h
    exact (hf l (List.mem_of_find?_eq_some h)).widen hlo hhi

include hcs

theorem apart_children : c.children.Pairwise fun d e => d.extent.stop ≤ e.extent.start :=
  Concrete.pairwise_apart (fun d hd => (hcs d hd).ends) hc.apart

theorem apart_named : (named (lowerAll bytes c.children)).Pairwise fun l m =>
    l.source.extent.stop ≤ m.source.extent.start := by
  refine List.Pairwise.sublist List.filter_sublist ?_
  rw [lowerAll_eq_map, List.pairwise_map]
  simpa only [source_lower] using apart_children hc hcs

theorem apart_of_inField {names : List String} (hnames : c.FieldsInOrder names) {name name' : String}
    (hsub : [name, name'].Sublist names) {l l' : Lowered}
    (hl : inField name (lowerAll bytes c.children) = some l)
    (hl' : inField name' (lowerAll bytes c.children) = some l') :
    l.source.extent.stop ≤ l'.source.extent.start := by
  rw [inField_lowerAll] at hl hl'
  obtain ⟨d, hd, rfl⟩ := Option.map_eq_some_iff.mp hl
  obtain ⟨d', hd', rfl⟩ := Option.map_eq_some_iff.mp hl'
  rw [source_lower, source_lower]
  exact Concrete.stop_le_start_of_fields (apart_children hc hcs) hnames hsub hd hd'

theorem sortedWithin_named {f : Lowered → List Int}
    (hf : ∀ l ∈ lowerAll bytes c.children,
      SortedWithin l.source.extent.start l.source.extent.stop (f l)) :
    SortedWithin c.extent.start c.extent.stop ((named (lowerAll bytes c.children)).flatMap f) :=
  SortedWithin.flatMap (fun l hl => hf l (List.mem_of_mem_filter hl))
    (fun l hl => extent_lowerAll hc l (List.mem_of_mem_filter hl)) (apart_named hc hcs)

theorem fieldStarts_le {f g : Lowered → List Int}
    (hf : ∀ l ∈ lowerAll bytes c.children,
      SortedWithin l.source.extent.start l.source.extent.stop (f l))
    (hg : ∀ l ∈ lowerAll bytes c.children,
      SortedWithin l.source.extent.start l.source.extent.stop (g l))
    {names : List String} (hnames : c.FieldsInOrder names) {name name' : String}
    (hsub : [name, name'].Sublist names) :
    ∀ x ∈ fieldStarts name f (lowerAll bytes c.children),
      ∀ y ∈ fieldStarts name' g (lowerAll bytes c.children), x ≤ y := by
  intro x hx y hy
  obtain ⟨l, hl, hx⟩ := mem_fieldStarts.mp hx
  obtain ⟨m, hm, hy⟩ := mem_fieldStarts.mp hy
  have hx := ((hf l (List.mem_of_find?_eq_some hl)).bounds x hx).2
  have hy := ((hg m (List.mem_of_find?_eq_some hm)).bounds y hy).1
  have hlm := apart_of_inField hc hcs hnames hsub hl hm
  omega

include ih

theorem sortedWithin_nodes : SortedWithin c.extent.start c.extent.stop
    (startsIn ((nodes (named (lowerAll bytes c.children))).map some)) := by
  rw [startsIn_map_some, starts_nodes]
  exact sortedWithin_named hc hcs fun l hl => (ih l hl).node

theorem sortedWithin_statements : SortedWithin c.extent.start c.extent.stop
    ((statements (lowerAll bytes c.children)).flatMap starts) := by
  rw [starts_statements]
  refine sortedWithin_named hc hcs fun l hl => ?_
  split
  · exact (ih l hl).parts
  · exact (ih l hl).node

omit hc hcs in
theorem sortedWithin_groupKeywords : ∀ l ∈ lowerAll bytes c.children,
    SortedWithin l.source.extent.start l.source.extent.stop ((groupKeywords l.parts).flatMap starts) :=
  fun l hl => sortedWithin_gather [] [] l.parts (ih l hl).parts

theorem sortedWithin_send (hk : c.kind = "call") :
    SortedWithin c.extent.start c.extent.stop (send bytes c (lowerAll bytes c.children)).starts := by
  have hnode : ∀ l ∈ lowerAll bytes c.children,
      SortedWithin l.source.extent.start l.source.extent.stop (startsOf l.node) :=
    fun l hl => (ih l hl).node
  have hargs := sortedWithin_groupKeywords ih
  rw [starts_send]
  refine ((sortedWithin_fieldStarts hc hnode _).append (sortedWithin_fieldStarts hc hargs _) ?_).cons
    hc.ends
  exact fieldStarts_le hc hcs hnode hargs (hc.call hk).1 (by decide)

theorem sortedWithin_call (hk : c.kind = "call") :
    SortedWithin c.extent.start c.extent.stop (call bytes c (lowerAll bytes c.children)).starts := by
  have hsend := sortedWithin_send hc hcs ih hk
  cases hb : inField "block" (lowerAll bytes c.children) with
  | none =>
    rw [call, hb]
    exact hsend
  | some b =>
    have hbody : ∀ l ∈ lowerAll bytes c.children,
        SortedWithin l.source.extent.start l.source.extent.stop (l.body.flatMap starts) :=
      fun l hl => (ih l hl).body
    have hblock := sortedWithin_fieldStarts hc hbody "block"
    -- All that a call reads comes before its block.
    have hbefore : ∀ x ∈ (send bytes c (lowerAll bytes c.children)).starts,
        ∀ y ∈ fieldStarts "block" (fun l => l.body.flatMap starts) (lowerAll bytes c.children),
          x ≤ y := by
      intro x hx y hy
      rw [starts_send, List.mem_cons, List.mem_append] at hx
      rcases hx with rfl | hx | hx
      · exact (hblock.bounds y hy).1
      · exact fieldStarts_le hc hcs (fun l hl => (ih l hl).node) hbody (hc.call hk).1 (by decide)
          x hx y hy
      · exact fieldStarts_le hc hcs (sortedWithin_groupKeywords ih) hbody (hc.call hk).1 (by decide)
          x hx y hy
    have hall := hsend.append hblock hbefore
    rw [fieldStarts, hb] at hall
    rw [call, hb]
    refine sortedWithin_node hc rfl ?_
    rwa [startsIn, startsIn_map_some]

omit hcs in
theorem sortedWithin_scopeSlot :
    SortedWithin c.extent.start c.extent.stop (startsOf (scopeSlot c (lowerAll bytes c.children))) := by
  rw [scopeSlot]
  cases hs : inField "scope" (lowerAll bytes c.children) with
  | none => exact SortedWithin.nil.cons hc.ends
  | some l =>
    obtain ⟨hlo, hhi⟩ := within_of_inField hc hs
    exact (ih l (List.mem_of_find?_eq_some hs)).node.widen hlo hhi

theorem sortedWithin_fields {name name' : String} (hnames : c.FieldsInOrder [name, name']) :
    SortedWithin c.extent.start c.extent.stop
      (fieldStarts name (fun l => startsOf l.node) (lowerAll bytes c.children) ++
        fieldStarts name' (fun l => startsOf l.node) (lowerAll bytes c.children)) := by
  have hnode : ∀ l ∈ lowerAll bytes c.children,
      SortedWithin l.source.extent.start l.source.extent.stop (startsOf l.node) :=
    fun l hl => (ih l hl).node
  refine (sortedWithin_fieldStarts hc hnode _).append (sortedWithin_fieldStarts hc hnode _) ?_
  exact fieldStarts_le hc hcs hnode hnode hnames (List.Sublist.refl _)

theorem sortedWithin_pair (hk : c.kind = "pair") :
    SortedWithin c.extent.start c.extent.stop (pair c (lowerAll bytes c.children)).starts := by
  refine sortedWithin_node hc rfl ?_
  have hfields := sortedWithin_fields hc hcs ih (hc.pair hk)
  rw [startsIn_eq_flatMap, List.flatMap_cons, List.flatMap_singleton, startsOf_nodeIn]
  exact hfields.sublist ((startsOf_keySlot c _).append (List.Sublist.refl _))

theorem sortedWithin_binary (hk : c.kind = "binary") :
    SortedWithin c.extent.start c.extent.stop (binary bytes c (lowerAll bytes c.children)).starts := by
  have hoperands : SortedWithin c.extent.start c.extent.stop (startsIn
      [nodeIn "left" (lowerAll bytes c.children), nodeIn "right" (lowerAll bytes c.children)]) := by
    rw [startsIn_eq_flatMap, List.flatMap_cons, List.flatMap_singleton, startsOf_nodeIn,
      startsOf_nodeIn]
    exact sortedWithin_fields hc hcs ih (hc.binary hk)
  rw [binary]
  split
  · exact sortedWithin_node hc rfl hoperands
  · split
    · exact sortedWithin_node hc rfl hoperands
    · exact sortedWithin_node hc rfl hoperands

theorem sortedWithin_quotedNode (plain interpolated : String) :
    SortedWithin c.extent.start c.extent.stop
      (quotedNode plain interpolated bytes c (lowerAll bytes c.children)).starts := by
  rw [quotedNode]
  split
  · exact sortedWithin_node hc rfl (sortedWithin_nodes hc hcs ih)
  · exact sortedWithin_node hc rfl .nil

theorem sortedWithin_assemble : SortedWithin c.extent.start c.extent.stop
    (startsOf (assemble bytes c (lowerAll bytes c.children))) := by
  have hnodes := sortedWithin_nodes hc hcs ih
  rw [assemble]
  split
  · exact .nil
  · rw [startsOf, Option.map_some, Option.getD_some]
    split
    · exact sortedWithin_node hc rfl hnodes
    · next hk => exact sortedWithin_call hc hcs ih hk
    · exact sortedWithin_node hc rfl .nil
    · exact sortedWithin_node hc rfl .nil
    · refine sortedWithin_node hc rfl ?_
      rw [startsIn_eq_flatMap, List.flatMap_singleton]
      exact sortedWithin_scopeSlot hc ih
    · exact sortedWithin_quotedNode hc hcs ih "str" "dstr"
    · exact sortedWithin_quotedNode hc hcs ih "sym" "dsym"
    · exact sortedWithin_node hc rfl .nil
    · exact sortedWithin_node hc rfl .nil
    · exact sortedWithin_node hc rfl hnodes
    · next hk => exact sortedWithin_pair hc hcs ih hk
    · next hk => exact sortedWithin_binary hc hcs ih hk
    · exact sortedWithin_node hc rfl hnodes

theorem assembled_inOrder : (assembled bytes c (lowerAll bytes c.children)).InOrder := by
  have hnodes := sortedWithin_nodes hc hcs ih
  rw [startsIn_map_some] at hnodes
  exact ⟨sortedWithin_assemble hc hcs ih, hnodes, sortedWithin_statements hc hcs ih⟩

end Step

mutual

theorem lower_inOrder (bytes : List UInt8) : ∀ c : Concrete, c.SpanOrdered → (lower bytes c).InOrder
  | .mk k n f x e m cs, h => by
    rw [Concrete.SpanOrdered, Concrete.nodes, List.forall_mem_cons] at h
    have hcs : ∀ d ∈ cs, d.HoldsInOrder := fun d hd => h.2 d (Concrete.mem_nodesIn_of_mem hd)
    exact assembled_inOrder h.1 hcs (lowerAll_inOrder bytes cs h.2)

theorem lowerAll_inOrder (bytes : List UInt8) : ∀ cs : List Concrete,
    (∀ d ∈ Concrete.nodesIn cs, d.HoldsInOrder) → ∀ l ∈ lowerAll bytes cs, l.InOrder
  | [], _ => by simp [lowerAll]
  | c :: r, h => by
    rw [Concrete.nodesIn, List.forall_mem_append] at h
    rw [lowerAll, List.forall_mem_cons]
    exact ⟨lower_inOrder bytes c h.1, lowerAll_inOrder bytes r h.2⟩

end

end Lowering

/-- The nodes of a lowered tree start in pre-order. -/
theorem startsOf_toNode_sorted {c : Concrete} (h : c.SpanOrdered) (bytes : List UInt8) :
    (startsOf (c.toNode bytes)).Pairwise (· ≤ ·) :=
  (Lowering.lower_inOrder bytes c h).node.sorted

end GroupLint
