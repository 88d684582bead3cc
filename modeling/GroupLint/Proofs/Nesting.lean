import GroupLint.Proofs.SourceOrder

/-! Spans after lowering. Calls end before their blocks, runs of keywords get a hash and some paths a
root that stand nowhere in the source, yet if the concrete tree holds its nodes one after the other,
so does the lowered one. Every node starts where a concrete node does. -/
namespace GroupLint
open Node

/-- A path without a scope leaves room for the two colons in front. -/
def Concrete.RootFits (c : Concrete) : Prop :=
  c.kind = "scope_resolution" → c.childIn "scope" = none → c.extent.start + 2 ≤ c.extent.stop

instance (c : Concrete) : Decidable c.RootFits :=
  inferInstanceAs (Decidable (c.kind = "scope_resolution" → c.childIn "scope" = none → _))

/-- A node ends no sooner than it starts, and holds its children one after the other. -/
structure Node.Nested (n : Node) : Prop where
  ends : n.span.start ≤ n.span.stop
  within : ∀ m ∈ n.childNodes, n.span.start ≤ m.span.start ∧ m.span.stop ≤ n.span.stop
  apart : n.childNodes.Pairwise fun m m' => m.span.stop ≤ m'.span.start

/-- Lines count from 1 and rows from 0. -/
def Node.StartsAt (n : Node) (x : Extent) : Prop :=
  n.span.start = x.start ∧ n.span.line = x.row + 1 ∧ n.span.column = x.column

def Node.Sound (A : Extent → Prop) (n : Node) : Prop := n.Nested ∧ ∃ x, A x ∧ n.StartsAt x

structure Row (A : Extent → Prop) (lo hi : Int) (ns : List Node) : Prop where
  sound : ∀ n ∈ ns, Everywhere (Sound A) (some n)
  within : ∀ n ∈ ns, lo ≤ n.span.start ∧ n.span.stop ≤ hi
  apart : ns.Pairwise fun m n => m.span.stop ≤ n.span.start

namespace Row
variable {A : Extent → Prop} {lo hi : Int} {n : Node} {ns ms : List Node}

theorem nil : Row A lo hi [] := ⟨by simp, by simp, .nil⟩

theorem ends (h : Row A lo hi ns) (hn : n ∈ ns) : n.span.start ≤ n.span.stop :=
  (everywhere_some_iff.mp (h.sound n hn)).1.1.ends

theorem widen (h : Row A lo hi ns) {lo' hi' : Int} (hlo : lo' ≤ lo) (hhi : hi ≤ hi') :
    Row A lo' hi' ns := by
  refine ⟨h.sound, fun n hn => ?_, h.apart⟩
  have hn := h.within n hn
  omega

theorem append (hns : Row A lo hi ns) (hms : Row A lo hi ms)
    (h : ∀ n ∈ ns, ∀ m ∈ ms, n.span.stop ≤ m.span.start) : Row A lo hi (ns ++ ms) :=
  ⟨List.forall_mem_append.mpr ⟨hns.sound, hms.sound⟩,
    List.forall_mem_append.mpr ⟨hns.within, hms.within⟩,
    List.pairwise_append.mpr ⟨hns.apart, hms.apart, h⟩⟩

theorem of_append (h : Row A lo hi (ns ++ n :: ms)) :
    Row A lo n.span.start ns ∧ Row A n.span.stop hi ms := by
  obtain ⟨hns, hms⟩ := List.forall_mem_append.mp h.sound
  obtain ⟨hwithin, hwithin'⟩ := List.forall_mem_append.mp h.within
  obtain ⟨hapart, hapart', hcross⟩ := List.pairwise_append.mp h.apart
  rw [List.pairwise_cons] at hapart'
  refine ⟨⟨hns, fun m hm => ⟨(hwithin m hm).1, hcross m hm n (by simp)⟩, hapart⟩,
    ⟨fun m hm => hms m (by simp [hm]), fun m hm => ⟨hapart'.1 m hm, ?_⟩, hapart'.2⟩⟩
  exact (hwithin' m (by simp [hm])).2

theorem of_mem (h : Row A lo hi ns) (hn : n ∈ ns) : Row A n.span.start n.span.stop [n] :=
  ⟨by simpa using h.sound n hn, by simp, List.pairwise_singleton _ _⟩

theorem cons (hn : Row A lo hi [n]) (h : Row A n.span.stop hi ns) : Row A lo hi (n :: ns) := by
  have hends := hn.ends (List.mem_singleton_self n)
  have hlo := (hn.within n (by simp)).1
  refine hn.append (h.widen (by omega) (Int.le_refl hi)) ?_
  simpa using fun m hm => (h.within m hm).1

/-- A row lies between the start of its first node and the end of its last. -/
theorem tight {first : Node} {rest : List Node} (h : Row A lo hi (first :: rest)) :
    Row A first.span.start (rest.getLast?.getD first).span.stop (first :: rest) := by
  induction rest generalizing first with
  | nil => exact h.of_mem (by simp)
  | cons second rest ih =>
    have hrest : Row A lo hi (second :: rest) :=
      ⟨fun n hn => h.sound n (List.mem_cons_of_mem _ hn),
        fun n hn => h.within n (List.mem_cons_of_mem _ hn), h.apart.of_cons⟩
    have htight := ih hrest
    have hnext : first.span.stop ≤ second.span.start :=
      (List.pairwise_cons.mp h.apart).1 second (by simp)
    have hends := h.ends (n := second) (by simp)
    have hlast := (htight.within second (by simp)).2
    rw [List.getLast?_cons, Option.getD_some]
    refine cons ((h.of_mem (by simp)).widen (Int.le_refl _) (by omega)) ?_
    exact htight.widen hnext (Int.le_refl _)

theorem flatMap {α : Type} {xs : List α} {extent : α → Extent} {f : α → List Node}
    (hf : ∀ x ∈ xs, Row A (extent x).start (extent x).stop (f x))
    (hwithin : ∀ x ∈ xs, lo ≤ (extent x).start ∧ (extent x).stop ≤ hi)
    (hapart : xs.Pairwise fun x y => (extent x).stop ≤ (extent y).start) :
    Row A lo hi (xs.flatMap f) := by
  induction xs with
  | nil => exact nil
  | cons x xs ih =>
    rw [List.forall_mem_cons] at hf hwithin
    rw [List.pairwise_cons] at hapart
    refine append (hf.1.widen hwithin.1.1 hwithin.1.2) (ih hf.2 hwithin.2 hapart.2) ?_
    -- The end of one extent and the start of a later one stand between their nodes.
    intro n hn m hm
    obtain ⟨y, hy, hm⟩ := List.mem_flatMap.mp hm
    have hn := (hf.1.within n hn).2
    have hm := ((hf.2 y hy).within m hm).1
    have hxy := hapart.1 y hy
    omega

end Row

theorem row_node {A : Extent → Prop} {n : Node} {x : Extent} {stop : Int} (hx : A x)
    (hn : n.StartsAt x) (hstop : n.span.stop = stop) (hends : x.start ≤ stop)
    (h : Row A x.start stop n.childNodes) : Row A x.start stop [n] := by
  subst hstop
  rw [← hn.1] at hends h ⊢
  have hnode : Everywhere (Sound A) (some n) := by
    refine everywhere_some_iff.mpr ⟨⟨⟨hends, h.within, h.apart⟩, x, hx, hn⟩, fun s hs => ?_⟩
    cases s with
    | none => exact everywhere_none _
    | some m => exact h.sound m (List.mem_filterMap.mpr ⟨some m, hs, rfl⟩)
  refine ⟨?_, ?_, List.pairwise_singleton _ _⟩
  · simpa using hnode
  · simp

theorem row_childNodes {A : Extent → Prop} {n : Node} (h : Everywhere (Sound A) (some n)) :
    Row A n.span.start n.span.stop n.childNodes := by
  obtain ⟨⟨hnested, -⟩, hslots⟩ := everywhere_some_iff.mp h
  refine ⟨fun m hm => ?_, hnested.within, hnested.apart⟩
  obtain ⟨s, hs, rfl⟩ := List.mem_filterMap.mp hm
  exact hslots _ hs

namespace Lowering

theorem row_asSymbol {A : Extent → Prop} {lo hi : Int} {n : Node} (h : Row A lo hi [n]) :
    Row A lo hi [asSymbol n] := by
  have hn := h.sound n (by simp)
  obtain ⟨hlo, hhi⟩ := h.within n (by simp)
  have hends := h.ends (List.mem_singleton_self n)
  obtain ⟨-, x, hx, hstart⟩ := (everywhere_some_iff.mp hn).1
  have hrow := row_childNodes hn
  rw [hstart.1] at hlo hends hrow
  have hsame : ∀ k v cs, Row A x.start n.span.stop (Node.mk k v n.span cs).childNodes →
      Row A lo hi [.mk k v n.span cs] := by
    intro k v cs hcs
    have hm : (Node.mk k v n.span cs).StartsAt x := hstart
    exact (row_node hx hm rfl hends hcs).widen hlo hhi
  rw [asSymbol]
  split
  · exact hsame _ _ _ hrow
  · split
    · exact hsame _ _ _ .nil
    · exact h

theorem childNodes_map_some (k : String) (v : Option String) (s : Span) (ns : List Node) :
    (Node.mk k v s (ns.map some)).childNodes = ns := by
  simp [childNodes, List.filterMap_map]

theorem row_flush {A : Extent → Prop} {lo hi : Int} {run : List Node} (h : Row A lo hi run) :
    Row A lo hi (flush run) := by
  cases run with
  | nil => exact .nil
  | cons first rest =>
    have htight := h.tight
    have hfirst := (htight.within first (by simp)).2
    have hends := h.ends (n := first) (by simp)
    obtain ⟨-, x, hx, hstart⟩ := (everywhere_some_iff.mp (h.sound first (by simp))).1
    have hlast : (rest.getLast?.getD first).span.stop ≤ hi := by
      cases hrest : rest.getLast? with
      | none => exact (h.within first (by simp)).2
      | some last => exact (h.within last (List.mem_cons_of_mem _ (List.mem_of_getLast? hrest))).2
    have hhash : Row A first.span.start (rest.getLast?.getD first).span.stop
        [keywordHash first rest] := by
      rw [hstart.1] at hends htight ⊢
      refine row_node hx hstart rfl (Int.le_trans hends hfirst) ?_
      rwa [keywordHash, childNodes_map_some]
    exact hhash.widen (h.within first (by simp)).1 hlast

theorem row_gather {A : Extent → Prop} {lo hi : Int} {run args : List Node}
    (h : Row A lo hi (run ++ args)) : Row A lo hi (gather run args) := by
  fun_induction gather run args generalizing lo with
  | case1 run => exact row_flush (by simpa using h)
  | case2 run a r hk ih => exact ih (by simpa using h)
  | case3 run a r hk ih =>
    obtain ⟨hrun, hr⟩ := h.of_append
    obtain ⟨hlo, hhi⟩ := h.within a (by simp)
    have hends := h.ends (n := a) (by simp)
    have ha : Row A lo hi [a] := (h.of_mem (by simp)).widen hlo hhi
    -- The run ends before `a` starts, and what follows it starts after `a` ends.
    refine ((row_flush hrun).widen (Int.le_refl lo) (by omega)).append (ha.cons (ih hr)) ?_
    intro n hn m hm
    have hn := ((row_flush hrun).within n hn).2
    rcases List.mem_cons.mp hm with rfl | hm
    · exact hn
    · have hm := ((ih hr).within m hm).1
      omega

/-- All that a concrete node became, in rows within its extent. -/
structure Lowered.InRow (A : Extent → Prop) (l : Lowered) : Prop where
  node : Row A l.source.extent.start l.source.extent.stop l.node.toList
  parts : Row A l.source.extent.start l.source.extent.stop l.parts
  body : Row A l.source.extent.start l.source.extent.stop l.body

def fieldNodes (name : String) (f : Lowered → List Node) (ls : List Lowered) : List Node :=
  ((inField name ls).map f).getD []

theorem mem_fieldNodes {name : String} {f : Lowered → List Node} {ls : List Lowered} {n : Node} :
    n ∈ fieldNodes name f ls ↔ ∃ l, inField name ls = some l ∧ n ∈ f l := by
  cases h : inField name ls <;> simp [fieldNodes, h]

theorem toList_nodeIn (name : String) (ls : List Lowered) :
    (nodeIn name ls).toList = fieldNodes name (·.node.toList) ls := by
  cases h : inField name ls <;> simp [nodeIn, fieldNodes, h]

theorem callArguments_eq (ls : List Lowered) :
    callArguments ls = fieldNodes "arguments" (groupKeywords ·.parts) ls := by
  cases h : inField "arguments" ls <;> simp [callArguments, fieldNodes, h]

theorem childNodes_cons (k : String) (v : Option String) (s : Span) (slot : Slot) (cs : List Slot) :
    (Node.mk k v s (slot :: cs)).childNodes = slot.toList ++ (Node.mk k v s cs).childNodes := by
  cases slot <;> simp [childNodes]

theorem childNodes_send (bytes : List UInt8) (c : Concrete) (ls : List Lowered) :
    (send bytes c ls).childNodes =
      fieldNodes "receiver" (·.node.toList) ls ++ fieldNodes "arguments" (groupKeywords ·.parts) ls := by
  rw [send, childNodes_cons, childNodes_map_some, toList_nodeIn, callArguments_eq]

theorem childNodes_two (k : String) (v : Option String) (s : Span) (a b : Slot) :
    (Node.mk k v s [a, b]).childNodes = a.toList ++ b.toList := by
  cases a <;> cases b <;> rfl

def keyOf (c : Concrete) (k : Lowered) : Slot :=
  if k.source.kind == "string" && !c.children.any (·.kind == "=>") then k.node.map asSymbol else k.node

theorem toList_keySlot (c : Concrete) (ls : List Lowered) :
    (keySlot c ls).toList = fieldNodes "key" (fun k => (keyOf c k).toList) ls := by
  cases h : inField "key" ls <;> simp [keySlot, fieldNodes, keyOf, h]

/-- A call ends where one of the parts does that it is made of, and after all of them. -/
theorem sendStop_spec {c : Concrete} {ls : List Lowered}
    (h : ∃ name ∈ ["receiver", "method", "arguments"], ∃ l, inField name ls = some l) :
    (∃ name ∈ ["receiver", "method", "arguments"], ∃ l, inField name ls = some l ∧
      l.source.extent.stop = sendStop c ls) ∧
    ∀ name ∈ ["receiver", "method", "arguments"], ∀ l, inField name ls = some l →
      l.source.extent.stop ≤ sendStop c ls := by
  have hparts : ∀ l, l ∈ ["receiver", "method", "arguments"].filterMap (inField · ls) ↔
      ∃ name ∈ ["receiver", "method", "arguments"], inField name ls = some l :=
    fun l => List.mem_filterMap
  have hmax : ((["receiver", "method", "arguments"].filterMap (inField · ls)).map
      (·.source.extent.stop)).max? = some (sendStop c ls) := by
    rw [sendStop]
    cases hs : (["receiver", "method", "arguments"].filterMap (inField · ls)).map
        (·.source.extent.stop) with
    | nil =>
      obtain ⟨name, hname, l, hl⟩ := h
      have hmem := (hparts l).mpr ⟨name, hname, hl⟩
      rw [List.map_eq_nil_iff.mp hs] at hmem
      cases hmem
    | cons e r => exact List.max?_cons'
  obtain ⟨hmem, hbound⟩ := List.max?_eq_some_iff.mp hmax
  constructor
  · obtain ⟨l, hl, hstop⟩ := List.mem_map.mp hmem
    obtain ⟨name, hname, hl⟩ := (hparts l).mp hl
    exact ⟨name, hname, l, hl, hstop⟩
  · intro name hname l hl
    exact hbound _ (List.mem_map_of_mem ((hparts l).mpr ⟨name, hname, hl⟩))

section Step
variable {A : Extent → Prop} {bytes : List UInt8} {c : Concrete} (hc : c.HoldsInOrder)
  (hcs : ∀ d ∈ c.children, d.HoldsInOrder) (hA : A c.extent)
  (ih : ∀ l ∈ lowerAll bytes c.children, l.InRow A)

theorem row_field {lo hi : Int} {name : String} {f : Lowered → List Node}
    (hf : ∀ l ∈ lowerAll bytes c.children, Row A l.source.extent.start l.source.extent.stop (f l))
    (hbounds : ∀ l, inField name (lowerAll bytes c.children) = some l →
      lo ≤ l.source.extent.start ∧ l.source.extent.stop ≤ hi) :
    Row A lo hi (fieldNodes name f (lowerAll bytes c.children)) := by
  rw [fieldNodes]
  cases h : inField name (lowerAll bytes c.children) with
  | none => exact .nil
  | some l =>
    obtain ⟨hlo, hhi⟩ := hbounds l h
    exact (hf l (List.mem_of_find?_eq_some h)).widen hlo hhi

include hc hcs in
theorem row_fields {lo hi : Int} {names : List String} (hnames : c.FieldsInOrder names)
    {name name' : String} (hsub : [name, name'].Sublist names) {f g : Lowered → List Node}
    (hf : ∀ l ∈ lowerAll bytes c.children, Row A l.source.extent.start l.source.extent.stop (f l))
    (hg : ∀ l ∈ lowerAll bytes c.children, Row A l.source.extent.start l.source.extent.stop (g l))
    (hbounds : ∀ x ∈ [name, name'], ∀ l, inField x (lowerAll bytes c.children) = some l →
      lo ≤ l.source.extent.start ∧ l.source.extent.stop ≤ hi) :
    Row A lo hi (fieldNodes name f (lowerAll bytes c.children) ++
      fieldNodes name' g (lowerAll bytes c.children)) := by
  refine (row_field hf (hbounds name (by simp))).append (row_field hg (hbounds name' (by simp))) ?_
  intro n hn m hm
  obtain ⟨l, hl, hn⟩ := mem_fieldNodes.mp hn
  obtain ⟨l', hl', hm⟩ := mem_fieldNodes.mp hm
  have hn := ((hf l (List.mem_of_find?_eq_some hl)).within n hn).2
  have hm := ((hg l' (List.mem_of_find?_eq_some hl')).within m hm).1
  have hll' := apart_of_inField hc hcs hnames hsub hl hl'
  omega

include hc hcs in
theorem row_named {f : Lowered → List Node}
    (hf : ∀ l ∈ lowerAll bytes c.children, Row A l.source.extent.start l.source.extent.stop (f l)) :
    Row A c.extent.start c.extent.stop ((named (lowerAll bytes c.children)).flatMap f) :=
  Row.flatMap (fun l hl => hf l (List.mem_of_mem_filter hl))
    (fun l hl => extent_lowerAll hc l (List.mem_of_mem_filter hl)) (apart_named hc hcs)

include hc hA in
theorem row_made {k : String} {v : Option String} {cs : List Slot}
    (h : Row A c.extent.start c.extent.stop (Node.mk k v c.span cs).childNodes) :
    Row A c.extent.start c.extent.stop [.mk k v c.span cs] :=
  row_node hA ⟨rfl, rfl, rfl⟩ rfl hc.ends h

include hc hcs ih in
theorem row_nodes : Row A c.extent.start c.extent.stop (nodes (named (lowerAll bytes c.children))) := by
  rw [nodes, List.filterMap_eq_flatMap_toList]
  exact row_named hc hcs fun l hl => (ih l hl).node

include hc hcs ih in
theorem row_statements : Row A c.extent.start c.extent.stop (statements (lowerAll bytes c.children)) := by
  refine row_named hc hcs fun l hl => ?_
  split
  · exact (ih l hl).parts
  · exact (ih l hl).node

include hc in
theorem exists_inField_of_call (bytes : List UInt8) (hk : c.kind = "call") :
    ∃ name ∈ ["receiver", "method", "arguments"],
      ∃ l, inField name (lowerAll bytes c.children) = some l := by
  obtain ⟨-, name, hname, hsome⟩ := hc.call hk
  obtain ⟨d, hd⟩ := Option.isSome_iff_exists.mp hsome
  exact ⟨name, hname, lower bytes d, by rw [inField_lowerAll, hd, Option.map_some]⟩

include hc hcs in
theorem start_le_sendStop (hk : c.kind = "call") :
    c.extent.start ≤ sendStop c (lowerAll bytes c.children) := by
  obtain ⟨name, -, l, hl, hstop⟩ := (sendStop_spec (c := c) (exists_inField_of_call hc bytes hk)).1
  have hwithin := within_of_inField hc hl
  rw [inField_lowerAll] at hl
  obtain ⟨d, hd, rfl⟩ := Option.map_eq_some_iff.mp hl
  have hends := (hcs d (List.mem_of_find?_eq_some hd)).ends
  rw [source_lower] at hwithin hstop
  omega

include hc hcs hA ih in
theorem row_send (hk : c.kind = "call") :
    Row A c.extent.start (sendStop c (lowerAll bytes c.children))
      [send bytes c (lowerAll bytes c.children)] := by
  refine row_node hA ⟨rfl, rfl, rfl⟩ rfl (start_le_sendStop hc hcs hk) ?_
  rw [childNodes_send]
  refine row_fields hc hcs (hc.call hk).1 (by decide) (fun l hl => (ih l hl).node)
    (fun l hl => row_gather (ih l hl).parts) ?_
  intro name hname l hl
  refine ⟨(within_of_inField hc hl).1, ?_⟩
  have hsub : ["receiver", "arguments"] ⊆ ["receiver", "method", "arguments"] := by decide
  exact (sendStop_spec (exists_inField_of_call hc bytes hk)).2 name (hsub hname) l hl

include hc hcs hA ih in
theorem row_call (hk : c.kind = "call") :
    Row A c.extent.start c.extent.stop [call bytes c (lowerAll bytes c.children)] := by
  have hsend := row_send hc hcs hA ih hk
  obtain ⟨name, hname, l, hl, hstop⟩ := (sendStop_spec (c := c) (exists_inField_of_call hc bytes hk)).1
  have hwithin := within_of_inField hc hl
  have hsend' := hsend.widen (Int.le_refl _) (hstop ▸ hwithin.2)
  cases hb : inField "block" (lowerAll bytes c.children) with
  | none => rwa [call, hb]
  | some b =>
    rw [call, hb]
    refine row_made hc hA ?_
    rw [childNodes_cons, childNodes_map_some]
    have hbody := (ih b (List.mem_of_find?_eq_some hb)).body
    obtain ⟨hlo, hhi⟩ := within_of_inField hc hb
    refine hsend'.append (hbody.widen hlo hhi) ?_
    -- The last part of the call comes before its block.
    intro n hn m hm
    have hn := (hsend.within n hn).2
    have hm := (hbody.within m hm).1
    have hsub : ∀ name ∈ ["receiver", "method", "arguments"],
        [name, "block"].Sublist ["receiver", "method", "arguments", "block"] := by decide
    have hblock := apart_of_inField hc hcs (hc.call hk).1 (hsub name hname) hl hb
    omega

include hc hA ih in
theorem row_scopeSlot (hroot : c.childIn "scope" = none → c.extent.start + 2 ≤ c.extent.stop) :
    Row A c.extent.start c.extent.stop (scopeSlot c (lowerAll bytes c.children)).toList := by
  rw [scopeSlot]
  cases hs : inField "scope" (lowerAll bytes c.children) with
  | some l =>
    obtain ⟨hlo, hhi⟩ := within_of_inField hc hs
    exact (ih l (List.mem_of_find?_eq_some hs)).node.widen hlo hhi
  | none =>
    rw [inField_lowerAll, Option.map_eq_none_iff] at hs
    have hbase : Row A c.extent.start (c.extent.start + 2)
        [.mk "cbase" none { c.span with stop := c.extent.start + 2 } []] :=
      row_node hA ⟨rfl, rfl, rfl⟩ rfl (by omega) .nil
    exact hbase.widen (Int.le_refl _) (hroot hs)

include hc hcs hA ih in
theorem row_pair (hk : c.kind = "pair") :
    Row A c.extent.start c.extent.stop [pair c (lowerAll bytes c.children)] := by
  refine row_made hc hA ?_
  rw [childNodes_two, toList_keySlot, toList_nodeIn]
  refine row_fields hc hcs (hc.pair hk) (List.Sublist.refl _) (fun l hl => ?_)
    (fun l hl => (ih l hl).node) (fun name _ l hl => within_of_inField hc hl)
  have hl := (ih l hl).node
  rw [keyOf]
  split
  · cases hn : l.node with
    | none => exact .nil
    | some n =>
      rw [hn] at hl
      exact row_asSymbol hl
  · exact hl

include hc hcs hA ih in
theorem row_binary (hk : c.kind = "binary") :
    Row A c.extent.start c.extent.stop [binary bytes c (lowerAll bytes c.children)] := by
  have hoperands : ∀ k v, Row A c.extent.start c.extent.stop (Node.mk k v c.span
      [nodeIn "left" (lowerAll bytes c.children), nodeIn "right" (lowerAll bytes c.children)]).childNodes := by
    intro k v
    rw [childNodes_two, toList_nodeIn, toList_nodeIn]
    exact row_fields hc hcs (hc.binary hk) (List.Sublist.refl _) (fun l hl => (ih l hl).node)
      (fun l hl => (ih l hl).node) (fun name _ l hl => within_of_inField hc hl)
  rw [binary]
  split
  · exact row_made hc hA (hoperands _ _)
  · split
    · exact row_made hc hA (hoperands _ _)
    · exact row_made hc hA (hoperands _ _)

include hc hcs hA ih in
theorem row_over_nodes (k : String) (v : Option String) : Row A c.extent.start c.extent.stop
    [.mk k v c.span ((nodes (named (lowerAll bytes c.children))).map some)] := by
  refine row_made hc hA ?_
  rw [childNodes_map_some]
  exact row_nodes hc hcs ih

include hc hcs hA ih in
theorem row_quotedNode (plain interpolated : String) : Row A c.extent.start c.extent.stop
    [quotedNode plain interpolated bytes c (lowerAll bytes c.children)] := by
  rw [quotedNode]
  split
  · exact row_over_nodes hc hcs hA ih _ _
  · exact row_made hc hA .nil

include hc hcs hA ih in
theorem row_assemble (hroot : c.RootFits) :
    Row A c.extent.start c.extent.stop (assemble bytes c (lowerAll bytes c.children)).toList := by
  rw [assemble]
  split
  · exact .nil
  · rw [Option.toList_some]
    split
    · exact row_over_nodes hc hcs hA ih _ _
    · next hk => exact row_call hc hcs hA ih hk
    · exact row_made hc hA .nil
    · exact row_made hc hA .nil
    · next hk =>
      refine row_made hc hA ?_
      rw [childNodes_cons]
      simpa [childNodes] using row_scopeSlot hc hA ih (hroot hk)
    · exact row_quotedNode hc hcs hA ih "str" "dstr"
    · exact row_quotedNode hc hcs hA ih "sym" "dsym"
    · exact row_made hc hA .nil
    · exact row_made hc hA .nil
    · exact row_over_nodes hc hcs hA ih _ _
    · next hk => exact row_pair hc hcs hA ih hk
    · next hk => exact row_binary hc hcs hA ih hk
    · exact row_over_nodes hc hcs hA ih _ _

include hc hcs hA ih in
theorem assembled_inRow (hroot : c.RootFits) :
    (assembled bytes c (lowerAll bytes c.children)).InRow A :=
  ⟨row_assemble hc hcs hA ih hroot, row_nodes hc hcs ih, row_statements hc hcs ih⟩

end Step

mutual

theorem lower_inRow {A : Extent → Prop} (bytes : List UInt8) : ∀ c : Concrete,
    (∀ d ∈ c.nodes, d.HoldsInOrder ∧ d.RootFits ∧ A d.extent) → (lower bytes c).InRow A
  | .mk k n f x e m cs, h => by
    rw [Concrete.nodes, List.forall_mem_cons] at h
    obtain ⟨⟨hc, hroot, hA⟩, hrest⟩ := h
    have hcs : ∀ d ∈ cs, d.HoldsInOrder := fun d hd => (hrest d (Concrete.mem_nodesIn_of_mem hd)).1
    exact assembled_inRow hc hcs hA (lowerAll_inRow bytes cs hrest) hroot

theorem lowerAll_inRow {A : Extent → Prop} (bytes : List UInt8) : ∀ cs : List Concrete,
    (∀ d ∈ Concrete.nodesIn cs, d.HoldsInOrder ∧ d.RootFits ∧ A d.extent) →
    ∀ l ∈ lowerAll bytes cs, l.InRow A
  | [], _ => by simp [lowerAll]
  | c :: r, h => by
    rw [Concrete.nodesIn, List.forall_mem_append] at h
    rw [lowerAll, List.forall_mem_cons]
    exact ⟨lower_inRow bytes c h.1, lowerAll_inRow bytes r h.2⟩

end

end Lowering

/-- The row and the column of an offset: the newlines before it, and the bytes since the last one. -/
def placeOf (bytes : List UInt8) (offset : Int) : Int × Int :=
  let before := bytes.take offset.toNat
  (before.count 10, (before.reverse.takeWhile (· != 10)).length)

/-- The lowered tree of a concrete tree in order is in order itself, node by node. Its nodes start at
concrete nodes, and so have the lines and columns of their offsets if these have them. -/
theorem toNode_nested (bytes : List UInt8) (c : Concrete) (horder : c.SpanOrdered)
    (hroots : ∀ d ∈ c.nodes, d.RootFits) :
    Everywhere Nested (c.toNode bytes) ∧
      Everywhere (fun n => ∃ d ∈ c.nodes, n.StartsAt d.extent) (c.toNode bytes) ∧
      ((∀ d ∈ c.nodes, (d.extent.row, d.extent.column) = placeOf bytes d.extent.start) →
        Everywhere (fun n => (n.span.line - 1, n.span.column) = placeOf bytes n.span.start)
          (c.toNode bytes)) := by
  have hrow : (Lowering.lower bytes c).InRow fun x => ∃ d ∈ c.nodes, x = d.extent :=
    Lowering.lower_inRow bytes c fun d hd => ⟨horder d hd, hroots d hd, d, hd, rfl⟩
  have hsound : ∀ p n, slotAt (c.toNode bytes) p = some n →
      n.Nested ∧ ∃ d ∈ c.nodes, n.StartsAt d.extent := by
    intro p n hn
    cases hc : c.toNode bytes with
    | none => simp [hc] at hn
    | some root =>
      rw [hc] at hn
      obtain ⟨hnested, x, ⟨d, hd, rfl⟩, hstart⟩ := hrow.node.sound root (Option.mem_toList.mpr hc) p n hn
      exact ⟨hnested, d, hd, hstart⟩
  refine ⟨fun p n hn => (hsound p n hn).1, fun p n hn => (hsound p n hn).2, fun hplace p n hn => ?_⟩
  obtain ⟨-, d, hd, hstart, hline, hcolumn⟩ := hsound p n hn
  rw [hstart, hline, hcolumn, ← hplace d hd, Int.add_sub_cancel]

/-- The tree of a call over four lines, with a path from the root, keywords and a block:
`a ::B, c: 1,`, ` "d": 2 do`, `  e + f`, `end`. -/
def callOverLines : Concrete :=
  let extent (start stop : Int) : Extent :=
    if start < 13 then ⟨start, stop, 0, start⟩
    else if start < 24 then ⟨start, stop, 1, start - 13⟩
    else if start < 32 then ⟨start, stop, 2, start - 24⟩
    else ⟨start, stop, 3, start - 32⟩
  let node (kind : String) (field : Option String) (start stop : Int) : List Concrete → Concrete :=
    .mk kind true field (extent start stop) false false
  let token (kind : String) (start stop : Int) : Concrete :=
    .mk kind false none (extent start stop) false false []
  node "program" none 0 35
    [node "call" none 0 35
      [node "identifier" (some "method") 0 1 [],
       node "argument_list" (some "arguments") 2 20
        [node "scope_resolution" none 2 5 [token "::" 2 4, node "constant" (some "name") 4 5 []],
         token "," 5 6,
         node "pair" none 7 11
          [node "hash_key_symbol" (some "key") 7 8 [], token ":" 8 9, node "integer" (some "value") 10 11 []],
         token "," 11 12,
         node "pair" none 14 20
          [node "string" (some "key") 14 17 [node "string_content" none 15 16 []], token ":" 17 18,
           node "integer" (some "value") 19 20 []]],
       node "do_block" (some "block") 21 35
        [token "do" 21 23,
         node "body_statement" (some "body") 26 31
          [node "binary" none 26 31
            [node "identifier" (some "left") 26 27 [],
             .mk "+" false (some "operator") (extent 28 29) false false [],
             node "identifier" (some "right") 30 31 []]],
         token "end" 32 35]]]

theorem toNode_callOverLines :
    let bytes := Text.Utf8.encode "a ::B, c: 1,\n \"d\": 2 do\n  e + f\nend".toList
    callOverLines.SpanOrdered ∧ (∀ d ∈ callOverLines.nodes, d.RootFits) ∧
      (∀ d ∈ callOverLines.nodes, (d.extent.row, d.extent.column) = placeOf bytes d.extent.start) ∧
      Everywhere Nested (callOverLines.toNode bytes) ∧
      Everywhere (fun n => (n.span.line - 1, n.span.column) = placeOf bytes n.span.start)
        (callOverLines.toNode bytes) := by
  intro bytes
  have horder : callOverLines.SpanOrdered := by decide
  have hroots : ∀ d ∈ callOverLines.nodes, d.RootFits := by decide
  have hplaces : ∀ d ∈ callOverLines.nodes,
      (d.extent.row, d.extent.column) = placeOf bytes d.extent.start := by decide +kernel
  obtain ⟨hnested, -, hagree⟩ := toNode_nested bytes callOverLines horder hroots
  exact ⟨horder, hroots, hplaces, hnested, hagree hplaces⟩

end GroupLint
