import GroupLint.Proofs.Recording

/-! Where captures come from. Each of them stands for an occurrence of `capture` in the pattern, and
they come in the order in which these occurrences are met from left to right. A position of a pattern
lists the parts to go through from the whole; the value of a shape is its first part. -/
namespace GroupLint

/-- The slot itself, or a slot, empty or not, of the node in it or of a node further down. -/
inductive Within : Slot → Slot → Prop
  | self (s : Slot) : Within s s
  | down {n : Node} {t c : Slot} : t ∈ n.children → Within t c → Within (some n) c

def FirstAt {α : Type} (P : α → Prop) (xs : List α) (i : Nat) (x : α) : Prop :=
  xs[i]? = some x ∧ P x ∧ ∀ j < i, ∀ y, xs[j]? = some y → ¬ P y

theorem FirstAt.unique {α : Type} {P : α → Prop} {xs : List α} {i j : Nat} {x y : α}
    (hx : FirstAt P xs i x) (hy : FirstAt P xs j y) : i = j ∧ x = y := by
  obtain ⟨hxi, hPx, hbx⟩ := hx
  obtain ⟨hyj, hPy, hby⟩ := hy
  have hij : i = j := by
    have hle : ¬ j < i := fun hlt => hbx j hlt y hyj hPy
    have hge : ¬ i < j := fun hlt => hby i hlt x hxi hPx
    omega
  subst hij
  exact ⟨rfl, Option.some.inj (hxi.symm.trans hyj)⟩

namespace Pattern

def part? : Pattern → Position → Option Pattern
  | p, [] => some p
  | p, i :: pos => p.parts[i]?.bind fun q => q.part? pos

theorem part?_cons {p q : Pattern} {i : Nat} (h : p.parts[i]? = some q) (pos : Position) :
    p.part? (i :: pos) = q.part? pos := by
  rw [part?, h, Option.bind_some]

/-- The slot that the pattern of an index is for: counted from the front, or from the back if a rest
stands before the pattern. -/
def rowSlot? (ps : List Pattern) (ss : List Slot) (i : Nat) : Option Slot :=
  if (ps.take i).any isRest then ss[ss.length + i - ps.length]? else ss[i]?

/-- When a pattern is matched with a slot, the `capture` at a position binds a slot. Nothing is bound
below a `not`, and of alternatives only the first that fits binds anything. -/
inductive Binds : Pattern → Slot → Position → Slot → Prop
  | here {p : Pattern} {s : Slot} : p.Satisfies s → Binds (.capture p) s [] s
  | inside {p : Pattern} {s c : Slot} {pos : Position} :
      Binds p s pos c → Binds (.capture p) s (0 :: pos) c
  | all {ps : List Pattern} {p : Pattern} {i : Nat} {s c : Slot} {pos : Position} :
      ps[i]? = some p → Binds p s pos c → Binds (.allOf ps) s (i :: pos) c
  | first {ps : List Pattern} {p : Pattern} {i : Nat} {s c : Slot} {pos : Position} :
      FirstAt (fun q => q.Satisfies s) ps i p → Binds p s pos c → Binds (.anyOf ps) s (i :: pos) c
  | child {p : Pattern} {n : Node} {i : Nat} {t c : Slot} {pos : Position} :
      FirstAt p.Satisfies n.children i t → Binds p t pos c → Binds (.hasChild p) (some n) (0 :: pos) c
  | value {ks : List String} {v : Pattern} {ps : List Pattern} {s c : Slot} {pos : Position} :
      Binds v s pos c → Binds (.shape ks v ps) s (0 :: pos) c
  | slot {ks : List String} {v p : Pattern} {ps : List Pattern} {n : Node} {i : Nat} {t c : Slot}
      {pos : Position} : ps[i]? = some p → rowSlot? ps n.children i = some t → Binds p t pos c →
      Binds (.shape ks v ps) (some n) ((i + 1) :: pos) c

section Bound
variable {p : Pattern} {ps : List Pattern} {s c : Slot} {pos : Position}

theorem mem_of_rowSlot {ss : List Slot} {i : Nat} (h : rowSlot? ps ss i = some s) : s ∈ ss := by
  rw [rowSlot?] at h
  split at h
  · exact List.mem_of_getElem? h
  · exact List.mem_of_getElem? h

theorem Binds.within (h : p.Binds s pos c) : Within s c := by
  induction h with
  | here _ => exact .self _
  | inside _ ih => exact ih
  | all _ _ ih => exact ih
  | first _ _ ih => exact ih
  | child hfirst _ ih => exact .down (List.mem_of_getElem? hfirst.1) ih
  | value _ ih => exact ih
  | slot _ ht _ ih => exact .down (mem_of_rowSlot ht) ih

theorem Binds.of_capture (h : p.Binds s pos c) :
    ∃ q, p.part? pos = some (.capture q) ∧ q.Satisfies c := by
  induction h with
  | @here p s hs => exact ⟨p, rfl, hs⟩
  | inside _ ih => exact ih
  | all hp _ ih =>
    rw [part?_cons hp]
    exact ih
  | first hfirst _ ih =>
    rw [part?_cons hfirst.1]
    exact ih
  | child _ _ ih => exact ih
  | value _ ih => exact ih
  | slot hp _ _ ih =>
    rw [part?_cons (by simpa [parts] using hp)]
    exact ih

end Bound

def InOrder (B : Position → Slot → Prop) (cs : Captures) : Prop :=
  ∃ bs : List (Position × Slot), bs.map Prod.snd = cs ∧
    (bs.map Prod.fst).Pairwise Position.Before ∧ ∀ pos c, (pos, c) ∈ bs ↔ B pos c

def Under (i : Nat) (B : Position → Slot → Prop) (pos : Position) (c : Slot) : Prop :=
  ∃ q, pos = i :: q ∧ B q c

def Numbered (k : Nat) (Bs : List (Position → Slot → Prop)) (pos : Position) (c : Slot) : Prop :=
  ∃ i B, Bs[i]? = some B ∧ Under (k + i) B pos c

section Order
variable {B B' : Position → Slot → Prop} {cs ds : Captures}

theorem InOrder.congr (h : InOrder B cs) (hB : ∀ pos c, B pos c ↔ B' pos c) : InOrder B' cs := by
  obtain ⟨bs, hcs, hsorted, hmem⟩ := h
  exact ⟨bs, hcs, hsorted, fun pos c => (hmem pos c).trans (hB pos c)⟩

theorem inOrder_nil (h : ∀ pos c, ¬ B pos c) : InOrder B [] :=
  ⟨[], rfl, .nil, fun pos c => by simp [h]⟩

theorem inOrder_here (s : Slot) : InOrder (fun pos c => pos = [] ∧ c = s) [s] :=
  ⟨[([], s)], rfl, List.pairwise_singleton _ _, fun pos c => by simp⟩

theorem InOrder.under (i : Nat) (h : InOrder B cs) : InOrder (Under i B) cs := by
  obtain ⟨bs, hcs, hsorted, hmem⟩ := h
  refine ⟨bs.map fun b => (i :: b.1, b.2), ?_, ?_, ?_⟩
  · rw [List.map_map, ← hcs]
    rfl
  · rw [List.pairwise_map] at hsorted
    rw [List.map_map, List.pairwise_map]
    exact hsorted.imp List.Lex.cons
  · intro pos c
    simp only [List.mem_map, Prod.mk.injEq, Prod.exists, Under, hmem]
    constructor
    · intro h
      obtain ⟨q, d, hq, rfl, rfl⟩ := h
      exact ⟨q, rfl, hq⟩
    · intro h
      obtain ⟨q, rfl, hq⟩ := h
      exact ⟨q, c, hq, rfl, rfl⟩

theorem InOrder.append (h : InOrder B cs) (h' : InOrder B' ds)
    (hbefore : ∀ pos c pos' c', B pos c → B' pos' c' → Position.Before pos pos') :
    InOrder (fun pos c => B pos c ∨ B' pos c) (cs ++ ds) := by
  obtain ⟨bs, hcs, hsorted, hmem⟩ := h
  obtain ⟨bs', hds, hsorted', hmem'⟩ := h'
  refine ⟨bs ++ bs', by rw [List.map_append, hcs, hds], ?_, ?_⟩
  · rw [List.map_append, List.pairwise_append]
    refine ⟨hsorted, hsorted', fun pos hpos pos' hpos' => ?_⟩
    obtain ⟨b, hb, rfl⟩ := List.mem_map.mp hpos
    obtain ⟨b', hb', rfl⟩ := List.mem_map.mp hpos'
    exact hbefore b.1 b.2 b'.1 b'.2 ((hmem _ _).mp hb) ((hmem' _ _).mp hb')
  · intro pos c
    rw [List.mem_append, hmem, hmem']

theorem numbered_cons {Bs : List (Position → Slot → Prop)} {k : Nat} {pos : Position} {c : Slot} :
    Numbered k (B :: Bs) pos c ↔ Under k B pos c ∨ Numbered (k + 1) Bs pos c := by
  constructor
  · intro h
    obtain ⟨i, B', hi, hu⟩ := h
    cases i with
    | zero =>
      obtain rfl : B = B' := by simpa using hi
      exact Or.inl hu
    | succ i => exact Or.inr ⟨i, B', hi, by rwa [Nat.add_assoc, Nat.add_comm 1]⟩
  · intro h
    cases h with
    | inl hu => exact ⟨0, B, rfl, hu⟩
    | inr h =>
      obtain ⟨i, B', hi, hu⟩ := h
      exact ⟨i + 1, B', hi, by rwa [Nat.add_assoc, Nat.add_comm 1] at hu⟩

theorem inOrder_numbered {Bs : List (Position → Slot → Prop)} {css : List Captures}
    (h : List.Forall₂ InOrder Bs css) (k : Nat) : InOrder (Numbered k Bs) css.flatten := by
  induction h generalizing k with
  | nil => exact inOrder_nil fun pos c hb => by simp [Numbered] at hb
  | cons hB _ ih =>
    refine ((hB.under k).append (ih (k + 1)) ?_).congr fun pos c => numbered_cons.symm
    intro pos c pos' c' hb hb'
    obtain ⟨q, rfl, -⟩ := hb
    obtain ⟨i, B', -, q', rfl, -⟩ := hb'
    exact List.Lex.rel (by omega)

end Order

def rowBinds (ps : List Pattern) (ss : List Slot) : List (Position → Slot → Prop) :=
  ps.mapIdx fun i p pos c => ∃ t, rowSlot? ps ss i = some t ∧ p.Binds t pos c

section Row
variable {p : Pattern} {ps : List Pattern} {s : Slot} {ss : List Slot}

theorem rowSlot_succ (hp : p ≠ .rest) (hlen : coversLength ps ss.length) (i : Nat) :
    rowSlot? (p :: ps) (s :: ss) (i + 1) = rowSlot? ps ss i := by
  have hnot : p.isRest = false := by simpa [← isRest_iff] using hp
  rw [rowSlot?, rowSlot?, List.take_succ_cons, List.any_cons, hnot, Bool.false_or]
  by_cases hr : (ps.take i).any isRest
  -- Counted from the back, the index must not fall below zero: there is a slot for every pattern
  -- but the rest, and the rest stands before this one.
  · have hany : ps.any isRest := by
      obtain ⟨q, hq, hrest⟩ := List.any_eq_true.mp hr
      exact List.any_eq_true.mpr ⟨q, List.mem_of_mem_take hq, hrest⟩
    have hpos : 0 < i := by
      apply Nat.pos_of_ne_zero
      intro hi
      simp [hi] at hr
    have hcover : ps.length ≤ ss.length + 1 := by simpa [coversLength, hany] using hlen
    have hindex : (s :: ss).length + (i + 1) - (p :: ps).length = ss.length + i - ps.length + 1 := by
      simp only [List.length_cons]
      omega
    rw [if_pos hr, if_pos hr, hindex, List.getElem?_cons_succ]
  · rw [if_neg hr, if_neg hr, List.getElem?_cons_succ]

theorem rowSlot_rest (hps : ∀ p ∈ ps, p ≠ .rest) (hlen : ps.length ≤ ss.length) (i : Nat) :
    rowSlot? (.rest :: ps) ss (i + 1) = rowSlot? ps (ss.drop (ss.length - ps.length)) i := by
  have hnone : ¬ (ps.take i).any isRest := by
    intro hr
    obtain ⟨q, hq, hrest⟩ := List.any_eq_true.mp hr
    exact hps q (List.mem_of_mem_take hq) (isRest_iff.mp hrest)
  have hindex : ss.length + (i + 1) - (ps.length + 1) = ss.length - ps.length + i := by omega
  rw [rowSlot?, rowSlot?, List.take_succ_cons, List.any_cons, if_neg hnone, List.getElem?_drop,
    List.length_cons, hindex]
  simp [isRest]

theorem rowBinds_cons (hp : p ≠ .rest) (hlen : coversLength ps ss.length) :
    rowBinds (p :: ps) (s :: ss) = p.Binds s :: rowBinds ps ss := by
  rw [rowBinds, List.mapIdx_cons, rowBinds]
  congr 1
  · funext pos c
    simp [rowSlot?]
  · simp only [rowSlot_succ hp hlen]

theorem not_binds_rest {pos : Position} {c : Slot} : ¬ Binds .rest s pos c := by
  intro h
  cases h

theorem rowBinds_rest (hps : ∀ p ∈ ps, p ≠ .rest) (hlen : ps.length ≤ ss.length) :
    rowBinds (.rest :: ps) ss =
      (fun _ _ => False) :: rowBinds ps (ss.drop (ss.length - ps.length)) := by
  rw [rowBinds, List.mapIdx_cons, rowBinds]
  congr 1
  · funext pos c
    simp [not_binds_rest]
  · simp only [rowSlot_rest hps hlen]

theorem row_inOrder
    (hps : ∀ p ∈ ps, p ≠ .rest → ∀ s cs, p.match? s = .ok (some cs) → InOrder (p.Binds s) cs)
    (hcount : ps.countP isRest ≤ 1) {cs : Captures} (hlen : coversLength ps ss.length)
    (h : collectRow ps ss [] = .ok (some cs)) :
    ∃ css : List Captures, List.Forall₂ InOrder (rowBinds ps ss) css ∧ css.flatten = cs := by
  induction ps generalizing ss cs with
  | nil =>
    rw [collectRow] at h
    exact ⟨[], .nil, by simpa using h⟩
  | cons p ps ih =>
    obtain ⟨hone, hmore⟩ := List.forall_mem_cons.mp hps
    have hle : ps.countP isRest ≤ 1 := Nat.le_trans (List.sublist_cons_self p ps).countP_le hcount
    by_cases hp : p = .rest
    · subst hp
      -- No other rest follows, so the patterns after this one take the last slots one to one.
      have hne := forall_ne_rest_of_countP hcount
      have hfits := (coversLength_rest ps _).mp hlen
      have hcovers : coversLength ps (ss.drop (ss.length - ps.length)).length := by
        rw [coversLength_of_no_rest hne, List.length_drop]
        omega
      rw [collectRow] at h
      obtain ⟨css, hcss, rfl⟩ := ih hmore hle hcovers h
      rw [rowBinds_rest hne hfits]
      exact ⟨[] :: css, .cons (inOrder_nil fun _ _ => id) hcss, rfl⟩
    · cases ss with
      | nil => exact absurd hlen (not_coversLength_zero hp)
      | cons s ss =>
        rw [List.length_cons, coversLength_succ hp] at hlen
        rw [collectRow_cons ps s hp] at h
        obtain ⟨ds, es, hds, hes, rfl⟩ := exists_of_both h
        obtain ⟨css, hcss, rfl⟩ := ih hmore hle hlen hes
        rw [rowBinds_cons hp hlen]
        exact ⟨ds :: css, .cons (hone hp s ds hds) hcss, rfl⟩

end Row

section Meaningful
variable {p : Pattern} {ps : List Pattern} {s : Slot}

theorem areMeaningful_iff : areMeaningful ps ↔ ∀ p ∈ ps, p.isMeaningful := by
  induction ps with
  | nil => simp [areMeaningful]
  | cons p ps ih => simp [areMeaningful, ih]

theorem isMeaningful_of_row (h : isMeaningfulRow ps) : ∀ p ∈ ps, p ≠ .rest → p.isMeaningful := by
  induction ps with
  | nil => simp
  | cons p ps ih =>
    rw [isMeaningfulRow, Bool.and_eq_true, Bool.or_eq_true, isRest_iff] at h
    rw [List.forall_mem_cons]
    exact ⟨fun hp => h.1.resolve_left hp, ih h.2⟩

theorem satisfies_of_match {cs : Captures} (hp : p.isMeaningful) (h : p.match? s = .ok (some cs)) :
    p.Satisfies s := by
  cases match_cases hp s with
  | inl hmiss => simp [h] at hmiss
  | inr hhit => exact hhit.choose_spec.2

theorem not_satisfies_of_match (hp : p.isMeaningful) (h : p.match? s = .ok none) : ¬ p.Satisfies s := by
  cases match_cases hp s with
  | inl hmiss => exact hmiss.2
  | inr hhit => simp [h] at hhit

end Meaningful

section Binding
variable {p : Pattern} {ps : List Pattern} {s : Slot} {pos : Position} {c : Slot}

theorem binds_capture_iff (hs : p.Satisfies s) :
    (capture p).Binds s pos c ↔ (pos = [] ∧ c = s) ∨ Under 0 (p.Binds s) pos c := by
  constructor
  · intro h
    cases h with
    | here _ => exact Or.inl ⟨rfl, rfl⟩
    | inside h => exact Or.inr ⟨_, rfl, h⟩
  · intro h
    cases h with
    | inl h =>
      obtain ⟨rfl, rfl⟩ := h
      exact .here hs
    | inr h =>
      obtain ⟨q, rfl, h⟩ := h
      exact .inside h

theorem binds_allOf_iff :
    (allOf ps).Binds s pos c ↔ Numbered 0 (ps.map fun p => p.Binds s) pos c := by
  constructor
  · intro h
    cases h with
    | @all _ p i _ _ q hp h => exact ⟨i, p.Binds s, by simp [hp], q, by rw [Nat.zero_add], h⟩
  · intro h
    obtain ⟨i, B, hi, q, rfl, hq⟩ := h
    rw [List.getElem?_map, Option.map_eq_some_iff] at hi
    obtain ⟨p, hp, rfl⟩ := hi
    rw [Nat.zero_add]
    exact .all hp hq

theorem binds_anyOf_iff {i : Nat} (hfirst : FirstAt (fun q => q.Satisfies s) ps i p) :
    (anyOf ps).Binds s pos c ↔ Under i (p.Binds s) pos c := by
  constructor
  · intro h
    cases h with
    | first hfirst' h =>
      obtain ⟨rfl, rfl⟩ := hfirst.unique hfirst'
      exact ⟨_, rfl, h⟩
  · intro h
    obtain ⟨q, rfl, h⟩ := h
    exact .first hfirst h

theorem binds_hasChild_iff {n : Node} {i : Nat} {t : Slot}
    (hfirst : FirstAt p.Satisfies n.children i t) :
    (hasChild p).Binds (some n) pos c ↔ Under 0 (p.Binds t) pos c := by
  constructor
  · intro h
    cases h with
    | child hfirst' h =>
      obtain ⟨rfl, rfl⟩ := hfirst.unique hfirst'
      exact ⟨_, rfl, h⟩
  · intro h
    obtain ⟨q, rfl, h⟩ := h
    exact .child hfirst h

theorem binds_shape_iff {ks : List String} {v : Pattern} {n : Node} :
    (shape ks v ps).Binds (some n) pos c ↔
      Numbered 0 (v.Binds (some n) :: rowBinds ps n.children) pos c := by
  rw [numbered_cons]
  constructor
  · intro h
    cases h with
    | value h => exact Or.inl ⟨_, rfl, h⟩
    | @slot _ _ p _ _ i t _ q hp ht h =>
      have hrow : (rowBinds ps n.children)[i]? =
          some fun pos c => ∃ t, rowSlot? ps n.children i = some t ∧ p.Binds t pos c := by
        rw [rowBinds, List.getElem?_mapIdx, hp, Option.map_some]
      exact Or.inr ⟨i, _, hrow, q, by rw [Nat.zero_add, Nat.add_comm], t, ht, h⟩
  · intro h
    cases h with
    | inl h =>
      obtain ⟨q, rfl, h⟩ := h
      exact .value h
    | inr h =>
      obtain ⟨i, B, hi, q, rfl, hq⟩ := h
      rw [rowBinds, List.getElem?_mapIdx, Option.map_eq_some_iff] at hi
      obtain ⟨p, hp, rfl⟩ := hi
      obtain ⟨t, ht, h⟩ := hq
      rw [Nat.zero_add, Nat.add_comm]
      exact .slot hp ht h

end Binding

theorem match_inOrder (p : Pattern) : p.isMeaningful → ∀ s cs, p.match? s = .ok (some cs) →
    InOrder (p.Binds s) cs := by
  induction p using induction_on_parts with
  | step p ih =>
    intro hp s cs h
    cases p with
    | capture p =>
      rw [isMeaningful] at hp
      rw [match_capture] at h
      obtain ⟨ds, hds, rfl⟩ := exists_of_extend h
      have hbound := (ih p (by simp [parts]) hp s ds hds).under 0
      refine ((inOrder_here s).append hbound ?_).congr fun pos c =>
        (binds_capture_iff (satisfies_of_match hp hds)).symm
      intro pos c pos' c' hb hb'
      obtain ⟨rfl, -⟩ := hb
      obtain ⟨q, rfl, -⟩ := hb'
      exact List.Lex.nil
    | not p =>
      rw [match_not] at h
      rw [eq_nil_of_negated h]
      exact inOrder_nil fun pos c hb => by cases hb
    | allOf ps =>
      rw [isMeaningful, areMeaningful_iff] at hp
      rw [match_allOf] at h
      obtain ⟨css, hcss, rfl⟩ := exists_of_inTurn (fun p hmem => ih p hmem (hp p hmem) s) h
      have hbound : List.Forall₂ InOrder (ps.map fun p => p.Binds s) css :=
        List.forall₂_map_left_iff.mpr hcss
      exact (inOrder_numbered hbound 0).congr fun pos c => binds_allOf_iff.symm
    | anyOf ps =>
      rw [isMeaningful, areMeaningful_iff] at hp
      rw [match_anyOf] at h
      obtain ⟨i, q, hq, hcs, hbefore⟩ := exists_of_firstOf h
      have hmem : q ∈ ps := List.mem_of_getElem? hq
      have hfirst : FirstAt (fun q => q.Satisfies s) ps i q :=
        ⟨hq, satisfies_of_match (hp q hmem) hcs, fun j hj r hr =>
          not_satisfies_of_match (hp r (List.mem_of_getElem? hr)) (hbefore j hj r hr)⟩
      exact ((ih q hmem (hp q hmem) s cs hcs).under i).congr fun pos c => (binds_anyOf_iff hfirst).symm
    | hasChild p =>
      rw [isMeaningful] at hp
      obtain ⟨n, rfl, hfirst⟩ := node_of_match_hasChild h
      obtain ⟨i, t, ht, hcs, hbefore⟩ := exists_of_firstOf hfirst
      have hfirst : FirstAt p.Satisfies n.children i t :=
        ⟨ht, satisfies_of_match hp hcs, fun j hj u hu => not_satisfies_of_match hp (hbefore j hj u hu)⟩
      exact ((ih p (by simp [parts]) hp t cs hcs).under 0).congr fun pos c =>
        (binds_hasChild_iff hfirst).symm
    | shape ks v ps =>
      simp only [isMeaningful, Bool.and_eq_true, decide_eq_true_eq] at hp
      obtain ⟨n, rfl, -, hboth⟩ := node_of_match_shape h
      obtain ⟨ds, es, hds, hes, rfl⟩ := exists_of_both hboth
      obtain ⟨hlen, hrow⟩ := collectRow_of_collectCovered hes
      have hv := ih v (by simp [parts]) hp.1.1 (some n) ds hds
      have hps : ∀ p ∈ ps, p ≠ .rest → ∀ s cs, p.match? s = .ok (some cs) → InOrder (p.Binds s) cs :=
        fun p hmem hne => ih p (by simp [parts, hmem]) (isMeaningful_of_row hp.2 p hmem hne)
      obtain ⟨css, hcss, rfl⟩ := row_inOrder hps hp.1.2 hlen hrow
      exact (inOrder_numbered (.cons hv hcss) 0).congr fun pos c => binds_shape_iff.symm
    | _ =>
      rw [captures_of_no_parts rfl h]
      exact inOrder_nil fun pos c hb => by cases hb

theorem record_cases {p : Pattern} (hp : p.isMeaningful) (s : Slot) (acc : Captures) :
    (p.match? s = .ok none ∧ p.record s acc = .ok (false, acc)) ∨
      ∃ cs, p.match? s = .ok (some cs) ∧ p.record s acc = .ok (true, acc ++ cs) := by
  rw [record_eq_settle]
  cases match_cases hp s with
  | inl hmiss => exact Or.inl ⟨hmiss.1, by rw [hmiss.1, settle]⟩
  | inr hhit =>
    obtain ⟨cs, hcs, -⟩ := hhit
    exact Or.inr ⟨cs, hcs, by rw [hcs, settle]⟩

/-- The captures of a match are the slots that the pattern binds, in pattern order. What a `capture`
binds is found within the slot and fits the pattern inside it. On a list, captures are added at the
end, and nothing changes without a match. -/
theorem captures_in_pattern_order (p : Pattern) (hp : p.isMeaningful) (s : Slot) :
    (∀ cs, p.match? s = .ok (some cs) → InOrder (p.Binds s) cs) ∧
    (∀ pos c, p.Binds s pos c →
      Within s c ∧ ∃ q, p.part? pos = some (.capture q) ∧ q.Satisfies c) ∧
    ∀ acc, (p.match? s = .ok none ∧ p.record s acc = .ok (false, acc)) ∨
      ∃ cs, p.match? s = .ok (some cs) ∧ p.record s acc = .ok (true, acc ++ cs) :=
  ⟨match_inOrder p hp s, fun _ _ h => ⟨h.within, h.of_capture⟩, record_cases hp s⟩

/-- The alternative that does not fit binds nothing, and the hash comes before the pair in it. -/
theorem captures_receiverAndPair :
    let node (kind : String) (slots : List Slot) : Slot := some (.mk kind none ⟨0, 0, 1, 0⟩ slots)
    let receiver := node "const" [none]
    let pair := node "pair" [none, none]
    let hash := node "hash" [none, pair, pair]
    let call := node "send" [receiver, none, hash]
    receiverAndPair.isMeaningful ∧
      receiverAndPair.match? call = .ok (some [receiver, hash, pair]) ∧
      InOrder (receiverAndPair.Binds call) [receiver, hash, pair] ∧
      receiverAndPair.record call [none] = .ok (true, [none, receiver, hash, pair]) := by
  intro node receiver pair hash call
  have hmatch : receiverAndPair.match? call = .ok (some [receiver, hash, pair]) := rfl
  obtain ⟨horder, -, hrecord⟩ := captures_in_pattern_order receiverAndPair rfl call
  refine ⟨rfl, hmatch, horder _ hmatch, ?_⟩
  cases hrecord [none] with
  | inl h => simp [hmatch] at h
  | inr h =>
    obtain ⟨cs, hcs, hr⟩ := h
    obtain rfl : [receiver, hash, pair] = cs := by simpa [hmatch] using hcs
    exact hr

end Pattern
end GroupLint
