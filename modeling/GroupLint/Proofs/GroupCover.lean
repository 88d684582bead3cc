import GroupLint.Proofs.Offenses
import GroupLint.Proofs.OutermostGroups

/-! The top-level groups cover all example groups. Blocks around a position are nested, so that a
position inside spec groups has one outermost among them. If that is an example group it is a top-level
one, and else it is a shared group, which hides what is in its block. -/
namespace GroupLint
open Node

/-- A call told by its position, with the block that it opens. -/
structure SiteAt (root : Slot) (p : Position) (c : Call) : Prop where
  send : slotAt root p = some c.send
  isCall : c.send.isCall
  block : c.block = blockOver root p

/-- A position is in the block that the call at another one opens: it leaves this block through a later
slot than the call's. -/
def InBlockOf (root : Slot) (q p : Position) : Prop :=
  ∃ outer n i t, q = outer ++ [0] ∧ p = outer ++ i :: t ∧ 1 ≤ i ∧
    slotAt root outer = some n ∧ n.kind = "block"

section Blocks
variable {root : Slot} {p q q' : Position}

theorem SiteAt.unique {c d : Call} (hc : SiteAt root p c) (hd : SiteAt root p d) : c = d := by
  obtain ⟨send, block⟩ := c
  obtain ⟨send', block'⟩ := d
  have hsend : send = send' := Option.some.inj (hc.send.symm.trans hd.send)
  have hblock : block = block' := hc.block.trans hd.block.symm
  rw [hsend, hblock]

theorem InBlockOf.append (h : InBlockOf root q p) (t : Position) : InBlockOf root q (p ++ t) := by
  obtain ⟨outer, n, i, u, hq, hp, hi, hn, hk⟩ := h
  refine ⟨outer, n, i, u ++ t, hq, ?_, hi, hn, hk⟩
  rw [hp, List.append_assoc, List.cons_append]

theorem inBlockOf_call {outer : Position} (h : InBlockOf root q (outer ++ [0])) :
    InBlockOf root q outer := by
  obtain ⟨o, n, i, t, hq, hp, hi, hn, hk⟩ := h
  rcases List.eq_nil_or_concat t with ht | ⟨t', j, ht⟩
  · have hlast : outer = o ∧ 0 = i := by
      rw [ht] at hp
      simpa using List.append_inj' hp rfl
    omega
  · have hsplit : outer ++ [0] = (o ++ i :: t') ++ [j] := by
      rw [hp, ht, List.concat_eq_append, List.append_assoc, List.cons_append]
    have houter : outer = o ++ i :: t' := (List.append_inj' hsplit rfl).1
    exact ⟨o, n, i, t', hq, houter, hi, hn, hk⟩

theorem InBlockOf.trans (h : InBlockOf root q q') (h' : InBlockOf root q' p) : InBlockOf root q p := by
  obtain ⟨outer, n, i, t, hq', hp, -, -, -⟩ := h'
  rw [hq'] at h
  rw [hp]
  exact (inBlockOf_call h).append (i :: t)

theorem InBlockOf.length_lt (h : InBlockOf root q q') (h' : InBlockOf root q' p) :
    q.length < q'.length := by
  obtain ⟨outer, n, i, t, hq', -, -, -, -⟩ := h'
  rw [hq'] at h
  obtain ⟨o, m, j, u, hq, hp, -, -, -⟩ := inBlockOf_call h
  rw [hq, hq', hp]
  simp only [List.length_append, List.length_cons, List.length_nil]
  omega

theorem eq_or_inBlockOf {outer rest t u : Position} {i : Nat} {n : Node} (hi : 1 ≤ i)
    (hn : slotAt root outer = some n) (hk : n.kind = "block") (hrest : i :: t = rest ++ u) :
    outer ++ [0] = outer ++ rest ++ [0] ∨ InBlockOf root (outer ++ [0]) (outer ++ rest ++ [0]) := by
  cases rest with
  | nil =>
    rw [List.append_nil]
    exact Or.inl rfl
  | cons j rest =>
    obtain ⟨rfl, -⟩ : i = j ∧ t = rest ++ u := by simpa using hrest
    have h : InBlockOf root (outer ++ [0]) (outer ++ i :: rest) := ⟨outer, n, i, rest, rfl, rfl, hi, hn, hk⟩
    exact Or.inr (h.append [0])

theorem InBlockOf.nested (h : InBlockOf root q p) (h' : InBlockOf root q' p) :
    q = q' ∨ InBlockOf root q q' ∨ InBlockOf root q' q := by
  obtain ⟨outer, n, i, t, rfl, hp, hi, hn, hk⟩ := h
  obtain ⟨outer', n', i', t', rfl, hp', hi', hn', hk'⟩ := h'
  rcases List.append_eq_append_iff.mp (hp.symm.trans hp') with ⟨rest, rfl, hrest⟩ | ⟨rest, rfl, hrest⟩
  · exact (eq_or_inBlockOf hi hn hk hrest).imp_right Or.inl
  · exact (eq_or_inBlockOf hi' hn' hk' hrest).imp Eq.symm Or.inr

end Blocks

namespace Vocabulary
variable {v : Vocabulary} {root : Slot} {p : Position}

theorem insideGroup_iff :
    v.InsideGroup root p ↔ ∃ q c, InBlockOf root q p ∧ SiteAt root q c ∧ v.isSpecGroup c := by
  constructor
  · intro h
    obtain ⟨outer, i, t, b, send, hp, hi, hb, hk, hs, hc, hg⟩ := h
    have hblock : blockOver root (outer ++ [0]) = some b := by
      simp [blockOver, hb, hk]
    refine ⟨outer ++ [0], ⟨send, some b⟩, ⟨outer, b, i, t, rfl, hp, hi, hb, hk⟩, ?_, ?_⟩
    · exact ⟨by rw [slotAt_snoc hb, hs], hc, hblock.symm⟩
    · exact isSpecGroup_iff.mpr hg
  · intro h
    obtain ⟨q, c, ⟨outer, n, i, t, hq, hp, hi, hn, hk⟩, hsite, hg⟩ := h
    have hs : n.slot 0 = some c.send := by
      rw [← slotAt_snoc hn, ← hq, hsite.send]
    exact ⟨outer, i, t, n, c.send, hp, hi, hn, hk, hs, hsite.isCall, isSpecGroup_iff.mp hg⟩

/-- The spec group at a position encloses another position, and nothing encloses it in turn. -/
structure OutermostOver (v : Vocabulary) (root : Slot) (q p : Position) (c : Call) : Prop where
  encloses : InBlockOf root q p
  site : SiteAt root q c
  isSpecGroup : v.isSpecGroup c
  outermost : ¬ v.InsideGroup root q

theorem exists_outermostOver (h : v.InsideGroup root p) : ∃ q c, v.OutermostOver root q p c := by
  obtain ⟨q, c, hq, hsite, hg⟩ := insideGroup_iff.mp h
  -- A group around the block of another one has the shorter position.
  induction hlen : q.length using Nat.strong_induction_on generalizing q c with
  | _ len ih =>
    by_cases hin : v.InsideGroup root q
    · obtain ⟨q', c', hq', hsite', hg'⟩ := insideGroup_iff.mp hin
      have hlt : q'.length < len := by
        rw [← hlen]
        exact hq'.length_lt hq
      exact ih q'.length hlt q' c' (hq'.trans hq) hsite' hg' rfl
    · exact ⟨q, c, hq, hsite, hg, hin⟩

theorem OutermostOver.unique {q q' : Position} {c c' : Call} (h : v.OutermostOver root q p c)
    (h' : v.OutermostOver root q' p c') : q = q' ∧ c = c' := by
  have hq : q = q' := by
    rcases h.encloses.nested h'.encloses with heq | hin | hin
    · exact heq
    · exact absurd (insideGroup_iff.mpr ⟨q, c, hin, h.site, h.isSpecGroup⟩) h'.outermost
    · exact absurd (insideGroup_iff.mpr ⟨q', c', hin, h'.site, h'.isSpecGroup⟩) h.outermost
  subst hq
  exact ⟨rfl, h.site.unique h'.site⟩

/-- A position is in the block of an outermost shared group that is no example group. -/
def UnderShared (v : Vocabulary) (root : Slot) (p : Position) : Prop :=
  ∃ q c, InBlockOf root q p ∧ SiteAt root q c ∧ v.isSharedGroup c ∧ ¬ v.isExampleGroup c ∧
    ¬ v.InsideGroup root q

theorem underShared_iff :
    v.UnderShared root p ↔ ∃ q c, v.OutermostOver root q p c ∧ ¬ v.isExampleGroup c := by
  constructor
  · intro h
    obtain ⟨q, c, hq, hsite, hshared, hno, hout⟩ := h
    exact ⟨q, c, ⟨hq, hsite, by simp [isSpecGroup, hshared], hout⟩, hno⟩
  · intro h
    obtain ⟨q, c, h, hno⟩ := h
    have hshared : v.isSharedGroup c := by simpa [isSpecGroup, hno] using h.isSpecGroup
    exact ⟨q, c, h.encloses, h.site, hshared, hno, h.outermost⟩

def groupPositions (v : Vocabulary) (root : Slot) : List Position :=
  (positionsOf root).filter fun p => (v.groupAt root p).isSome

theorem mem_groupPositions_iff :
    p ∈ v.groupPositions root ↔
      ∃ c, SiteAt root p c ∧ v.isExampleGroup c ∧ ¬ v.InsideGroup root p := by
  rw [groupPositions, List.mem_filter, mem_positionsOf, Option.isSome_iff_exists]
  simp only [groupAt_eq_some_iff]
  constructor
  · intro h
    obtain ⟨_, c, hsend, hc, hblock, hg, hout⟩ := h
    exact ⟨c, ⟨hsend, hc, hblock⟩, hg, hout⟩
  · intro h
    obtain ⟨c, hsite, hg, hout⟩ := h
    exact ⟨⟨c.send, hsite.send⟩, c, hsite.send, hsite.isCall, hsite.block, hg, hout⟩

theorem exists_groupPositions_over_iff :
    (∃ q ∈ v.groupPositions root, InBlockOf root q p) ↔
      ∃ q c, v.OutermostOver root q p c ∧ v.isExampleGroup c := by
  constructor
  · intro h
    obtain ⟨q, hq, hin⟩ := h
    obtain ⟨c, hsite, hg, hout⟩ := mem_groupPositions_iff.mp hq
    exact ⟨q, c, ⟨hin, hsite, by simp [isSpecGroup, hg], hout⟩, hg⟩
  · intro h
    obtain ⟨q, c, h, hg⟩ := h
    exact ⟨q, mem_groupPositions_iff.mpr ⟨c, h.site, hg, h.outermost⟩, h.encloses⟩

theorem not_insideGroup_of_mem_groupPositions (h : p ∈ v.groupPositions root) :
    ¬ v.InsideGroup root p := by
  obtain ⟨_, _, _, hout⟩ := mem_groupPositions_iff.mp h
  exact hout

theorem OutermostOver.insideGroup {q : Position} {c : Call} (h : v.OutermostOver root q p c) :
    v.InsideGroup root p :=
  insideGroup_iff.mpr ⟨q, c, h.encloses, h.site, h.isSpecGroup⟩

theorem groupsOf_sites (v : Vocabulary) {root : Slot} (hb : BlocksOpenCalls root) :
    ∃ groups, v.groupsOf root = .ok groups ∧
      List.Forall₂ (SiteAt root) (v.groupPositions root) groups := by
  refine ⟨(positionsOf root).filterMap (v.groupAt root), ?_, ?_⟩
  · simp only [groupsOf, Walk.ofRoot_fault_eq_none_iff.mpr hb, topLevelGroups_of_blocksOpenCalls v hb]
  · refine forall₂_filterMap (fun p c hc => ?_) _
    obtain ⟨hsend, hcall, hblock, -, -⟩ := groupAt_eq_some_iff.mp hc
    exact ⟨hsend, hcall, hblock⟩

/-- No top-level group is in the block of another one. An example group is top-level, or in the block
of a top-level group, or in the block of an outermost shared group, and only one of these. -/
theorem groupsOf_covers_exampleGroups (v : Vocabulary) (root : Slot) (hb : BlocksOpenCalls root) :
    ∃ ps groups, v.groupsOf root = .ok groups ∧ ps.Pairwise Position.Before ∧
      List.Forall₂ (SiteAt root) ps groups ∧
      (∀ p ∈ ps, ∀ q ∈ ps, ¬ InBlockOf root q p) ∧
      ∀ p c, SiteAt root p c → v.isExampleGroup c →
        (p ∈ ps ∨ (∃ q ∈ ps, InBlockOf root q p) ∨ v.UnderShared root p) ∧
        ¬ (p ∈ ps ∧ ∃ q ∈ ps, InBlockOf root q p) ∧
        ¬ (p ∈ ps ∧ v.UnderShared root p) ∧
        ¬ ((∃ q ∈ ps, InBlockOf root q p) ∧ v.UnderShared root p) := by
  obtain ⟨groups, hok, hsites⟩ := v.groupsOf_sites hb
  have hsorted : (v.groupPositions root).Pairwise Position.Before :=
    (positionsOf_sorted root).sublist List.filter_sublist
  refine ⟨v.groupPositions root, groups, hok, hsorted, hsites, ?_, ?_⟩
  · intro p hp q hq hin
    obtain ⟨_, _, h, _⟩ := exists_groupPositions_over_iff.mp ⟨q, hq, hin⟩
    exact not_insideGroup_of_mem_groupPositions hp h.insideGroup
  · intro p c hsite hg
    rw [exists_groupPositions_over_iff, underShared_iff]
    refine ⟨?_, ?_, ?_, ?_⟩
    · by_cases hin : v.InsideGroup root p
      · obtain ⟨q, d, h⟩ := exists_outermostOver hin
        by_cases hd : v.isExampleGroup d
        · exact Or.inr (Or.inl ⟨q, d, h, hd⟩)
        · exact Or.inr (Or.inr ⟨q, d, h, hd⟩)
      · exact Or.inl (mem_groupPositions_iff.mpr ⟨c, hsite, hg, hin⟩)
    · intro h
      obtain ⟨hp, q, d, h, _⟩ := h
      exact not_insideGroup_of_mem_groupPositions hp h.insideGroup
    · intro h
      obtain ⟨hp, q, d, h, _⟩ := h
      exact not_insideGroup_of_mem_groupPositions hp h.insideGroup
    · intro h
      obtain ⟨⟨q, d, h, hd⟩, q', d', h', hd'⟩ := h
      obtain ⟨-, rfl⟩ := h.unique h'
      exact hd' hd

theorem underShared_nestedGroups : standard.UnderShared (some nestedGroups) [0, 1] := by
  let shared : Call :=
    ⟨.mk "send" (some "shared_examples") ⟨0, 0, 1, 0⟩ [none], blockOver (some nestedGroups) [0, 0]⟩
  have hin : InBlockOf (some nestedGroups) [0, 0] [0, 1] :=
    ⟨[0], _, 1, [], rfl, rfl, Nat.le_refl 1, rfl, rfl⟩
  have hout : standard.isTopLevel (enclosingAt (some nestedGroups) [0, 0]) := by decide
  exact ⟨[0, 0], shared, hin, ⟨rfl, rfl, rfl⟩, by decide, by decide, isTopLevel_enclosingAt_iff.mp hout⟩

/-- The group below the shared one is not found, and no group that is found has it in its block. -/
theorem groupsOf_covers_nestedGroups :
    BlocksOpenCalls (some nestedGroups) ∧
      ∃ ps groups, standard.groupsOf (some nestedGroups) = .ok groups ∧
        List.Forall₂ (SiteAt (some nestedGroups)) ps groups ∧
        [0, 1] ∉ ps ∧ ¬ ∃ q ∈ ps, InBlockOf (some nestedGroups) q [0, 1] := by
  have hb : BlocksOpenCalls (some nestedGroups) := by decide
  obtain ⟨ps, groups, hok, -, hsites, -, hcover⟩ :=
    groupsOf_covers_exampleGroups standard (some nestedGroups) hb
  have hsite : SiteAt (some nestedGroups) [0, 1]
      ⟨.mk "send" (some "describe") ⟨0, 0, 1, 0⟩ [none], none⟩ := ⟨rfl, rfl, rfl⟩
  obtain ⟨-, -, hshared, hover⟩ := hcover [0, 1] _ hsite (by decide)
  refine ⟨hb, ps, groups, hok, hsites, ?_, ?_⟩
  · intro hp
    exact hshared ⟨hp, underShared_nestedGroups⟩
  · intro hp
    exact hover ⟨hp, underShared_nestedGroups⟩

end Vocabulary
end GroupLint
