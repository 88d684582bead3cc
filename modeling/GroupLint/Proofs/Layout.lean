import GroupLint.Proofs.Likeness
import GroupLint.Proofs.Offenses

/-! Spans serve to report and for nothing else. The walks over like trees make the same visits but for
spans, so that the rule fails on both trees or reports the same positions of both. -/
namespace GroupLint
open Node

section Walks
variable {a b : Node} {s t : Slot}

theorem isStray_of_alike (h : a.alike b) : a.isStray = b.isStray := by
  rw [isStray, isStray, (alike_iff.mp h).1, any_like (slot_like h 0) fun _ _ => isCall_of_alike]

theorem strayAt_like (h : SlotLike s t) (p : Position) : strayAt s p = strayAt t p :=
  any_like (slotAt_like h p) fun _ _ => isStray_of_alike

theorem fault_like (h : SlotLike s t) : (Walk.ofRoot s).fault = (Walk.ofRoot t).fault := by
  rw [Walk.ofRoot_eq_scan, Walk.ofRoot_eq_scan, Walk.scan_fault, Walk.scan_fault, positionsOf_like h,
    funext (strayAt_like h)]

def CallLike (c d : Call) : Prop := c.send.alike d.send

theorem opener_eq (n : Node) :
    n.opener = if n.kind = "block" then ((n.slot 0).filter isCall).map fun c => ⟨c, some n⟩ else none := by
  ext c
  rw [opener_eq_some_iff]
  by_cases hk : n.kind = "block"
  · simp only [hk, if_true, true_and, Option.map_eq_some_iff, Option.filter_eq_some_iff, and_assoc,
      eq_comm (a := c)]
  · simp [hk]

theorem opener_like (h : a.alike b) : Option.Rel CallLike a.opener b.opener := by
  rw [opener_eq, opener_eq, (alike_iff.mp h).1]
  split
  · rcases slotLike_cases (slot_like h 0) with ⟨ha, hb⟩ | ⟨m, n, ha, hb, hmn⟩
    · rw [ha, hb]
      exact .none
    · rw [ha, hb, Option.filter_some, Option.filter_some, isCall_of_alike hmn]
      split
      · exact .some hmn
      · exact .none
  · exact .none

theorem enclosingAt_like (h : SlotLike s t) (p : Position) :
    List.Forall₂ CallLike (enclosingAt s p) (enclosingAt t p) := by
  induction p generalizing s t with
  | nil => cases h <;> exact .nil
  | cons i p ih =>
    cases h with
    | none => exact .nil
    | @some m n h =>
      rw [enclosingAt, enclosingAt]
      refine List.rel_append ?_ (ih (slot_like h i))
      split
      · exact .nil
      · have ho := opener_like h
        generalize m.opener = x at ho
        generalize n.opener = y at ho
        cases ho with
        | none => exact .nil
        | some hc => exact .cons hc .nil

end Walks

theorem Call.name_like {c d : Call} (h : CallLike c d) : c.name = d.name := by
  rw [name, name, (alike_iff.mp h).2.1]

namespace Vocabulary
variable (v : Vocabulary) {c d : Call}

theorem isRspecReceiver_of_callLike (h : CallLike c d) :
    isRspecReceiver c.receiver = isRspecReceiver d.receiver := by
  rw [receiver_eq_slot, receiver_eq_slot]
  exact isRspecReceiver_like (slot_like h 0)

theorem isExampleGroup_like (h : CallLike c d) : v.isExampleGroup c = v.isExampleGroup d := by
  rw [isExampleGroup, isExampleGroup, Call.name_like h, isRspecReceiver_of_callLike h]

theorem isSpecGroup_like (h : CallLike c d) : v.isSpecGroup c = v.isSpecGroup d := by
  rw [isSpecGroup, isSpecGroup, isExampleGroup_like v h, isSharedGroup, isSharedGroup,
    Call.name_like h, isRspecReceiver_of_callLike h]

theorem isTopLevel_like {cs ds : List Call} (h : List.Forall₂ CallLike cs ds) :
    v.isTopLevel cs = v.isTopLevel ds := by
  rw [isTopLevel, isTopLevel]
  induction h with
  | nil => rfl
  | cons hc hr ih =>
    rw [List.any_cons, List.any_cons, isSpecGroup_like v hc, Bool.not_or, Bool.not_or, ih]

def SamePlace (s t : Slot) (c d : Call) : Prop :=
  CallLike c d ∧ ∃ p, slotAt s p = some c.send ∧ slotAt t p = some d.send

variable {s t : Slot} (h : SlotLike s t)
include h

theorem groupAt_like (p : Position) : Option.Rel (SamePlace s t) (v.groupAt s p) (v.groupAt t p) := by
  rcases slotLike_cases (slotAt_like h p) with ⟨hs, ht⟩ | ⟨m, n, hs, ht, hmn⟩
  · rw [groupAt, groupAt, hs, ht]
    exact .none
  · have hgroup : v.isExampleGroup ⟨m, blockOver s p⟩ = v.isExampleGroup ⟨n, blockOver t p⟩ :=
      isExampleGroup_like v hmn
    rw [groupAt, groupAt, hs, ht, Option.filter_some, Option.filter_some, isCall_of_alike hmn, hgroup,
      isTopLevel_like v (enclosingAt_like h p)]
    split
    · exact .some ⟨hmn, p, hs, ht⟩
    · exact .none

theorem topLevelGroups_like :
    List.Forall₂ (SamePlace s t) (v.topLevelGroups (Walk.ofRoot s)) (v.topLevelGroups (Walk.ofRoot t)) := by
  rw [topLevelGroups_eq_filterMap, topLevelGroups_eq_filterMap, positionsOf_like h,
    funext (strayAt_like h)]
  refine List.rel_filterMap (R := Eq) ?_ (List.forall₂_refl _)
  rintro p _ rfl
  exact groupAt_like v h p

end Vocabulary

theorem Pattern.fits_of_match_eq {p : Pattern} {s : Slot} {b : Bool} {cs : Captures}
    (h : p.match? s = keepIf b cs) : p.fits s = b := by
  rw [fits, h]
  cases b <;> rfl

namespace Rule

def ReportedAt (path : Option String) (root : Slot) (p : Position) (o : Offense) : Prop :=
  ∃ n, slotAt root p = some n ∧ o = ⟨n.span, message, name, path⟩

inductive JudgedLike (path : Option String) (s t : Slot) :
    Except Fault (Option Finding) → Except Fault (Option Finding) → Prop
  | fault (e : Fault) : JudgedLike path s t (.error e) (.error e)
  | pass : JudgedLike path s t (.ok none) (.ok none)
  | exempt (line line' : Int) :
    JudgedLike path s t (.ok (some (.exempt line))) (.ok (some (.exempt line')))
  | offense {p : Position} {o o' : Offense} : ReportedAt path s p o → ReportedAt path t p o' →
    JudgedLike path s t (.ok (some (.offense o))) (.ok (some (.offense o')))

theorem describedWithNonConstant_tests : describedWithNonConstant.TestsAre IsOwnTest := by
  simp [describedWithNonConstant, Pattern.TestsAre, Pattern.AllTestsAre, IsOwnTest]

theorem withIgnoredMetadata_tests (m : IgnoredMetadata) :
    (withIgnoredMetadata m).TestsAre IsOwnTest := by
  simp [withIgnoredMetadata, Pattern.TestsAre, Pattern.AllTestsAre, IsOwnTest]

variable (r : Rule) (path : Option String) {s t : Slot}

theorem judge_like {c d : Call} (h : Vocabulary.SamePlace s t c d) :
    JudgedLike path s t (r.judge path c) (r.judge path d) := by
  obtain ⟨hcd, p, hc, hd⟩ := h
  have hsends : SlotLike (some c.send) (some d.send) := .some hcd
  -- Both patterns come to the same verdict on like calls, so that only the captured slots differ.
  have hexempt := Pattern.fits_like respectLikeness_own (withIgnoredMetadata_tests r.ignored) hsends
  rw [Pattern.fits_of_match_eq (match_withIgnoredMetadata _ _),
    Pattern.fits_of_match_eq (match_withIgnoredMetadata _ _)] at hexempt
  have hflagged := Pattern.fits_like respectLikeness_own describedWithNonConstant_tests hsends
  rw [Pattern.fits_of_match_eq (match_describedWithNonConstant _),
    Pattern.fits_of_match_eq (match_describedWithNonConstant _)] at hflagged
  rw [judge, judge, match_withIgnoredMetadata, match_withIgnoredMetadata,
    match_describedWithNonConstant, match_describedWithNonConstant, hexempt, hflagged]
  generalize decide (Describes d.send ∧ CarriesIgnored r.ignored d.send) = exempt
  generalize decide (Describes d.send ∧ ∀ x, d.send.slot 1 = some x → ¬ NamesConstant x) = flagged
  cases exempt with
  | true => exact .exempt _ _
  | false =>
    cases flagged with
    | false => exact .pass
    | true =>
      rcases slotLike_cases (slot_like hcd 1) with ⟨hm, hn⟩ | ⟨m, n, hm, hn, -⟩
      · rw [hm, hn]
        exact .fault _
      · rw [hm, hn]
        refine .offense (p := p ++ [1]) ⟨m, ?_, rfl⟩ ⟨n, ?_, rfl⟩
        · rw [slotAt_snoc hc, hm]
        · rw [slotAt_snoc hd, hn]

theorem inspectGroups_like {cs ds : List Call}
    (h : List.Forall₂ (Vocabulary.SamePlace s t) cs ds) (after : Option Fault) :
    (r.inspectGroups path after cs).fault = (r.inspectGroups path after ds).fault ∧
      ∃ ps, List.Forall₂ (ReportedAt path s) ps
          ((r.inspectGroups path after cs).findings.filterMap Finding.offense?) ∧
        List.Forall₂ (ReportedAt path t) ps
          ((r.inspectGroups path after ds).findings.filterMap Finding.offense?) := by
  induction h with
  | nil => exact ⟨rfl, [], .nil, .nil⟩
  | @cons c d cs ds hcd hr ih =>
    obtain ⟨hfault, ps, hs, ht⟩ := ih
    have hj : JudgedLike path s t (r.judge path c) (r.judge path d) := judge_like r path hcd
    rw [inspectGroups, inspectGroups]
    generalize r.judge path c = x at hj
    generalize r.judge path d = y at hj
    -- A fault ends both searches; only an offense adds a position, the same one to both.
    cases hj with
    | fault e => exact ⟨rfl, [], .nil, .nil⟩
    | pass => exact ⟨hfault, ps, hs, ht⟩
    | exempt line line' => exact ⟨hfault, ps, hs, ht⟩
    | @offense p o o' ho ho' => exact ⟨hfault, p :: ps, .cons ho hs, .cons ho' ht⟩

theorem investigate_like (h : SlotLike s t) :
    (∃ f, r.investigate path s = .error f ∧ r.investigate path t = .error f) ∨
      ∃ ps os ot, r.investigate path s = .ok os ∧ r.investigate path t = .ok ot ∧
        List.Forall₂ (ReportedAt path s) ps os ∧ List.Forall₂ (ReportedAt path t) ps ot := by
  obtain ⟨hfault, ps, hs, ht⟩ := r.inspectGroups_like path
    (r.vocabulary.topLevelGroups_like h) ((Walk.ofRoot t).fault.map .call)
  rw [investigate, investigate, inspect, inspect, fault_like h, hfault]
  cases (r.inspectGroups path ((Walk.ofRoot t).fault.map .call)
      (r.vocabulary.topLevelGroups (Walk.ofRoot t))).fault with
  | some f => exact Or.inl ⟨f, rfl, rfl⟩
  | none => exact Or.inr ⟨ps, _, _, rfl, rfl, hs, ht⟩

/-- On trees that differ in their spans alone the rule fails alike or reports the same positions, and a
pattern that uses the rule's tests fails alike or captures like slots. -/
theorem outcomes_agree_of_alike (a b : Node) (h : a.alike b) :
    ((∃ f, r.investigate path (some a) = .error f ∧ r.investigate path (some b) = .error f) ∨
      ∃ ps as bs, r.investigate path (some a) = .ok as ∧ r.investigate path (some b) = .ok bs ∧
        List.Forall₂ (ReportedAt path (some a)) ps as ∧
        List.Forall₂ (ReportedAt path (some b)) ps bs) ∧
    ∀ p : Pattern, p.TestsAre IsOwnTest →
      Pattern.OutcomeLike (p.match? (some a)) (p.match? (some b)) := by
  have hroots : SlotLike (some a) (some b) := .some h
  refine ⟨r.investigate_like path hroots, fun p hp => ?_⟩
  exact Pattern.match_like respectLikeness_own hp hroots

def textGroup (group text : Span) : Node :=
  .mk "send" (some "describe") group [none, some (.mk "str" (some "adding") text [])]

/-- Moved to another line, the group is reported there. -/
theorem outcomes_agree_textGroup :
    let here := textGroup ⟨0, 17, 1, 0⟩ ⟨9, 17, 1, 9⟩
    let there := textGroup ⟨40, 60, 3, 2⟩ ⟨51, 59, 3, 13⟩
    here.alike there ∧ describedWithNonConstant.TestsAre IsOwnTest ∧
      (∃ p o o', ReportedAt none (some here) p o ∧ ReportedAt none (some there) p o' ∧
        (Rule.mk .standard .standard).investigate none (some here) = .ok [o] ∧
        (Rule.mk .standard .standard).investigate none (some there) = .ok [o']) ∧
      Pattern.OutcomeLike (describedWithNonConstant.match? (some here))
        (describedWithNonConstant.match? (some there)) := by
  intro here there
  have h : here.alike there := rfl
  obtain ⟨hrule, hmatch⟩ := outcomes_agree_of_alike (.mk .standard .standard) none here there h
  have hone : ((Rule.mk .standard .standard).investigate none (some here)).map List.length = .ok 1 := rfl
  refine ⟨h, describedWithNonConstant_tests, ?_, hmatch _ describedWithNonConstant_tests⟩
  rcases hrule with ⟨f, hf, -⟩ | ⟨ps, as, bs, has, hbs, hpa, hpb⟩
  · rw [hf] at hone
    cases hone
  · rw [has] at hone
    obtain ⟨o, rfl⟩ := List.length_eq_one_iff.mp (Except.ok.inj hone)
    obtain ⟨p, _, ho, hnil, rfl⟩ := List.forall₂_cons_right_iff.mp hpa
    obtain rfl := List.forall₂_nil_right_iff.mp hnil
    obtain ⟨o', _, ho', hnil', rfl⟩ := List.forall₂_cons_left_iff.mp hpb
    obtain rfl := List.forall₂_nil_left_iff.mp hnil'
    exact ⟨p, o, o', ho, ho', has, hbs⟩

end Rule
end GroupLint
