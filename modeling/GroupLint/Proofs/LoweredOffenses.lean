import GroupLint.Proofs.LoweredCalls

/-! The rule on lowered trees. Its pattern captures the slot after the receiver, while a call skips
empty slots to find its first argument; lowering leaves no argument slot empty, so the two agree, and
only a stray block can end the search. -/
namespace GroupLint
open Node

theorem Call.firstArgument_of_slot {c : Call} {d : Node} (h : c.send.slot 1 = some d) :
    c.firstArgument = some d := by
  match hc : c.send.children with
  | [] => simp [slot, hc] at h
  | [_] => simp [slot, hc] at h
  | _ :: s :: r =>
    obtain rfl : s = some d := by simpa [slot, hc] using h
    simp [firstArgument, arguments, hc]

namespace Rule

/-- A group gives rise to an offense, which is located at its first argument. -/
structure ReportsFirstArgument (r : Rule) (path : Option String) (g : Call) (o : Offense) : Prop where
  judged : r.judge path g = .ok (some (.offense o))
  located : ∃ d, g.firstArgument = some d ∧ o.location = d.span

theorem investigate_error_iff {r : Rule} {path : Option String} {root : Slot}
    (hg : DescribesGiven root) {f : Fault} :
    r.investigate path root = .error f ↔
      f = .call (.blockWithoutCall "block") ∧ ∃ p, IsStrayAt root p := by
  have hstray : (∃ p, IsStrayAt root p) ↔ ¬ BlocksOpenCalls root := by
    rw [blocksOpenCalls_iff, not_forall_not]
  rw [hstray]
  by_cases hb : BlocksOpenCalls root
  · simp [investigate_eq_filterMap r path hb hg, hb]
  · simp [investigate_of_stray r path hb hg, hb, eq_comm]

theorem judge_of_mem_topLevelGroups {r : Rule} {path : Option String} {root : Slot}
    (hg : DescribesGiven root) {g : Call} (h : g ∈ r.vocabulary.topLevelGroups (Walk.ofRoot root)) :
    r.judge path g = .ok (r.verdict path g.send) := by
  obtain ⟨p, hp⟩ := position_of_mem_topLevelGroups h
  exact judge_eq_verdict r path (hg p g.send hp)

theorem reportsFirstArgument_of_verdict {r : Rule} {path : Option String} {g : Call} {o : Offense}
    (h : (r.verdict path g.send).bind Finding.offense? = some o) :
    r.ReportsFirstArgument path g o := by
  obtain ⟨f, hv, hf⟩ := Option.bind_eq_some_iff.mp h
  obtain ⟨-, -, d, hd, -, ho⟩ := verdict_offense_iff.mp h
  -- A slot that is reported is not empty, so that judging did not fail at it.
  have hj : r.judge path g = .ok (r.verdict path g.send) := by
    rw [judge_eq, if_neg]
    rintro ⟨-, -, hnone⟩
    simp [hd] at hnone
  refine ⟨?_, d, Call.firstArgument_of_slot hd, by rw [ho]⟩
  cases f with
  | exempt line => cases hf
  | offense o' =>
    obtain rfl : o' = o := Option.some.inj hf
    rw [hj, hv]

theorem investigate_reports_groups {r : Rule} {path : Option String} {root : Slot}
    {offenses : List Offense} (h : r.investigate path root = .ok offenses) :
    ∃ groups flagged, r.vocabulary.groupsOf root = .ok groups ∧ flagged.Sublist groups ∧
      List.Forall₂ (r.ReportsFirstArgument path) flagged offenses := by
  obtain ⟨hb, rfl⟩ := offenses_of_investigate h
  rw [← verdicts_eq_filterMap r path hb, List.filterMap_filterMap]
  have hreports : ∀ g o, (r.verdict path g.send).bind Finding.offense? = some o →
      r.ReportsFirstArgument path g o := fun _ _ => reportsFirstArgument_of_verdict
  refine ⟨r.vocabulary.topLevelGroups (Walk.ofRoot root), _, ?_, List.filter_sublist,
    forall₂_filterMap hreports _⟩
  simp [Vocabulary.groupsOf, Walk.ofRoot_fault_eq_none_iff.mpr hb]

/-- The check of a lowered tree fails iff some block is stray, and fails as such. Only a concrete
block outside of calls becomes a stray one. No group that is judged makes the pattern fail, and what is
reported is located at the first argument of its group. -/
theorem investigate_toNode_fails_iff_stray (r : Rule) (path : Option String) (bytes : List UInt8)
    (c : Concrete) (h : c.Regular bytes) :
    (∀ f, r.investigate path (c.toNode bytes) = .error f ↔
      f = .call (.blockWithoutCall "block") ∧ ∃ p, IsStrayAt (c.toNode bytes) p) ∧
    (∀ p n, slotAt (c.toNode bytes) p = some n → n.isStray →
      (∃ d ∈ c.nodes, d.kind = "block" ∧
        n = Lowering.generic bytes d (Lowering.lowerAll bytes d.children)) ∧
      ∀ d ls, n ≠ Lowering.call bytes d ls) ∧
    (∀ g ∈ r.vocabulary.topLevelGroups (Walk.ofRoot (c.toNode bytes)),
      ∃ finding, r.judge path g = .ok finding) ∧
    ∀ offenses, r.investigate path (c.toNode bytes) = .ok offenses →
      ∃ groups flagged, r.vocabulary.groupsOf (c.toNode bytes) = .ok groups ∧
        flagged.Sublist groups ∧ List.Forall₂ (r.ReportsFirstArgument path) flagged offenses := by
  have hg := describesGiven_toNode h
  refine ⟨fun f => investigate_error_iff hg, fun p n hn hs => ⟨?_, ?_⟩, fun g hmem => ?_,
    fun offenses => investigate_reports_groups⟩
  · exact stray_toNode bytes c p n hn hs
  · rintro d ls rfl
    exact Lowering.not_isStray_call hs
  · exact ⟨_, judge_of_mem_topLevelGroups hg hmem⟩

/-- The tree of `describe 'adding'`. -/
def describedText : Concrete :=
  .mk "program" true none ⟨0, 17, 0, 0⟩ false false
    [.mk "call" true none ⟨0, 17, 0, 0⟩ false false
      [.mk "identifier" true (some "method") ⟨0, 8, 0, 0⟩ false false [],
       .mk "argument_list" true (some "arguments") ⟨9, 17, 0, 9⟩ false false
        [.mk "string" true none ⟨9, 17, 0, 9⟩ false false
          [.mk "string_content" true none ⟨10, 16, 0, 10⟩ false false []]]]]

theorem investigate_describedText :
    describedText.Regular (Text.Utf8.encode "describe 'adding'".toList) ∧
      ∃ g o, (Rule.mk .standard .standard).investigate none
          (describedText.toNode (Text.Utf8.encode "describe 'adding'".toList)) = .ok [o] ∧
        (Rule.mk .standard .standard).ReportsFirstArgument none g o ∧ o.location = ⟨9, 17, 1, 9⟩ := by
  have hreg : describedText.Regular (Text.Utf8.encode "describe 'adding'".toList) := by decide
  have hok : (Rule.mk .standard .standard).investigate none
      (describedText.toNode (Text.Utf8.encode "describe 'adding'".toList)) =
        .ok [⟨⟨9, 17, 1, 9⟩, message, name, none⟩] := by decide +kernel
  obtain ⟨-, -, -, hreports⟩ :=
    investigate_toNode_fails_iff_stray (.mk .standard .standard) none _ describedText hreg
  obtain ⟨groups, flagged, -, -, hall⟩ := hreports _ hok
  obtain ⟨g, gs, hg, -, -⟩ := List.forall₂_cons_right_iff.mp hall
  exact ⟨hreg, g, _, hok, hg, rfl⟩

end Rule
end GroupLint
