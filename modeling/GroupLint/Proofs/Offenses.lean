import GroupLint.Proofs.Walk
import GroupLint.Proofs.RulePatterns
import Mathlib.Data.List.TakeWhile

/-! The offenses of a tree, told by positions: the rule reports each outermost `describe` that names
no constant and is not exempt, in pre-order, at its first argument. -/
namespace GroupLint
open Node

theorem opener_eq_some_iff {b : Node} {c : Call} :
    b.opener = some c ↔
      b.kind = "block" ∧ ∃ send, b.slot 0 = some send ∧ send.isCall ∧ c = ⟨send, some b⟩ := by
  constructor
  · intro h
    by_cases hb : b.kind = "block"
    · refine ⟨hb, ?_⟩
      match hc : b.children with
      | [] => simp [opener, Call.ofNode, hb, hc, Except.toOption] at h
      | none :: _ => simp [opener, Call.ofNode, hb, hc, Except.toOption] at h
      | some send :: body =>
        have hslot : b.slot 0 = some send := by simp [slot, hc]
        by_cases hs : send.isCall
        · rw [opener_of_block hb hslot hs] at h
          exact ⟨send, hslot, hs, (Option.some.inj h).symm⟩
        · simp [opener, Call.ofNode, hb, hc, hs, Except.toOption] at h
    · simp [opener_of_not_block hb] at h
  · rintro ⟨hb, send, hslot, hs, rfl⟩
    exact opener_of_block hb hslot hs

theorem mem_enclosingAt_iff {s : Slot} {p : Position} {c : Call} :
    c ∈ enclosingAt s p ↔
      ∃ q i t b, p = q ++ i :: t ∧ 1 ≤ i ∧ slotAt s q = some b ∧ b.opener = some c := by
  induction p generalizing s with
  | nil => simp [enclosingAt]
  | cons j p ih =>
    cases s with
    | none => simp [enclosingAt]
    | some n =>
      rw [enclosingAt, List.mem_append, ih]
      constructor
      · rintro (hc | ⟨q, i, t, b, rfl, hi, hb, hc⟩)
        · by_cases hj : j = 0
          · simp [hj] at hc
          · exact ⟨[], j, p, n, rfl, by omega, rfl, by simpa [hj] using hc⟩
        · exact ⟨j :: q, i, t, b, rfl, hi, hb, hc⟩
      · rintro ⟨_ | ⟨k, q⟩, i, t, b, hp, hi, hb, hc⟩
        · obtain ⟨rfl, rfl⟩ : j = i ∧ p = t := by simpa using hp
          obtain rfl : n = b := by simpa using hb
          exact Or.inl (by simp [hc, show j ≠ 0 by omega])
        · obtain ⟨rfl, rfl⟩ : j = k ∧ p = q ++ i :: t := by simpa using hp
          exact Or.inr ⟨q, i, t, b, rfl, hi, hb, hc⟩

theorem takeWhile_not_strayAt {root : Slot} (hb : BlocksOpenCalls root) :
    ((positionsOf root).takeWhile fun p => !strayAt root p) = positionsOf root := by
  rw [List.takeWhile_eq_self_iff]
  intro p _
  have hp := blocksOpenCalls_iff.mp hb p
  rw [← Walk.strayAt_iff] at hp
  simpa using hp

namespace Vocabulary

/-- A call of the test library with the name of an example group or of a shared group. -/
def OpensGroup (v : Vocabulary) (send : Node) : Prop :=
  (send.value.getD "" ∈ v.exampleGroups ∨ send.value.getD "" ∈ v.sharedGroups) ∧ IsRspec (send.slot 0)

/-- A position leaves some block that a group opens through a later slot than the first. -/
def InsideGroup (v : Vocabulary) (root : Slot) (p : Position) : Prop :=
  ∃ q i t b send, p = q ++ i :: t ∧ 1 ≤ i ∧ slotAt root q = some b ∧ b.kind = "block" ∧
    b.slot 0 = some send ∧ send.isCall ∧ v.OpensGroup send

variable {v : Vocabulary}

theorem receiver_eq_slot (c : Call) : c.receiver = c.send.slot 0 := by
  rw [Call.receiver, slot, List.head?_eq_getElem?]

theorem isExampleGroup_iff {c : Call} :
    v.isExampleGroup c ↔ c.send.value.getD "" ∈ v.exampleGroups ∧ IsRspec (c.send.slot 0) := by
  rw [isExampleGroup, Bool.and_eq_true, isRspecReceiver_iff, receiver_eq_slot]
  simp [Call.name]

theorem isSpecGroup_iff {c : Call} : v.isSpecGroup c ↔ v.OpensGroup c.send := by
  rw [isSpecGroup, Bool.or_eq_true, isExampleGroup_iff, isSharedGroup, Bool.and_eq_true,
    isRspecReceiver_iff, receiver_eq_slot, OpensGroup, or_and_right]
  simp [Call.name]

theorem isTopLevel_enclosingAt_iff {root : Slot} {p : Position} :
    v.isTopLevel (enclosingAt root p) ↔ ¬ v.InsideGroup root p := by
  have hany : (enclosingAt root p).any v.isSpecGroup ↔ v.InsideGroup root p := by
    simp only [List.any_eq_true, mem_enclosingAt_iff, isSpecGroup_iff, opener_eq_some_iff]
    constructor
    · rintro ⟨c, ⟨q, i, t, b, hp, hi, hb, hk, send, hs, hc, rfl⟩, hg⟩
      exact ⟨q, i, t, b, send, hp, hi, hb, hk, hs, hc, hg⟩
    · rintro ⟨q, i, t, b, send, hp, hi, hb, hk, hs, hc, hg⟩
      exact ⟨⟨send, some b⟩, ⟨q, i, t, b, hp, hi, hb, hk, send, hs, hc, rfl⟩, hg⟩
  rw [isTopLevel, ← hany]
  simp

def groupAt (v : Vocabulary) (root : Slot) (p : Position) : Option Call :=
  ((slotAt root p).filter fun n => n.isCall &&
    (v.isExampleGroup ⟨n, blockOver root p⟩ && v.isTopLevel (enclosingAt root p))).map
      fun n => ⟨n, blockOver root p⟩

theorem topLevelGroups_eq_filterMap (v : Vocabulary) (root : Slot) :
    v.topLevelGroups (Walk.ofRoot root) =
      ((positionsOf root).takeWhile fun p => !strayAt root p).filterMap (v.groupAt root) := by
  have hvisit : ∀ p, ((visitAt [] root p).filter fun x =>
      v.isExampleGroup x.call && v.isTopLevel x.enclosing).map (·.call) = v.groupAt root p := by
    intro p
    rw [visitAt, groupAt, Option.filter_map, Option.filter_filter, Option.map_map]
    rfl
  rw [topLevelGroups, Walk.ofRoot_visits, List.filter_filterMap, List.map_filterMap]
  simp only [hvisit]

theorem topLevelGroups_of_blocksOpenCalls (v : Vocabulary) {root : Slot} (hb : BlocksOpenCalls root) :
    v.topLevelGroups (Walk.ofRoot root) = (positionsOf root).filterMap (v.groupAt root) := by
  rw [topLevelGroups_eq_filterMap, takeWhile_not_strayAt hb]

theorem groupAt_eq_some_iff {root : Slot} {p : Position} {c : Call} :
    v.groupAt root p = some c ↔
      slotAt root p = some c.send ∧ c.send.isCall ∧ c.block = blockOver root p ∧
        v.isExampleGroup c ∧ ¬ v.InsideGroup root p := by
  rw [groupAt, Option.map_eq_some_iff]
  simp only [Option.filter_eq_some_iff, Bool.and_eq_true, isTopLevel_enclosingAt_iff]
  constructor
  · rintro ⟨n, ⟨hn, hc, hg, ht⟩, rfl⟩
    exact ⟨hn, hc, rfl, hg, ht⟩
  · obtain ⟨send, block⟩ := c
    rintro ⟨hn, hc, rfl, hg, ht⟩
    exact ⟨send, ⟨hn, hc, hg, ht⟩, rfl⟩

end Vocabulary

/-- Every `describe` of the test library that has a first argument slot has something in it. -/
def DescribesGiven (s : Slot) : Prop := Everywhere (fun n => Describes n → (n.slot 1).isSome) s

instance (s : Slot) : Decidable (DescribesGiven s) := inferInstanceAs (Decidable (Everywhere _ s))

namespace Rule

/-- What the rule says of a call, if its pattern captures no empty slot. -/
def verdict (r : Rule) (path : Option String) (n : Node) : Option Finding :=
  if Describes n then
    if CarriesIgnored r.ignored n then some (.exempt n.span.line)
    else ((n.slot 1).filter fun d => !NamesConstant d).map fun d => .offense ⟨d.span, message, name, path⟩
  else none

theorem judge_eq (r : Rule) (path : Option String) (c : Call) :
    r.judge path c =
      if Describes c.send ∧ ¬ CarriesIgnored r.ignored c.send ∧ c.send.slot 1 = none then
        .error .emptySlot
      else .ok (r.verdict path c.send) := by
  rw [judge, match_withIgnoredMetadata, match_describedWithNonConstant, verdict]
  by_cases hd : Describes c.send
  · by_cases hi : CarriesIgnored r.ignored c.send
    · simp [hd, hi]
    · cases hs : c.send.slot 1 with
      | none => simp [hd, hi]
      | some d => by_cases hn : NamesConstant d <;> simp [hd, hi, hn, Option.filter_some]
  · simp [hd]

theorem judge_eq_verdict (r : Rule) (path : Option String) {c : Call}
    (h : Describes c.send → (c.send.slot 1).isSome) : r.judge path c = .ok (r.verdict path c.send) := by
  rw [judge_eq, if_neg]
  rintro ⟨hd, -, hs⟩
  simpa [hs] using h hd

theorem eq_verdict_of_judge {r : Rule} {path : Option String} {c : Call} {f : Option Finding}
    (h : r.judge path c = .ok f) : f = r.verdict path c.send := by
  rw [judge_eq] at h
  split at h
  · cases h
  · exact (Except.ok.inj h).symm

theorem inspectGroups_of_judge {r : Rule} {path : Option String} {f : Call → Option Finding}
    {cs : List Call} (h : ∀ c ∈ cs, r.judge path c = .ok (f c)) (after : Option Fault) :
    r.inspectGroups path after cs = ⟨cs.filterMap f, after⟩ := by
  induction cs with
  | nil => rfl
  | cons c cs ih =>
    obtain ⟨hc, hcs⟩ := List.forall_mem_cons.mp h
    rw [inspectGroups, hc]
    cases hf : f c <;> simp [ih hcs, hf]

theorem findings_of_inspectGroups {r : Rule} {path : Option String} {after : Option Fault}
    {cs : List Call} (h : (r.inspectGroups path after cs).fault = none) :
    after = none ∧
      (r.inspectGroups path after cs).findings = cs.filterMap fun c => r.verdict path c.send := by
  induction cs with
  | nil => exact ⟨h, rfl⟩
  | cons c cs ih =>
    cases hj : r.judge path c with
    | error e => simp [inspectGroups, hj] at h
    | ok f =>
      simp only [inspectGroups, hj] at h ⊢
      obtain ⟨hafter, hfindings⟩ := ih h
      refine ⟨hafter, ?_⟩
      rw [hfindings, eq_verdict_of_judge hj]
      cases hv : r.verdict path c.send <;> simp [hv]

theorem position_of_mem_topLevelGroups {v : Vocabulary} {root : Slot} {c : Call}
    (h : c ∈ v.topLevelGroups (Walk.ofRoot root)) : ∃ p, slotAt root p = some c.send := by
  rw [Vocabulary.topLevelGroups, Walk.ofRoot_visits] at h
  obtain ⟨x, hx, rfl⟩ := List.mem_map.mp h
  obtain ⟨p, -, hp⟩ := List.mem_filterMap.mp (List.mem_of_mem_filter hx)
  exact ⟨p, (visitedAt_of_visitAt hp).send⟩

/-- The groups that the walk reaches are all judged, and only the walk itself can fail. -/
theorem inspect_eq (r : Rule) (path : Option String) {root : Slot} (h : DescribesGiven root) :
    r.inspect path root =
      ⟨(r.vocabulary.topLevelGroups (Walk.ofRoot root)).filterMap fun c => r.verdict path c.send,
        (Walk.ofRoot root).fault.map .call⟩ := by
  refine inspectGroups_of_judge (fun c hc => ?_) _
  obtain ⟨p, hp⟩ := position_of_mem_topLevelGroups hc
  exact judge_eq_verdict r path (h p c.send hp)

structure Flags (r : Rule) (root : Slot) (p : Position) (send : Node) : Prop where
  at_position : slotAt root p = some send
  describes : Describes send
  is_group : "describe" ∈ r.vocabulary.exampleGroups
  outermost : ¬ r.vocabulary.InsideGroup root p
  non_constant : ∀ d, send.slot 1 = some d → ¬ NamesConstant d
  not_ignored : ¬ CarriesIgnored r.ignored send

def offenseAt (r : Rule) (path : Option String) (root : Slot) (p : Position) : Option Offense :=
  ((visitAt [] root p).filter fun x =>
    r.vocabulary.isExampleGroup x.call && r.vocabulary.isTopLevel x.enclosing).bind fun x =>
      (r.verdict path x.call.send).bind Finding.offense?

theorem verdict_offense_iff {r : Rule} {path : Option String} {n : Node} {o : Offense} :
    (r.verdict path n).bind Finding.offense? = some o ↔
      Describes n ∧ ¬ CarriesIgnored r.ignored n ∧
        ∃ d, n.slot 1 = some d ∧ ¬ NamesConstant d ∧ o = ⟨d.span, message, name, path⟩ := by
  by_cases hd : Describes n
  · by_cases hi : CarriesIgnored r.ignored n
    · simp [verdict, hd, hi, Finding.offense?]
    · cases hs : n.slot 1 with
      | none => simp [verdict, hd, hi, hs]
      | some d =>
        by_cases hn : NamesConstant d <;>
          simp [verdict, hd, hi, hs, hn, Option.filter_some, Finding.offense?, eq_comm]
  · simp [verdict, hd]

theorem offenseAt_eq_some_iff {r : Rule} {path : Option String} {root : Slot} {p : Position}
    {o : Offense} :
    r.offenseAt path root p = some o ↔
      ∃ send d, r.Flags root p send ∧ send.slot 1 = some d ∧ o = ⟨d.span, message, name, path⟩ := by
  rw [offenseAt, Option.bind_eq_some_iff]
  simp only [Option.filter_eq_some_iff, Bool.and_eq_true, verdict_offense_iff]
  constructor
  · rintro ⟨x, ⟨hx, hg, ht⟩, hdesc, hi, d, hd, hn, rfl⟩
    have hv := visitedAt_of_visitAt hx
    rw [hv.enclosing, Vocabulary.isTopLevel_enclosingAt_iff] at ht
    obtain ⟨hname, -⟩ := Vocabulary.isExampleGroup_iff.mp hg
    refine ⟨x.call.send, d, ⟨hv.send, hdesc, ?_, ht, fun e he => ?_, hi⟩, hd, rfl⟩
    · simpa [hdesc.2.1] using hname
    · obtain rfl : d = e := Option.some.inj (hd.symm.trans he)
      exact hn
  · rintro ⟨send, d, hf, hd, rfl⟩
    have hcall : send.isCall := by simp [isCall, isCallKind, hf.describes.1]
    refine ⟨⟨⟨send, blockOver root p⟩, enclosingAt root p⟩, ⟨?_, ?_, ?_⟩, hf.describes,
      hf.not_ignored, d, hd, hf.non_constant d hd, rfl⟩
    · simp [visitAt, hf.at_position, Option.filter_some, hcall]
    · rw [Vocabulary.isExampleGroup_iff]
      exact ⟨by simpa [hf.describes.2.1] using hf.is_group, hf.describes.2.2.2⟩
    · exact Vocabulary.isTopLevel_enclosingAt_iff.mpr hf.outermost

theorem verdicts_eq_filterMap (r : Rule) (path : Option String) {root : Slot}
    (hb : BlocksOpenCalls root) :
    ((r.vocabulary.topLevelGroups (Walk.ofRoot root)).filterMap fun c =>
        r.verdict path c.send).filterMap Finding.offense? =
      (positionsOf root).filterMap (r.offenseAt path root) := by
  rw [Vocabulary.topLevelGroups, Walk.ofRoot_visits, takeWhile_not_strayAt hb]
  simp only [List.filterMap_map, List.filterMap_filterMap, List.filter_filterMap, Option.bind_assoc]
  rfl

theorem investigate_eq_filterMap (r : Rule) (path : Option String) {root : Slot}
    (hb : BlocksOpenCalls root) (hg : DescribesGiven root) :
    r.investigate path root = .ok ((positionsOf root).filterMap (r.offenseAt path root)) := by
  rw [investigate, inspect_eq r path hg, Walk.ofRoot_fault_eq_none_iff.mpr hb]
  simp only [Option.map_none, verdicts_eq_filterMap r path hb]

/-- Whatever the tree, offenses that are returned are those of its positions. -/
theorem offenses_of_investigate {r : Rule} {path : Option String} {root : Slot}
    {offenses : List Offense} (h : r.investigate path root = .ok offenses) :
    BlocksOpenCalls root ∧ offenses = (positionsOf root).filterMap (r.offenseAt path root) := by
  rw [investigate] at h
  cases hf : (r.inspect path root).fault with
  | some f => simp [hf] at h
  | none =>
    obtain ⟨hwalk, hfindings⟩ := findings_of_inspectGroups hf
    have hb := Walk.ofRoot_fault_eq_none_iff.mp (Option.map_eq_none_iff.mp hwalk)
    refine ⟨hb, ?_⟩
    rw [hf] at h
    rw [← verdicts_eq_filterMap r path hb, ← hfindings]
    exact (Except.ok.inj h).symm

theorem investigate_of_stray (r : Rule) (path : Option String) {root : Slot}
    (hb : ¬ BlocksOpenCalls root) (hg : DescribesGiven root) :
    r.investigate path root = .error (.call (.blockWithoutCall "block")) := by
  obtain ⟨f, hf⟩ := Option.ne_none_iff_exists'.mp (Walk.ofRoot_fault_eq_none_iff.not.mpr hb)
  obtain ⟨rfl, -⟩ := Walk.ofRoot_fault_eq_some_iff.mp hf
  rw [investigate, inspect_eq r path hg, hf]
  rfl

/-- The rule reports the calls that it flags in pre-order, each once and at its first argument. -/
theorem investigate_reports_flagged (r : Rule) (path : Option String) (root : Slot)
    (hb : BlocksOpenCalls root) (hg : DescribesGiven root) :
    ∃ ps : List Position, ps.Pairwise Position.Before ∧
      (∀ p, p ∈ ps ↔ ∃ send, r.Flags root p send) ∧
      ∃ offenses, r.investigate path root = .ok offenses ∧
        List.Forall₂ (fun p o => ∃ d, slotAt root (p ++ [1]) = some d ∧
          o = ⟨d.span, message, name, path⟩) ps offenses := by
  refine ⟨(positionsOf root).filter fun p => (r.offenseAt path root p).isSome, ?_, ?_, _,
    investigate_eq_filterMap r path hb hg, ?_⟩
  · exact (positionsOf_sorted root).sublist List.filter_sublist
  · intro p
    rw [List.mem_filter, mem_positionsOf, Option.isSome_iff_exists]
    simp only [offenseAt_eq_some_iff]
    constructor
    · rintro ⟨-, o, send, d, hf, -⟩
      exact ⟨send, hf⟩
    · rintro ⟨send, hf⟩
      obtain ⟨d, hd⟩ := Option.isSome_iff_exists.mp (hg p send hf.at_position hf.describes)
      exact ⟨⟨send, hf.at_position⟩, _, send, d, hf, hd, rfl⟩
  · refine forall₂_filterMap (fun p o ho => ?_) _
    obtain ⟨send, d, hf, hd, rfl⟩ := offenseAt_eq_some_iff.mp ho
    exact ⟨d, by rw [slotAt_append, hf.at_position, slotAt_cons, hd, slotAt_nil], rfl⟩

/-- A group with a text that holds one more, a group with a constant, and an exempt one. -/
def mixedGroups : Node :=
  let leaf (kind value : String) : Node := .mk kind (some value) ⟨0, 0, 1, 0⟩ []
  let describe (args : List Node) : Node :=
    .mk "send" (some "describe") ⟨0, 0, 1, 0⟩ (none :: args.map some)
  let request : Node := .mk "hash" none ⟨0, 0, 1, 0⟩
    [some (.mk "pair" none ⟨0, 0, 1, 0⟩ [some (leaf "sym" "type"), some (leaf "sym" "request")])]
  .mk "program" none ⟨0, 0, 1, 0⟩
    [some (.mk "block" none ⟨0, 0, 1, 0⟩
       [some (describe [leaf "str" "adding"]), some (describe [leaf "str" "twice"])]),
     some (describe [leaf "const" "Calculator"]),
     some (describe [leaf "str" "adding", request])]

theorem investigate_mixedGroups :
    BlocksOpenCalls (some mixedGroups) ∧ DescribesGiven (some mixedGroups) ∧
      ∃ p d, (∀ q, (∃ send, (Rule.mk .standard .standard).Flags (some mixedGroups) q send) ↔ q = p) ∧
        slotAt (some mixedGroups) (p ++ [1]) = some d ∧
        (Rule.mk .standard .standard).investigate none (some mixedGroups) =
          .ok [⟨d.span, message, name, none⟩] := by
  have hb : BlocksOpenCalls (some mixedGroups) := by decide
  have hg : DescribesGiven (some mixedGroups) := by decide
  obtain ⟨ps, -, hmem, offenses, hok, hall⟩ :=
    investigate_reports_flagged (.mk .standard .standard) none _ hb hg
  have hone : offenses.length = 1 := by
    have h : ((Rule.mk .standard .standard).investigate none (some mixedGroups)).map List.length =
        .ok 1 := rfl
    rw [hok] at h
    exact Except.ok.inj h
  obtain ⟨o, rfl⟩ := List.length_eq_one_iff.mp hone
  obtain ⟨p, rfl⟩ := List.length_eq_one_iff.mp hall.length_eq
  obtain ⟨⟨d, hd, rfl⟩, -⟩ := List.forall₂_cons.mp hall
  exact ⟨hb, hg, p, d, fun q => by rw [← hmem, List.mem_singleton], hd, hok⟩

end Rule
end GroupLint
