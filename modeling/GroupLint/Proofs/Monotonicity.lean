import GroupLint.Proofs.Offenses

/-! How the offenses of a tree change with the settings. The rule examines the first argument of each
outermost `describe` that carries no ignored metadata. More group names hide more of these calls, and
a larger table exempts more of them, so that what is reported can only become less. -/
namespace GroupLint
open Node

theorem filterMap_sublist_of_imp {f g : α → Option β} (h : ∀ a b, f a = some b → g a = some b)
    (as : List α) : (as.filterMap f).Sublist (as.filterMap g) := by
  induction as with
  | nil => exact List.Sublist.slnil
  | cons a as ih =>
    cases hf : f a with
    | some b =>
      rw [List.filterMap_cons_some hf, List.filterMap_cons_some (h a b hf)]
      exact ih.cons_cons b
    | none =>
      rw [List.filterMap_cons_none hf]
      cases hg : g a with
      | some b =>
        rw [List.filterMap_cons_some hg]
        exact ih.cons b
      | none =>
        rw [List.filterMap_cons_none hg]
        exact ih

namespace Rule

/-- The rule looks at the first argument of the call at a position. -/
structure Examines (r : Rule) (root : Slot) (p : Position) (send : Node) : Prop where
  at_position : slotAt root p = some send
  describes : Describes send
  is_group : "describe" ∈ r.vocabulary.exampleGroups
  outermost : ¬ r.vocabulary.InsideGroup root p
  not_ignored : ¬ CarriesIgnored r.ignored send

variable {r s : Rule} {path : Option String} {root : Slot}

theorem flags_iff {p : Position} {send : Node} :
    r.Flags root p send ↔
      r.Examines root p send ∧ ∀ d, send.slot 1 = some d → ¬ NamesConstant d := by
  constructor
  · intro h
    exact ⟨⟨h.at_position, h.describes, h.is_group, h.outermost, h.not_ignored⟩, h.non_constant⟩
  · intro h
    obtain ⟨h, hd⟩ := h
    exact ⟨h.at_position, h.describes, h.is_group, h.outermost, hd, h.not_ignored⟩

theorem judge_returns_iff {c : Call} :
    (∃ f, r.judge path c = .ok f) ↔
      (Describes c.send → ¬ CarriesIgnored r.ignored c.send → (c.send.slot 1).isSome) := by
  rw [judge_eq]
  by_cases h : Describes c.send ∧ ¬ CarriesIgnored r.ignored c.send ∧ c.send.slot 1 = none
  · rw [if_pos h]
    refine iff_of_false (by simp) ?_
    intro hsome
    simpa [h.2.2] using hsome h.1 h.2.1
  · rw [if_neg h]
    refine iff_of_true ⟨_, rfl⟩ ?_
    intro hd hi
    rw [Option.isSome_iff_ne_none]
    intro hnone
    exact h ⟨hd, hi, hnone⟩

theorem inspectGroups_fault_eq_none_iff {after : Option Fault} {cs : List Call} :
    (r.inspectGroups path after cs).fault = none ↔
      after = none ∧ ∀ c ∈ cs, ∃ f, r.judge path c = .ok f := by
  induction cs with
  | nil => simp [inspectGroups]
  | cons c cs ih =>
    cases hj : r.judge path c with
    | error e => simp [inspectGroups, hj]
    | ok f => simp [inspectGroups, hj, ih]

theorem examines_iff_groupAt {p : Position} {send : Node} :
    r.Examines root p send ↔
      r.vocabulary.groupAt root p = some ⟨send, blockOver root p⟩ ∧ Describes send ∧
        ¬ CarriesIgnored r.ignored send := by
  rw [Vocabulary.groupAt_eq_some_iff]
  constructor
  · intro h
    have hcall : send.isCall := by simp [isCall, isCallKind, h.describes.1]
    have hgroup : r.vocabulary.isExampleGroup ⟨send, blockOver root p⟩ := by
      rw [Vocabulary.isExampleGroup_iff]
      exact ⟨by simpa [h.describes.2.1] using h.is_group, h.describes.2.2.2⟩
    exact ⟨⟨h.at_position, hcall, rfl, hgroup, h.outermost⟩, h.describes, h.not_ignored⟩
  · intro h
    obtain ⟨⟨hat, _, _, hgroup, hout⟩, hdesc, hi⟩ := h
    have hname := (Vocabulary.isExampleGroup_iff.mp hgroup).1
    exact ⟨hat, hdesc, by simpa [hdesc.2.1] using hname, hout, hi⟩

/-- The rule comes to its end iff every block opens a call and no argument that it looks at is
missing. -/
theorem investigate_returns_iff :
    (∃ offenses, r.investigate path root = .ok offenses) ↔
      BlocksOpenCalls root ∧ ∀ p send, r.Examines root p send → (send.slot 1).isSome := by
  have hfault : (∃ offenses, r.investigate path root = .ok offenses) ↔
      (r.inspect path root).fault = none := by
    rw [investigate]
    cases (r.inspect path root).fault <;> simp
  rw [hfault, inspect, inspectGroups_fault_eq_none_iff, Option.map_eq_none_iff,
    Walk.ofRoot_fault_eq_none_iff]
  refine and_congr_right fun hb => ?_
  simp only [judge_returns_iff]
  rw [Vocabulary.topLevelGroups_of_blocksOpenCalls _ hb]
  constructor
  · intro h p send he
    obtain ⟨hg, hd, hi⟩ := examines_iff_groupAt.mp he
    have hp : p ∈ positionsOf root := mem_positionsOf.mpr ⟨send, he.at_position⟩
    exact h _ (List.mem_filterMap.mpr ⟨p, hp, hg⟩) hd hi
  · intro h c hc hd hi
    obtain ⟨p, -, hp⟩ := List.mem_filterMap.mp hc
    have hblock := (Vocabulary.groupAt_eq_some_iff.mp hp).2.2.1
    refine h p c.send (examines_iff_groupAt.mpr ⟨?_, hd, hi⟩)
    rw [← hblock]
    exact hp

def reports (r : Rule) (path : Option String) (root : Slot) : List (Position × Offense) :=
  (positionsOf root).filterMap fun p => (r.offenseAt path root p).map fun o => (p, o)

theorem mem_reports_iff {p : Position} {o : Offense} :
    (p, o) ∈ r.reports path root ↔ r.offenseAt path root p = some o := by
  simp only [reports, List.mem_filterMap, Option.map_eq_some_iff, Prod.mk.injEq]
  constructor
  · intro h
    obtain ⟨q, _, o', ho, hq, ho'⟩ := h
    rw [← hq, ← ho', ho]
  · intro ho
    obtain ⟨send, d, hf, -, -⟩ := offenseAt_eq_some_iff.mp ho
    exact ⟨p, mem_positionsOf.mpr ⟨send, hf.at_position⟩, o, ho, rfl, rfl⟩

theorem offenses_of_reports :
    (r.reports path root).map (·.2) = (positionsOf root).filterMap (r.offenseAt path root) := by
  rw [reports, List.map_filterMap]
  simp [Function.comp_def]

theorem reports_sorted : ((r.reports path root).map (·.1)).Pairwise Position.Before := by
  have hsub : ((r.reports path root).map (·.1)).Sublist ((positionsOf root).filterMap some) := by
    rw [reports, List.map_filterMap]
    refine filterMap_sublist_of_imp (fun p q hq => ?_) _
    obtain ⟨x, hx, rfl⟩ := Option.map_eq_some_iff.mp hq
    obtain ⟨o, -, rfl⟩ := Option.map_eq_some_iff.mp hx
    rfl
  rw [List.filterMap_some] at hsub
  exact (positionsOf_sorted root).sublist hsub

theorem offenses_eq_reports {offenses : List Offense} (h : r.investigate path root = .ok offenses) :
    offenses = (r.reports path root).map (·.2) := by
  rw [(offenses_of_investigate h).2, offenses_of_reports]

theorem reports_sublist_of_examines
    (h : ∀ p send, s.Examines root p send → r.Examines root p send) :
    (s.reports path root).Sublist (r.reports path root) := by
  refine filterMap_sublist_of_imp (fun p x hx => ?_) _
  obtain ⟨o, ho, rfl⟩ := Option.map_eq_some_iff.mp hx
  obtain ⟨send, d, hf, hd, rfl⟩ := offenseAt_eq_some_iff.mp ho
  obtain ⟨he, hn⟩ := flags_iff.mp hf
  have hr : r.offenseAt path root p = some ⟨d.span, message, name, path⟩ :=
    offenseAt_eq_some_iff.mpr ⟨send, d, flags_iff.mpr ⟨h p send he, hn⟩, hd, rfl⟩
  rw [hr, Option.map_some]

/-- A rule that examines only calls which another one examines too returns whenever that one does. -/
theorem investigate_of_examines (h : ∀ p send, s.Examines root p send → r.Examines root p send)
    (hr : ∃ offenses, r.investigate path root = .ok offenses) :
    s.investigate path root = .ok ((s.reports path root).map (·.2)) := by
  obtain ⟨hb, hgiven⟩ := investigate_returns_iff.mp hr
  have hreturns : ∃ offenses, s.investigate path root = .ok offenses := by
    rw [investigate_returns_iff]
    refine ⟨hb, fun p send he => ?_⟩
    exact hgiven p send (h p send he)
  obtain ⟨offenses, ho⟩ := hreturns
  rw [ho, offenses_eq_reports ho]

end Rule

namespace Vocabulary

def groupNames (v : Vocabulary) : List String := v.exampleGroups ++ v.sharedGroups

variable {v w : Vocabulary} {root : Slot} {p : Position}

theorem OpensGroup.mono (h : v.groupNames ⊆ w.groupNames) {send : Node} (hg : v.OpensGroup send) :
    w.OpensGroup send := by
  have hname : send.value.getD "" ∈ w.groupNames := h (List.mem_append.mpr hg.1)
  exact ⟨List.mem_append.mp hname, hg.2⟩

theorem InsideGroup.mono (h : v.groupNames ⊆ w.groupNames) (hi : v.InsideGroup root p) :
    w.InsideGroup root p := by
  obtain ⟨q, i, t, b, send, hp, hone, hb, hk, hs, hc, hg⟩ := hi
  exact ⟨q, i, t, b, send, hp, hone, hb, hk, hs, hc, hg.mono h⟩

end Vocabulary

namespace Rule
variable {v w : Vocabulary} {m : IgnoredMetadata} {path : Option String} {root : Slot}

theorem examines_of_groupNames (hv : "describe" ∈ v.exampleGroups)
    (h : v.groupNames ⊆ w.groupNames) {p : Position} {send : Node}
    (he : (Rule.mk w m).Examines root p send) : (Rule.mk v m).Examines root p send := by
  refine ⟨he.at_position, he.describes, hv, ?_, he.not_ignored⟩
  intro hi
  exact he.outermost (hi.mono h)

theorem investigate_of_groupNames (hv : "describe" ∈ v.exampleGroups)
    (h : v.groupNames ⊆ w.groupNames) {offenses : List Offense}
    (hr : (Rule.mk v m).investigate path root = .ok offenses) :
    ∃ fewer, (Rule.mk w m).investigate path root = .ok fewer ∧ fewer.Sublist offenses := by
  have hex : ∀ p send, (Rule.mk w m).Examines root p send → (Rule.mk v m).Examines root p send :=
    fun _ _ => examines_of_groupNames hv h
  refine ⟨_, investigate_of_examines hex ⟨offenses, hr⟩, ?_⟩
  rw [offenses_eq_reports hr]
  exact (reports_sublist_of_examines hex).map _

theorem investigate_of_same_groupNames (hv : "describe" ∈ v.exampleGroups)
    (hw : "describe" ∈ w.exampleGroups) (hvw : v.groupNames ⊆ w.groupNames)
    (hwv : w.groupNames ⊆ v.groupNames) {offenses : List Offense}
    (hr : (Rule.mk v m).investigate path root = .ok offenses) :
    (Rule.mk w m).investigate path root = .ok offenses := by
  obtain ⟨fewer, hf, hsub⟩ := investigate_of_groupNames hv hvw hr
  obtain ⟨back, hb, hback⟩ := investigate_of_groupNames hw hwv hf
  obtain rfl : offenses = back := Except.ok.inj (hr.symm.trans hb)
  rw [hf, hsub.antisymm hback]

/-- A `describe` that opens no example group is never examined. -/
theorem investigate_of_no_describe (hv : "describe" ∉ v.exampleGroups) {offenses : List Offense} :
    (Rule.mk v m).investigate path root = .ok offenses ↔ BlocksOpenCalls root ∧ offenses = [] := by
  have hnone : ∀ p send, ¬ (Rule.mk v m).Examines root p send := fun p send he => hv he.is_group
  have hreports : (Rule.mk v m).reports path root = [] := by
    rw [List.eq_nil_iff_forall_not_mem]
    intro x hx
    obtain ⟨send, d, hf, -, -⟩ := offenseAt_eq_some_iff.mp (mem_reports_iff.mp hx)
    exact hnone x.1 send (flags_iff.mp hf).1
  constructor
  · intro hr
    have hall := offenses_eq_reports hr
    rw [hreports] at hall
    exact ⟨(offenses_of_investigate hr).1, hall⟩
  · intro h
    obtain ⟨hb, rfl⟩ := h
    have hreturns : ∃ offenses, (Rule.mk v m).investigate path root = .ok offenses := by
      rw [investigate_returns_iff]
      exact ⟨hb, fun p send he => absurd he (hnone p send)⟩
    obtain ⟨offenses, ho⟩ := hreturns
    rw [ho, offenses_eq_reports ho, hreports, List.map_nil]

/-- With more group names the rule still returns and reports a part of what it reported. Only the names
of both families together count, and without `describe` among the example groups there is nothing to
report. -/
theorem investigate_sublist_of_groupNames (m : IgnoredMetadata) (path : Option String) (root : Slot) :
    (∀ v w : Vocabulary, "describe" ∈ v.exampleGroups → "describe" ∈ w.exampleGroups →
      v.groupNames ⊆ w.groupNames →
      ∀ offenses, (Rule.mk v m).investigate path root = .ok offenses →
        ∃ fewer, (Rule.mk w m).investigate path root = .ok fewer ∧ fewer.Sublist offenses) ∧
    (∀ v w : Vocabulary, "describe" ∈ v.exampleGroups → "describe" ∈ w.exampleGroups →
      v.groupNames ⊆ w.groupNames → w.groupNames ⊆ v.groupNames →
      ∀ offenses, (Rule.mk v m).investigate path root = .ok offenses ↔
        (Rule.mk w m).investigate path root = .ok offenses) ∧
    ∀ v : Vocabulary, "describe" ∉ v.exampleGroups →
      ∀ offenses, (Rule.mk v m).investigate path root = .ok offenses ↔
        BlocksOpenCalls root ∧ offenses = [] := by
  refine ⟨fun v w hv _ h offenses => investigate_of_groupNames hv h, ?_,
    fun v hv offenses => investigate_of_no_describe hv⟩
  intro v w hv hw hvw hwv offenses
  constructor
  · exact investigate_of_same_groupNames hv hw hvw hwv
  · exact investigate_of_same_groupNames hw hv hwv hvw

/-- A group with a text in the block of a feature, and one beside it. -/
def featureGroups : Node :=
  let describe (start : Int) : Node := .mk "send" (some "describe") ⟨start, start + 17, 1, start⟩
    [none, some (.mk "str" (some "adding") ⟨start + 9, start + 17, 1, start + 9⟩ [])]
  .mk "program" none ⟨0, 60, 1, 0⟩
    [some (.mk "block" none ⟨0, 40, 1, 0⟩
      [some (.mk "send" (some "feature") ⟨0, 7, 1, 0⟩ [none]), some (describe 11)]),
     some (describe 41)]

/-- Once a feature opens a group, the group inside it is no longer reported. -/
theorem investigate_featureGroups :
    let few : Vocabulary := ⟨["describe"], []⟩
    "describe" ∈ few.exampleGroups ∧ "describe" ∈ Vocabulary.standard.exampleGroups ∧
      few.groupNames ⊆ Vocabulary.standard.groupNames ∧
      (Rule.mk few .standard).investigate none (some featureGroups) =
        .ok [⟨⟨20, 28, 1, 20⟩, message, name, none⟩, ⟨⟨50, 58, 1, 50⟩, message, name, none⟩] ∧
      ∃ fewer, (Rule.mk .standard .standard).investigate none (some featureGroups) = .ok fewer ∧
        fewer = [⟨⟨50, 58, 1, 50⟩, message, name, none⟩] ∧
        fewer.Sublist [⟨⟨20, 28, 1, 20⟩, message, name, none⟩, ⟨⟨50, 58, 1, 50⟩, message, name, none⟩] := by
  intro few
  have hfew : "describe" ∈ few.exampleGroups := by decide
  have hstandard : "describe" ∈ Vocabulary.standard.exampleGroups := by decide
  have hnames : few.groupNames ⊆ Vocabulary.standard.groupNames := by decide
  have hall : (Rule.mk few .standard).investigate none (some featureGroups) =
      .ok [⟨⟨20, 28, 1, 20⟩, message, name, none⟩, ⟨⟨50, 58, 1, 50⟩, message, name, none⟩] := by
    decide +kernel
  obtain ⟨fewer, hok, hsub⟩ := (investigate_sublist_of_groupNames .standard none (some featureGroups)).1
    few .standard hfew hstandard hnames _ hall
  have hone : (Rule.mk .standard .standard).investigate none (some featureGroups) =
      .ok [⟨⟨50, 58, 1, 50⟩, message, name, none⟩] := by
    decide +kernel
  exact ⟨hfew, hstandard, hnames, hall, fewer, hok, Except.ok.inj (hok.symm.trans hone), hsub⟩

end Rule

section LargerTable
variable {m n : IgnoredMetadata} (h : ∀ key value, m.allows key value → n.allows key value)
include h

theorem IsIgnoredPair.mono {s : Slot} (hs : IsIgnoredPair m s) : IsIgnoredPair n s := by
  obtain ⟨pair, key, value, hpair, hk, hc, hkey, hvalue, hallows⟩ := hs
  exact ⟨pair, key, value, hpair, hk, hc, hkey, hvalue, h _ _ hallows⟩

theorem CarriesIgnored.mono {send : Node} (hs : CarriesIgnored m send) : CarriesIgnored n send := by
  obtain ⟨hash, hlast, hk, s, hmem, hpair⟩ := hs
  exact ⟨hash, hlast, hk, s, hmem, hpair.mono h⟩

theorem Rule.examines_of_allows {v : Vocabulary} {root : Slot} {p : Position} {send : Node}
    (he : (Rule.mk v n).Examines root p send) : (Rule.mk v m).Examines root p send := by
  refine ⟨he.at_position, he.describes, he.is_group, he.outermost, ?_⟩
  intro hi
  exact he.not_ignored (hi.mono h)

end LargerTable

namespace Rule
variable {v : Vocabulary} {m n : IgnoredMetadata} {path : Option String} {root : Slot}

/-- The last slot of a call holds a hash with a pair that one table ignores and another does not. -/
def GainsIgnored (m n : IgnoredMetadata) (send : Node) : Prop :=
  ∃ hash, send.children.getLast? = some (some hash) ∧ hash.kind = "hash" ∧
    ∃ s ∈ hash.children, IsIgnoredPair n s ∧ ¬ IsIgnoredPair m s

theorem gainsIgnored_of_carriesIgnored {send : Node} (hm : ¬ CarriesIgnored m send)
    (hn : CarriesIgnored n send) : GainsIgnored m n send := by
  obtain ⟨hash, hlast, hk, s, hs, hpair⟩ := hn
  refine ⟨hash, hlast, hk, s, hs, hpair, ?_⟩
  intro hm'
  exact hm ⟨hash, hlast, hk, s, hs, hm'⟩

theorem gainsIgnored_of_not_reported {p : Position} {send d : Node}
    (hf : (Rule.mk v m).Flags root p send) (hd : send.slot 1 = some d)
    (hno : (p, ⟨d.span, message, name, path⟩) ∉ (Rule.mk v n).reports path root) :
    GainsIgnored m n send := by
  refine gainsIgnored_of_carriesIgnored hf.not_ignored ?_
  by_contra hi
  apply hno
  rw [mem_reports_iff, offenseAt_eq_some_iff]
  exact ⟨send, d, ⟨hf.at_position, hf.describes, hf.is_group, hf.outermost, hf.non_constant, hi⟩, hd, rfl⟩

/-- With a larger table the rule still returns and reports a part of what it reported, and what is no
longer reported carries a pair that only the larger table ignores. -/
theorem investigate_sublist_of_allows (v : Vocabulary) (path : Option String) (root : Slot)
    (raw₁ raw₂ : Option Value)
    (hallows : ∀ key value, (IgnoredMetadata.ofValue raw₁).allows key value →
      (IgnoredMetadata.ofValue raw₂).allows key value)
    (offenses : List Offense)
    (hreturns : (Rule.mk v (.ofValue raw₁)).investigate path root = .ok offenses) :
    ∃ all kept : List (Position × Offense),
      offenses = all.map (·.2) ∧
      (Rule.mk v (.ofValue raw₂)).investigate path root = .ok (kept.map (·.2)) ∧
      kept.Sublist all ∧ (all.map (·.1)).Pairwise Position.Before ∧
      ∀ x ∈ all, ∃ send d, (Rule.mk v (.ofValue raw₁)).Flags root x.1 send ∧
        send.slot 1 = some d ∧ x.2.location = d.span ∧
        (x ∉ kept → GainsIgnored (.ofValue raw₁) (.ofValue raw₂) send) := by
  have hex : ∀ p send, (Rule.mk v (.ofValue raw₂)).Examines root p send →
      (Rule.mk v (.ofValue raw₁)).Examines root p send := fun _ _ => examines_of_allows hallows
  refine ⟨_, _, offenses_eq_reports hreturns, investigate_of_examines hex ⟨offenses, hreturns⟩,
    reports_sublist_of_examines hex, reports_sorted, fun x hx => ?_⟩
  obtain ⟨p, o⟩ := x
  obtain ⟨send, d, hf, hd, rfl⟩ := offenseAt_eq_some_iff.mp (mem_reports_iff.mp hx)
  exact ⟨send, d, hf, hd, rfl, gainsIgnored_of_not_reported hf hd⟩

/-- A group with a text and `type: :feature`, and one with a text alone. -/
def typedGroups : Node :=
  let leaf (kind value : String) (start : Int) : Node := .mk kind (some value) ⟨start, start + 8, 1, start⟩ []
  let feature : Node := .mk "hash" none ⟨19, 33, 1, 19⟩
    [some (.mk "pair" none ⟨19, 33, 1, 19⟩ [some (leaf "sym" "type" 19), some (leaf "sym" "feature" 25)])]
  .mk "program" none ⟨0, 60, 1, 0⟩
    [some (.mk "send" (some "describe") ⟨0, 33, 1, 0⟩ [none, some (leaf "str" "adding" 9), some feature]),
     some (.mk "send" (some "describe") ⟨34, 51, 1, 34⟩ [none, some (leaf "str" "adding" 43)])]

def withFeatures : Value :=
  .table [("type", .list [.text "request", .text "controller", .text "feature"])]

theorem allows_withFeatures (key value : String) (h : IgnoredMetadata.standard.allows key value) :
    (IgnoredMetadata.ofValue (some withFeatures)).allows key value := by
  have htable : IgnoredMetadata.ofValue (some withFeatures) =
      ⟨[("type", ["request", "controller", "feature"])]⟩ := rfl
  rw [htable]
  by_cases hk : key = "type"
  · subst hk
    have hvalue : value = "request" ∨ value = "controller" := by
      simpa [IgnoredMetadata.allows, IgnoredMetadata.get?, IgnoredMetadata.standard, Entries.get?] using h
    rcases hvalue with rfl | rfl <;> rfl
  · have hbeq : (key == "type") = false := beq_eq_false_iff_ne.mpr hk
    simp [IgnoredMetadata.allows, IgnoredMetadata.get?, IgnoredMetadata.standard, Entries.get?,
      List.lookup_cons, hbeq] at h

/-- Once features are ignored, only the group without metadata is reported. -/
theorem investigate_typedGroups :
    (∀ key value, (IgnoredMetadata.ofValue none).allows key value →
      (IgnoredMetadata.ofValue (some withFeatures)).allows key value) ∧
    ∃ gone kept : Position × Offense,
      (Rule.mk .standard (.ofValue none)).investigate none (some typedGroups) = .ok [gone.2, kept.2] ∧
      (Rule.mk .standard (.ofValue (some withFeatures))).investigate none (some typedGroups) =
        .ok [kept.2] ∧
      ∃ send, slotAt (some typedGroups) gone.1 = some send ∧
        GainsIgnored (.ofValue none) (.ofValue (some withFeatures)) send := by
  have hall : (Rule.mk .standard (.ofValue none)).investigate none (some typedGroups) =
      .ok [⟨⟨9, 17, 1, 9⟩, message, name, none⟩, ⟨⟨43, 51, 1, 43⟩, message, name, none⟩] := by
    decide +kernel
  have hone : (Rule.mk .standard (.ofValue (some withFeatures))).investigate none (some typedGroups) =
      .ok [⟨⟨43, 51, 1, 43⟩, message, name, none⟩] := by
    decide +kernel
  obtain ⟨all, kept, hoffenses, hkept, hsub, hsorted, hflags⟩ :=
    investigate_sublist_of_allows .standard none (some typedGroups) none (some withFeatures)
      allows_withFeatures _ hall
  obtain ⟨x, _, rfl, hx, hrest⟩ := List.map_eq_cons_iff.mp hoffenses.symm
  obtain ⟨y, rfl, hy⟩ := List.map_eq_singleton_iff.mp hrest
  obtain ⟨z, rfl, hz⟩ := List.map_eq_singleton_iff.mp (Except.ok.inj (hkept.symm.trans hone))
  -- Of the two only the second is at the place of the one that is kept.
  have hxz : x ≠ z := by
    rintro rfl
    simp [hx] at hz
  obtain ⟨send, d, hf, -, -, hgains⟩ := hflags x List.mem_cons_self
  refine ⟨allows_withFeatures, x, y, ?_, ?_, send, hf.at_position, hgains ?_⟩
  · rw [hall, hx, hy]
  · rw [hone, hy]
  · rwa [List.mem_singleton]

end Rule
end GroupLint
