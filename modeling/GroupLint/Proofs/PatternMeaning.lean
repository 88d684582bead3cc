import GroupLint.Proofs.RulePatterns

/-! What patterns mean. Captures play no part in it, and a shape asks only that there be some way to
give the rest a row of slots that leaves one slot to each other pattern. Matching finds out whether a
pattern holds of a slot by trying one such way. -/
namespace GroupLint
namespace Pattern

mutual

def Satisfies : Pattern → Slot → Prop
  | .any, _ => True
  | .empty, s => s = none
  | .rest, _ => False
  | .unspecified, _ => False
  | .kind ks, s => ∃ n, s = some n ∧ n.kind ∈ ks
  | .notKind ks, s => ∀ n, s = some n → n.kind ∉ ks
  | .value v, s => ∃ n, s = some n ∧ n.value = v
  | .capture p, s => p.Satisfies s
  | .not p, s => ¬ p.Satisfies s
  | .allOf ps, s => SatisfiesAll ps s
  | .anyOf ps, s => SatisfiesSome ps s
  | .test holds, s => holds s
  | .attempt holds, s => holds s = .ok true
  | .hasChild p, s => ∃ n, s = some n ∧ ∃ c ∈ n.children, p.Satisfies c
  | .shape ks v ps, s => ∃ n, s = some n ∧ n.kind ∈ ks ∧ v.Satisfies s ∧ SatisfiesRow ps n.children

def SatisfiesAll : List Pattern → Slot → Prop
  | [], _ => True
  | p :: ps, s => p.Satisfies s ∧ SatisfiesAll ps s

def SatisfiesSome : List Pattern → Slot → Prop
  | [], _ => False
  | p :: ps, s => p.Satisfies s ∨ SatisfiesSome ps s

/-- Patterns and slots fit one to one and in order, but for the slots in a row that a rest takes. -/
def SatisfiesRow : List Pattern → List Slot → Prop
  | [], ss => ss = []
  | .rest :: ps, ss => ∃ taken left, ss = taken ++ left ∧ SatisfiesRow ps left
  | p :: ps, ss => ∃ s left, ss = s :: left ∧ p.Satisfies s ∧ SatisfiesRow ps left

end

mutual

/-- Whether rests stand only among the children of shapes, at most one in each, and nothing is
unspecified or tested in a way that may break off. -/
def isMeaningful : Pattern → Bool
  | .rest | .unspecified | .attempt _ => false
  | .capture p | .not p | .hasChild p => p.isMeaningful
  | .allOf ps | .anyOf ps => areMeaningful ps
  | .shape _ v ps => v.isMeaningful && ps.countP isRest ≤ 1 && isMeaningfulRow ps
  | _ => true

def areMeaningful : List Pattern → Bool
  | [] => true
  | p :: ps => p.isMeaningful && areMeaningful ps

def isMeaningfulRow : List Pattern → Bool
  | [] => true
  | p :: ps => (p.isRest || p.isMeaningful) && isMeaningfulRow ps

end

/-- An outcome without a fault that is a match iff a proposition holds. -/
def Decides (o : Outcome) (P : Prop) : Prop := ∃ cs, o = .ok cs ∧ (cs.isSome ↔ P)

section Outcomes
variable {o o' : Outcome} {P Q : Prop}

theorem Decides.congr (h : Decides o P) (hPQ : P ↔ Q) : Decides o Q := by
  obtain ⟨cs, ho, hcs⟩ := h
  exact ⟨cs, ho, hcs.trans hPQ⟩

theorem decides_some (acc : Captures) (h : P) : Decides (.ok (some acc)) P := ⟨_, rfl, by simpa using h⟩

theorem decides_none (h : ¬ P) : Decides (.ok none) P := ⟨_, rfl, by simpa using h⟩

theorem not_of_decides_none (h : Decides (.ok none) P) : ¬ P := by
  obtain ⟨cs, ho, hcs⟩ := h
  obtain rfl : none = cs := Except.ok.inj ho
  simpa using hcs

theorem decides_keepIf {b : Bool} (acc : Captures) (h : b = true ↔ P) : Decides (keepIf b acc) P := by
  cases b with
  | true => exact decides_some acc (h.mp rfl)
  | false => exact decides_none (by simpa using h)

theorem Decides.extend (acc : Captures) (h : Decides o P) : Decides (extend acc o) P := by
  obtain ⟨_ | cs, rfl, hcs⟩ := h
  · exact ⟨none, rfl, hcs⟩
  · exact ⟨some (acc ++ cs), rfl, hcs⟩

theorem Decides.not (acc : Captures) :
    Decides o P → Decides (match o with
      | .ok none => .ok (some acc)
      | .ok (some _) => .ok none
      | .error e => .error e) (¬ P) := by
  rintro ⟨_ | cs, rfl, hcs⟩
  · exact decides_some acc (by simpa using hcs)
  · exact decides_none (by simpa using hcs)

theorem Decides.and {next : Captures → Outcome} (hnext : ∀ cs, Decides (next cs) Q) :
    Decides o P → Decides (match o with
      | .ok (some cs) => next cs
      | o => o) (P ∧ Q) := by
  rintro ⟨_ | cs, rfl, hcs⟩
  · have hP : ¬ P := by simpa using hcs
    exact decides_none fun h => hP h.1
  · have hP : P := by simpa using hcs
    exact (hnext cs).congr (by simp [hP])

theorem Decides.or (hnext : Decides o' Q) :
    Decides o P → Decides (match o with
      | .ok none => o'
      | o => o) (P ∨ Q) := by
  rintro ⟨_ | cs, rfl, hcs⟩
  · have hP : ¬ P := by simpa using hcs
    exact hnext.congr (by simp [hP])
  · have hP : P := by simpa using hcs
    exact decides_some cs (Or.inl hP)

theorem decides_firstFit {f : Slot → Outcome} {R : Slot → Prop} (h : ∀ s, Decides (f s) (R s))
    (ss : List Slot) : Decides (firstFit f ss) (∃ s ∈ ss, R s) := by
  induction ss with
  | nil => exact decides_none (by simp)
  | cons s ss ih =>
    have hstep := Decides.or ih (h s)
    rw [firstFit]
    exact hstep.congr (by simp)

end Outcomes

theorem isRest_iff {p : Pattern} : p.isRest ↔ p = .rest := by
  cases p <;> simp [isRest]

section Row
variable {p : Pattern} {ps : List Pattern}

theorem satisfiesRow_cons (hp : p ≠ .rest) (ss : List Slot) :
    SatisfiesRow (p :: ps) ss ↔ ∃ s left, ss = s :: left ∧ p.Satisfies s ∧ SatisfiesRow ps left := by
  rw [SatisfiesRow]
  exact hp

theorem length_of_satisfiesRow (hps : ∀ p ∈ ps, p ≠ .rest) {ss : List Slot}
    (h : SatisfiesRow ps ss) : ss.length = ps.length := by
  induction ps generalizing ss with
  | nil =>
    obtain rfl : ss = [] := h
    rfl
  | cons p ps ih =>
    obtain ⟨hp, hps⟩ := List.forall_mem_cons.mp hps
    obtain ⟨s, left, rfl, -, hleft⟩ := (satisfiesRow_cons hp ss).mp h
    simp [ih hps hleft]

theorem satisfiesRow_rest_iff (hps : ∀ p ∈ ps, p ≠ .rest) (ss : List Slot) :
    SatisfiesRow (.rest :: ps) ss ↔
      ps.length ≤ ss.length ∧ SatisfiesRow ps (ss.drop (ss.length - ps.length)) := by
  rw [SatisfiesRow]
  constructor
  · rintro ⟨taken, left, rfl, hleft⟩
    -- The patterns after the rest take one slot each, which leaves one way to divide the slots.
    have hlen := length_of_satisfiesRow hps hleft
    have htaken : (taken ++ left).length - ps.length = taken.length := by
      rw [List.length_append]
      omega
    rw [htaken, List.drop_left]
    exact ⟨by rw [List.length_append]; omega, hleft⟩
  · rintro ⟨-, h⟩
    exact ⟨_, _, (List.take_append_drop _ ss).symm, h⟩

theorem coversLength_rest (ps : List Pattern) (k : Nat) :
    coversLength (.rest :: ps) k ↔ ps.length ≤ k := by
  simp [coversLength, isRest]

theorem coversLength_of_no_rest (hps : ∀ p ∈ ps, p ≠ .rest) (k : Nat) :
    coversLength ps k ↔ ps.length = k := by
  have hany : ps.any isRest = false := by
    rw [List.any_eq_false]
    intro p hp hr
    exact hps p hp (isRest_iff.mp hr)
  simp [coversLength, hany]

theorem not_coversLength_zero (hp : p ≠ .rest) : ¬ coversLength (p :: ps) 0 := by
  have hr : p.isRest = false := by simpa [← isRest_iff] using hp
  cases ps with
  | nil => simp [coversLength, hr]
  | cons q ps => simp [coversLength]

theorem coversLength_succ (hp : p ≠ .rest) (k : Nat) :
    coversLength (p :: ps) (k + 1) = coversLength ps k := by
  have hr : p.isRest = false := by simpa [← isRest_iff] using hp
  simp [coversLength, hr]

/-- The search of a row, which starts with a look at the number of slots. -/
def collectCovered (ps : List Pattern) (ss : List Slot) (acc : Captures) : Outcome :=
  if coversLength ps ss.length then collectRow ps ss acc else .ok none

theorem decides_row_rest (hps : ∀ p ∈ ps, p ≠ .rest)
    (ih : ∀ ss acc, Decides (collectCovered ps ss acc) (SatisfiesRow ps ss)) (ss : List Slot)
    (acc : Captures) :
    Decides (collectCovered (.rest :: ps) ss acc) (SatisfiesRow (.rest :: ps) ss) := by
  rw [satisfiesRow_rest_iff hps, collectCovered]
  by_cases hlen : ps.length ≤ ss.length
  · have hcovers : coversLength ps (ss.drop (ss.length - ps.length)).length := by
      rw [coversLength_of_no_rest hps, List.length_drop]
      omega
    have h := ih (ss.drop (ss.length - ps.length)) acc
    rw [collectCovered, if_pos hcovers] at h
    rw [if_pos ((coversLength_rest ps _).mpr hlen), collectRow]
    exact h.congr (by simp [hlen])
  · rw [if_neg ((coversLength_rest ps _).not.mpr hlen)]
    exact decides_none fun h => hlen h.1

theorem decides_row_cons (hp : p ≠ .rest) (hone : ∀ s acc, Decides (p.collect s acc) (p.Satisfies s))
    (ih : ∀ ss acc, Decides (collectCovered ps ss acc) (SatisfiesRow ps ss)) (ss : List Slot)
    (acc : Captures) : Decides (collectCovered (p :: ps) ss acc) (SatisfiesRow (p :: ps) ss) := by
  rw [satisfiesRow_cons hp, collectCovered]
  cases ss with
  | nil =>
    rw [if_neg (by simpa using not_coversLength_zero hp)]
    exact decides_none (by simp)
  | cons s ss =>
    have hrow : (∃ t left, s :: ss = t :: left ∧ p.Satisfies t ∧ SatisfiesRow ps left) ↔
        p.Satisfies s ∧ SatisfiesRow ps ss := by
      simp
    rw [hrow, List.length_cons, coversLength_succ hp]
    by_cases hcovers : coversLength ps ss.length
    · rw [if_pos hcovers, collectRow]
      · refine Decides.and (fun cs => ?_) (hone s acc)
        have h := ih ss cs
        rwa [collectCovered, if_pos hcovers] at h
      · exact hp
    · -- Too few or too many slots for the patterns after this one: they cannot all be satisfied.
      have h := ih ss acc
      rw [collectCovered, if_neg hcovers] at h
      rw [if_neg hcovers]
      exact decides_none fun hs => not_of_decides_none h hs.2

end Row

theorem forall_ne_rest_of_countP {ps : List Pattern} (h : (.rest :: ps).countP isRest ≤ 1) :
    ∀ p ∈ ps, p ≠ .rest := by
  have hzero : ps.countP isRest = 0 := by
    rw [List.countP_cons_of_pos rfl] at h
    omega
  intro p hp hr
  exact List.countP_eq_zero.mp hzero p hp (isRest_iff.mpr hr)

theorem decides_shape {ks : List String} {v : Pattern} {ps : List Pattern}
    (hv : ∀ s acc, Decides (v.collect s acc) (v.Satisfies s))
    (hrow : ∀ ss acc, Decides (collectCovered ps ss acc) (SatisfiesRow ps ss)) (s : Slot)
    (acc : Captures) : Decides ((shape ks v ps).collect s acc) ((shape ks v ps).Satisfies s) := by
  rw [collect.eq_def, Satisfies]
  cases s with
  | none => exact decides_none (by simp)
  | some n =>
    by_cases hk : n.kind ∈ ks
    · have hnext : ∀ trial, Decides
          (if coversLength ps n.children.length then extend acc (collectRow ps n.children trial)
            else .ok none) (SatisfiesRow ps n.children) := by
        intro trial
        have h := (hrow n.children trial).extend acc
        rw [collectCovered, apply_ite (extend acc), extend_none] at h
        exact h
      have h := Decides.and hnext (hv (some n) [])
      dsimp only
      rw [if_neg (by simpa using hk)]
      exact h.congr (by simp [hk])
    · dsimp only
      rw [if_pos (by simpa using hk)]
      exact decides_none (by simp [hk])

mutual

theorem collect_decides : ∀ p : Pattern, p.isMeaningful → ∀ s acc,
    Decides (p.collect s acc) (p.Satisfies s)
  | .any, _, s, acc => decides_some acc trivial
  | .empty, _, s, acc => by
    rw [collect, Satisfies]
    exact decides_keepIf acc Option.isNone_iff_eq_none
  | .rest, h, _, _ => by simp [isMeaningful] at h
  | .unspecified, h, _, _ => by simp [isMeaningful] at h
  | .attempt _, h, _, _ => by simp [isMeaningful] at h
  | .kind ks, _, s, acc => by
    rw [collect, Satisfies]
    exact decides_keepIf acc (by simp [Option.any_eq_true])
  | .notKind ks, _, s, acc => by
    rw [collect, Satisfies]
    exact decides_keepIf acc (by simp [Option.all_eq_true])
  | .value v, _, s, acc => by
    rw [collect, Satisfies]
    exact decides_keepIf acc (by simp [Option.any_eq_true])
  | .test holds, _, s, acc => by
    rw [collect, Satisfies]
    exact decides_keepIf acc Iff.rfl
  | .capture p, h, s, acc => by
    rw [collect, Satisfies]
    exact (collect_decides p h s []).extend _
  | .not p, h, s, acc => by
    rw [collect, Satisfies]
    exact (collect_decides p h s []).not acc
  | .allOf ps, h, s, acc => by
    rw [collect, Satisfies]
    exact (collectAll_decides ps h s []).extend acc
  | .anyOf ps, h, s, acc => by
    rw [collect, Satisfies]
    exact (collectFirst_decides ps h s).extend acc
  | .hasChild p, h, s, acc => by
    rw [collect.eq_def, Satisfies]
    cases s with
    | none => exact decides_none (by simp)
    | some n =>
      have hfirst := decides_firstFit (fun c => collect_decides p h c []) n.children
      exact (hfirst.extend acc).congr (by simp)
  | .shape ks v ps, h, s, acc => by
    simp only [isMeaningful, Bool.and_eq_true, decide_eq_true_eq] at h
    exact decides_shape (collect_decides v h.1.1) (collectCovered_decides ps h.2 h.1.2) s acc

theorem collectAll_decides : ∀ ps : List Pattern, areMeaningful ps → ∀ s acc,
    Decides (collectAll ps s acc) (SatisfiesAll ps s)
  | [], _, _, acc => decides_some acc trivial
  | p :: ps, h, s, acc => by
    rw [areMeaningful, Bool.and_eq_true] at h
    rw [collectAll, SatisfiesAll]
    exact Decides.and (collectAll_decides ps h.2 s) (collect_decides p h.1 s acc)

theorem collectFirst_decides : ∀ ps : List Pattern, areMeaningful ps → ∀ s,
    Decides (collectFirst ps s) (SatisfiesSome ps s)
  | [], _, _ => decides_none id
  | p :: ps, h, s => by
    rw [areMeaningful, Bool.and_eq_true] at h
    rw [collectFirst, SatisfiesSome]
    exact Decides.or (collectFirst_decides ps h.2 s) (collect_decides p h.1 s [])

theorem collectCovered_decides : ∀ ps : List Pattern, isMeaningfulRow ps → ps.countP isRest ≤ 1 →
    ∀ ss acc, Decides (collectCovered ps ss acc) (SatisfiesRow ps ss)
  | [], _, _, ss, acc => by
    cases ss with
    | nil => exact decides_some acc rfl
    | cons s ss => exact decides_none (by simp [SatisfiesRow])
  | p :: ps, h, hcount, ss, acc => by
    rw [isMeaningfulRow, Bool.and_eq_true] at h
    have hle : ps.countP isRest ≤ 1 := Nat.le_trans (List.sublist_cons_self p ps).countP_le hcount
    have ih := collectCovered_decides ps h.2 hle
    by_cases hp : p = .rest
    · subst hp
      exact decides_row_rest (forall_ne_rest_of_countP hcount) ih ss acc
    · have hm : p.isMeaningful := by simpa [isRest_iff, hp] using h.1
      exact decides_row_cons hp (collect_decides p hm) ih ss acc

end

theorem match_cases {p : Pattern} (h : p.isMeaningful) (s : Slot) :
    (p.match? s = .ok none ∧ ¬ p.Satisfies s) ∨ ∃ cs, p.match? s = .ok (some cs) ∧ p.Satisfies s := by
  obtain ⟨_ | cs, hcs, hiff⟩ := collect_decides p h s []
  · exact Or.inl ⟨hcs, by simpa using hiff⟩
  · exact Or.inr ⟨cs, hcs, by simpa using hiff⟩

/-- A meaningful pattern can be matched against any slot, and it matches those that satisfy it. -/
theorem match_succeeds_iff_satisfies (p : Pattern) (h : p.isMeaningful) (s : Slot) :
    ∃ cs, p.match? s = .ok cs ∧ (cs.isSome ↔ p.Satisfies s) :=
  collect_decides p h s []

def endsInHash : Pattern := .shape ["send"] .any [.not (.kind ["const"]), .rest, .capture (.kind ["hash"])]

/-- The rest may take nothing, but one slot cannot serve both patterns beside it. -/
theorem match_endsInHash :
    let call (slots : List Slot) : Slot := some (.mk "send" none ⟨0, 0, 1, 0⟩ slots)
    let hash : Slot := some (.mk "hash" none ⟨0, 0, 1, 0⟩ [])
    endsInHash.isMeaningful ∧ endsInHash.Satisfies (call [none, hash]) ∧
      ¬ endsInHash.Satisfies (call [hash]) := by
  intro call hash
  have h : endsInHash.isMeaningful := rfl
  have htwo : endsInHash.match? (call [none, hash]) = .ok (some [hash]) := rfl
  have hone : endsInHash.match? (call [hash]) = .ok none := rfl
  refine ⟨h, ?_, ?_⟩
  · obtain ⟨cs, hcs, hiff⟩ := match_succeeds_iff_satisfies endsInHash h (call [none, hash])
    obtain rfl : some [hash] = cs := Except.ok.inj (htwo.symm.trans hcs)
    exact hiff.mp rfl
  · obtain ⟨cs, hcs, hiff⟩ := match_succeeds_iff_satisfies endsInHash h (call [hash])
    obtain rfl : none = cs := Except.ok.inj (hone.symm.trans hcs)
    simpa using hiff

end Pattern
end GroupLint
