import GroupLint.Proofs.RulePatterns

/-! Trees that differ at most in their spans. They have the same positions with like nodes in them, and
no pattern can tell one from the other: matched against both, it fails on both or captures like
slots. -/
namespace GroupLint
open Node

def SlotLike : Slot → Slot → Prop := Option.Rel fun a b => a.alike b

theorem slotLike_cases {s t : Slot} (h : SlotLike s t) :
    (s = none ∧ t = none) ∨ ∃ m n, s = some m ∧ t = some n ∧ m.alike n := by
  cases h with
  | none => exact Or.inl ⟨rfl, rfl⟩
  | some h => exact Or.inr ⟨_, _, rfl, rfl, h⟩

theorem any_like {s t : Slot} (h : SlotLike s t) {f : Node → Bool}
    (hf : ∀ m n : Node, m.alike n → f m = f n) : s.any f = t.any f := by
  cases h with
  | none => rfl
  | some h => exact hf _ _ h

namespace Node

theorem slotsAlike_iff {cs ds : List Slot} : slotsAlike cs ds ↔ List.Forall₂ SlotLike cs ds := by
  induction cs generalizing ds with
  | nil => cases ds <;> simp [slotsAlike]
  | cons s cs ih =>
    cases ds with
    | nil => cases s <;> simp [slotsAlike]
    | cons t ds => cases s <;> cases t <;> simp [slotsAlike, ih, SlotLike]

theorem alike_iff {a b : Node} :
    a.alike b ↔ a.kind = b.kind ∧ a.value = b.value ∧
      List.Forall₂ SlotLike a.children b.children := by
  obtain ⟨k, v, s, cs⟩ := a
  obtain ⟨k', v', s', cs'⟩ := b
  simp [alike, slotsAlike_iff, and_assoc]

theorem isCall_of_alike {a b : Node} (h : a.alike b) : a.isCall = b.isCall := by
  rw [isCall, isCall, (alike_iff.mp h).1]

theorem slot_like {a b : Node} (h : a.alike b) (i : Nat) : SlotLike (a.slot i) (b.slot i) := by
  have hcs := (alike_iff.mp h).2.2
  rw [slot, slot]
  generalize a.children = cs at hcs
  generalize b.children = ds at hcs
  induction hcs generalizing i with
  | nil => exact .none
  | cons hs hr ih =>
    cases i with
    | zero => exact hs
    | succ i => exact ih i

theorem slotAt_like {s t : Slot} (h : SlotLike s t) (p : Position) :
    SlotLike (slotAt s p) (slotAt t p) := by
  induction p generalizing s t with
  | nil => simpa using h
  | cons i p ih =>
    cases h with
    | none => exact .none
    | some h => exact ih (slot_like h i)

mutual

theorem positions_of_alike : ∀ a b : Node, a.alike b → a.positions = b.positions
  | .mk k v s cs, .mk k' v' s' cs', h => by
    have hcs := (alike_iff.mp h).2.2
    rw [positions, positions, positionsFrom_of_like 0 cs cs' hcs]

theorem positionsFrom_of_like (i : Nat) : ∀ cs ds : List Slot, List.Forall₂ SlotLike cs ds →
    positionsFrom i cs = positionsFrom i ds
  | [], _, .nil => rfl
  | none :: r, _, .cons .none hr => by
    rw [positionsFrom, positionsFrom, positionsFrom_of_like (i + 1) r _ hr]
  | some n :: r, _, .cons (.some hn) hr => by
    rw [positionsFrom, positionsFrom, positions_of_alike n _ hn,
      positionsFrom_of_like (i + 1) r _ hr]

end

theorem positionsOf_like {s t : Slot} (h : SlotLike s t) : positionsOf s = positionsOf t := by
  cases h with
  | none => rfl
  | some h => exact positions_of_alike _ _ h

end Node

namespace Pattern

inductive OutcomeLike : Outcome → Outcome → Prop
  | fault (e : PatternFault) : OutcomeLike (.error e) (.error e)
  | miss : OutcomeLike (.ok none) (.ok none)
  | hit {cs ds : Captures} : List.Forall₂ SlotLike cs ds → OutcomeLike (.ok (some cs)) (.ok (some ds))

section Outcomes
variable {o o' : Outcome} {acc acc' : Captures}

theorem outcomeLike_keepIf {b b' : Bool} (hb : b = b') (hacc : List.Forall₂ SlotLike acc acc') :
    OutcomeLike (keepIf b acc) (keepIf b' acc') := by
  subst hb
  cases b with
  | true => exact .hit hacc
  | false => exact .miss

theorem OutcomeLike.extend (hacc : List.Forall₂ SlotLike acc acc') (h : OutcomeLike o o') :
    OutcomeLike (extend acc o) (extend acc' o') := by
  cases h with
  | fault e => exact .fault e
  | miss => exact .miss
  | hit hcs => exact .hit (List.rel_append hacc hcs)

theorem OutcomeLike.not (hacc : List.Forall₂ SlotLike acc acc') :
    OutcomeLike o o' → OutcomeLike
      (match o with
        | .ok none => .ok (some acc)
        | .ok (some _) => .ok none
        | .error e => .error e)
      (match o' with
        | .ok none => .ok (some acc')
        | .ok (some _) => .ok none
        | .error e => .error e) := by
  intro h
  cases h with
  | fault e => exact .fault e
  | miss => exact .hit hacc
  | hit _ => exact .miss

theorem OutcomeLike.and {next next' : Captures → Outcome}
    (hnext : ∀ cs ds, List.Forall₂ SlotLike cs ds → OutcomeLike (next cs) (next' ds)) :
    OutcomeLike o o' → OutcomeLike
      (match o with
        | .ok (some cs) => next cs
        | o => o)
      (match o' with
        | .ok (some cs) => next' cs
        | o => o) := by
  intro h
  cases h with
  | fault e => exact .fault e
  | miss => exact .miss
  | hit hcs => exact hnext _ _ hcs

theorem OutcomeLike.or {other other' : Outcome} (hother : OutcomeLike other other') :
    OutcomeLike o o' → OutcomeLike
      (match o with
        | .ok none => other
        | o => o)
      (match o' with
        | .ok none => other'
        | o => o) := by
  intro h
  cases h with
  | fault e => exact .fault e
  | miss => exact hother
  | hit hcs => exact .hit hcs

theorem outcomeLike_firstFit {f : Slot → Outcome}
    (hf : ∀ s t, SlotLike s t → OutcomeLike (f s) (f t)) {ss ts : List Slot}
    (h : List.Forall₂ SlotLike ss ts) : OutcomeLike (firstFit f ss) (firstFit f ts) := by
  induction h with
  | nil => exact .miss
  | cons hs hr ih =>
    have hstep := OutcomeLike.or ih (hf _ _ hs)
    rw [firstFit, firstFit]
    exact hstep

end Outcomes

mutual

/-- Every test in a pattern is one of some kind, and none may break off. -/
def TestsAre (T : (Slot → Bool) → Prop) : Pattern → Prop
  | .test holds => T holds
  | .attempt _ => False
  | .capture p | .not p | .hasChild p => p.TestsAre T
  | .allOf ps | .anyOf ps => AllTestsAre T ps
  | .shape _ v ps => v.TestsAre T ∧ AllTestsAre T ps
  | _ => True

def AllTestsAre (T : (Slot → Bool) → Prop) : List Pattern → Prop
  | [] => True
  | p :: ps => p.TestsAre T ∧ AllTestsAre T ps

end

def RespectLikeness (T : (Slot → Bool) → Prop) : Prop := ∀ f, T f → ∀ s t, SlotLike s t → f s = f t

theorem outcomeLike_shape {ks : List String} {v : Pattern} {ps : List Pattern}
    (hv : ∀ s t, SlotLike s t → OutcomeLike (v.collect s []) (v.collect t []))
    (hps : ∀ ss ts acc acc', List.Forall₂ SlotLike ss ts → List.Forall₂ SlotLike acc acc' →
      OutcomeLike (collectRow ps ss acc) (collectRow ps ts acc'))
    {s t : Slot} (h : SlotLike s t) {acc acc' : Captures} (hacc : List.Forall₂ SlotLike acc acc') :
    OutcomeLike ((shape ks v ps).collect s acc) ((shape ks v ps).collect t acc') := by
  rw [collect.eq_def, collect.eq_def]
  cases h with
  | none => exact .miss
  | @some m n h =>
    obtain ⟨hk, -, hcs⟩ := alike_iff.mp h
    have hnext : ∀ cs ds, List.Forall₂ SlotLike cs ds → OutcomeLike
        (if coversLength ps m.children.length then extend acc (collectRow ps m.children cs)
          else .ok none)
        (if coversLength ps n.children.length then extend acc' (collectRow ps n.children ds)
          else .ok none) := by
      intro cs ds hcd
      rw [hcs.length_eq]
      split
      · exact (hps _ _ _ _ hcs hcd).extend hacc
      · exact .miss
    have hstep := OutcomeLike.and hnext (hv _ _ (.some h))
    dsimp only
    rw [hk]
    split
    · exact .miss
    · exact hstep

variable {T : (Slot → Bool) → Prop}

mutual

theorem collect_like (hT : RespectLikeness T) : ∀ p : Pattern, p.TestsAre T → ∀ s t acc acc', SlotLike s t →
    List.Forall₂ SlotLike acc acc' → OutcomeLike (p.collect s acc) (p.collect t acc')
  | .any, _, _, _, _, _, _, hacc => .hit hacc
  | .empty, _, s, t, acc, acc', h, hacc => by
    rw [collect, collect]
    refine outcomeLike_keepIf ?_ hacc
    cases h <;> rfl
  | .rest, _, _, _, _, _, _, _ => .fault _
  | .unspecified, _, _, _, _, _, _, _ => .fault _
  | .kind ks, _, s, t, acc, acc', h, hacc => by
    rw [collect, collect]
    exact outcomeLike_keepIf (any_like h fun m n hmn => by rw [(alike_iff.mp hmn).1]) hacc
  | .notKind ks, _, s, t, acc, acc', h, hacc => by
    rw [collect, collect]
    refine outcomeLike_keepIf ?_ hacc
    cases h with
    | none => rfl
    | some h => simp [(alike_iff.mp h).1]
  | .value v, _, s, t, acc, acc', h, hacc => by
    rw [collect, collect]
    exact outcomeLike_keepIf (any_like h fun m n hmn => by rw [(alike_iff.mp hmn).2.1]) hacc
  | .test holds, hp, s, t, acc, acc', h, hacc => by
    rw [collect, collect]
    exact outcomeLike_keepIf (hT holds hp s t h) hacc
  | .attempt _, hp, _, _, _, _, _, _ => hp.elim
  | .capture p, hp, s, t, acc, acc', h, hacc => by
    rw [collect, collect]
    have hcaptured := List.rel_append hacc (List.Forall₂.cons h .nil)
    exact (collect_like hT p hp s t [] [] h .nil).extend hcaptured
  | .not p, hp, s, t, acc, acc', h, hacc => by
    rw [collect, collect]
    exact (collect_like hT p hp s t [] [] h .nil).not hacc
  | .allOf ps, hps, s, t, acc, acc', h, hacc => by
    rw [collect, collect]
    exact (collectAll_like hT ps hps s t [] [] h .nil).extend hacc
  | .anyOf ps, hps, s, t, acc, acc', h, hacc => by
    rw [collect, collect]
    exact (collectFirst_like hT ps hps s t h).extend hacc
  | .hasChild p, hp, s, t, acc, acc', h, hacc => by
    rw [collect.eq_def, collect.eq_def]
    cases h with
    | none => exact .miss
    | some h =>
      have hfirst := outcomeLike_firstFit (fun c d hcd => collect_like hT p hp c d [] [] hcd .nil)
        (alike_iff.mp h).2.2
      exact hfirst.extend hacc
  | .shape ks v ps, hp, s, t, acc, acc', h, hacc =>
    outcomeLike_shape (fun c d hcd => collect_like hT v hp.1 c d [] [] hcd .nil)
      (collectRow_like hT ps hp.2) h hacc

theorem collectAll_like (hT : RespectLikeness T) : ∀ ps : List Pattern, AllTestsAre T ps → ∀ s t acc acc', SlotLike s t →
    List.Forall₂ SlotLike acc acc' → OutcomeLike (collectAll ps s acc) (collectAll ps t acc')
  | [], _, _, _, _, _, _, hacc => .hit hacc
  | p :: ps, hps, s, t, acc, acc', h, hacc => by
    rw [collectAll, collectAll]
    exact OutcomeLike.and (fun cs ds hcd => collectAll_like hT ps hps.2 s t cs ds h hcd)
      (collect_like hT p hps.1 s t acc acc' h hacc)

theorem collectFirst_like (hT : RespectLikeness T) : ∀ ps : List Pattern, AllTestsAre T ps → ∀ s t, SlotLike s t →
    OutcomeLike (collectFirst ps s) (collectFirst ps t)
  | [], _, _, _, _ => .miss
  | p :: ps, hps, s, t, h => by
    rw [collectFirst, collectFirst]
    exact OutcomeLike.or (collectFirst_like hT ps hps.2 s t h) (collect_like hT p hps.1 s t [] [] h .nil)

theorem collectRow_like (hT : RespectLikeness T) : ∀ ps : List Pattern, AllTestsAre T ps → ∀ ss ts acc acc',
    List.Forall₂ SlotLike ss ts → List.Forall₂ SlotLike acc acc' →
    OutcomeLike (collectRow ps ss acc) (collectRow ps ts acc')
  | [], _, _, _, _, _, _, hacc => by
    rw [collectRow, collectRow]
    exact .hit hacc
  | p :: ps, hps, ss, ts, acc, acc', h, hacc => by
    by_cases hp : p = .rest
    · subst hp
      rw [collectRow, collectRow, h.length_eq]
      exact collectRow_like hT ps hps.2 _ _ _ _ (List.forall₂_drop _ h) hacc
    · cases h with
      | nil =>
        rw [collectRow, collectRow]
        · exact .miss
        · exact hp
        · exact hp
      | cons hs hr =>
        rw [collectRow, collectRow]
        · exact OutcomeLike.and (fun cs ds hcd => collectRow_like hT ps hps.2 _ _ cs ds hr hcd)
            (collect_like hT p hps.1 _ _ acc acc' hs hacc)
        · exact hp
        · exact hp

end

theorem match_like (hT : RespectLikeness T) {p : Pattern} (hp : p.TestsAre T) {s t : Slot}
    (h : SlotLike s t) : OutcomeLike (p.match? s) (p.match? t) :=
  collect_like hT p hp s t [] [] h .nil

theorem fits_like (hT : RespectLikeness T) {p : Pattern} (hp : p.TestsAre T) {s t : Slot}
    (h : SlotLike s t) : p.fits s = p.fits t := by
  have hmatch := match_like hT hp h
  rw [fits, fits]
  generalize p.match? s = o at hmatch
  generalize p.match? t = o' at hmatch
  cases hmatch <;> rfl

end Pattern

section OwnTests
open Pattern

def IsOwnTest (f : Slot → Bool) : Prop :=
  f = Vocabulary.isRspecReceiver ∨ f = isStringConstant ∨ ∃ m : IgnoredMetadata, f = m.ignoresPair

theorem respectLikeness_none : RespectLikeness fun _ => False := fun _ h => h.elim

theorem symbolText_of_alike {m n : Node} (h : m.alike n) :
    IgnoredMetadata.symbolText m = IgnoredMetadata.symbolText n := by
  rw [IgnoredMetadata.symbolText, IgnoredMetadata.symbolText, (alike_iff.mp h).2.1]

variable {s t : Slot} (h : SlotLike s t)
include h

theorem isRspecReceiver_like : Vocabulary.isRspecReceiver s = Vocabulary.isRspecReceiver t := by
  refine fits_like respectLikeness_none ?_ h
  simp [Vocabulary.rspecReceiver, TestsAre, AllTestsAre]

theorem isStringConstant_like : isStringConstant s = isStringConstant t := by
  refine any_like h fun m n hmn => ?_
  obtain ⟨hk, hv, -⟩ := alike_iff.mp hmn
  rw [hk, hv]

theorem ignoresPair_like (m : IgnoredMetadata) : m.ignoresPair s = m.ignoresPair t := by
  have hpair : IgnoredMetadata.symbolPair.TestsAre fun _ => False := by
    simp [IgnoredMetadata.symbolPair, TestsAre, AllTestsAre]
  have hmatch := match_like respectLikeness_none hpair h
  rw [IgnoredMetadata.ignoresPair, IgnoredMetadata.ignoresPair]
  generalize IgnoredMetadata.symbolPair.match? s = o at hmatch
  generalize IgnoredMetadata.symbolPair.match? t = o' at hmatch
  cases hmatch with
  | fault e => rfl
  | miss => rfl
  | hit hcs =>
    -- Only two captured nodes count; the texts of like symbols are the same.
    cases hcs with
    | nil => rfl
    | cons hkey hcs =>
      cases hkey with
      | none => rfl
      | some hkey =>
        cases hcs with
        | nil => rfl
        | cons hvalue hcs =>
          cases hvalue with
          | none => rfl
          | some hvalue =>
            cases hcs with
            | nil => simp only [symbolText_of_alike hkey, symbolText_of_alike hvalue]
            | cons _ _ => rfl

omit h in
theorem respectLikeness_own : RespectLikeness IsOwnTest := by
  rintro f (rfl | rfl | ⟨m, rfl⟩) s t h
  · exact isRspecReceiver_like h
  · exact isStringConstant_like h
  · exact ignoresPair_like h m

end OwnTests
end GroupLint
