import GroupLint.Proofs.PatternAlgebra

/-! The number of slots that a match captures can be read off its pattern, as long as alternatives
agree on it. So captures can be taken apart without a look at how many there are, which is what the
rule and its table of ignored metadata do. -/
namespace GroupLint
namespace Pattern

def parts : Pattern → List Pattern
  | .capture p | .not p | .hasChild p => [p]
  | .allOf ps | .anyOf ps => ps
  | .shape _ v ps => v :: ps
  | _ => []

theorem sizeOf_lt_of_mem_parts {p q : Pattern} (h : q ∈ p.parts) : sizeOf q < sizeOf p := by
  cases p with
  | capture p | not p | hasChild p =>
    obtain rfl : q = p := List.mem_singleton.mp h
    simp
  | allOf ps | anyOf ps =>
    have hlt : sizeOf q < sizeOf ps := List.sizeOf_lt_of_mem h
    simp only [allOf.sizeOf_spec, anyOf.sizeOf_spec]
    omega
  | shape ks v ps =>
    simp only [shape.sizeOf_spec]
    cases List.mem_cons.mp h with
    | inl hv =>
      subst hv
      omega
    | inr hps =>
      have hlt : sizeOf q < sizeOf ps := List.sizeOf_lt_of_mem hps
      omega
  | _ => simp [parts] at h

theorem induction_on_parts {P : Pattern → Prop} (step : ∀ p, (∀ q ∈ p.parts, P q) → P p)
    (p : Pattern) : P p :=
  step p fun q _ => induction_on_parts step q
termination_by sizeOf p
decreasing_by exact sizeOf_lt_of_mem_parts ‹_›

mutual

/-- How many slots a match captures. A rest captures none, and alternatives have to agree. -/
def arity : Pattern → Nat
  | .capture p => 1 + p.arity
  | .hasChild p => p.arity
  | .allOf ps => totalArity ps
  | .anyOf [] => 0
  | .anyOf (p :: _) => p.arity
  | .shape _ v ps => v.arity + totalArity ps
  | _ => 0

def totalArity : List Pattern → Nat
  | [] => 0
  | p :: ps => p.arity + totalArity ps

end

mutual

/-- Whether alternatives agree on how many slots they capture. It does not matter below a `not`,
from where nothing is captured. -/
def isUniform : Pattern → Bool
  | .capture p | .hasChild p => p.isUniform
  | .allOf ps => areUniform ps
  | .anyOf ps => areUniform ps && ps.all fun p => p.arity == (anyOf ps).arity
  | .shape _ v ps => v.isUniform && areUniform ps
  | _ => true

def areUniform : List Pattern → Bool
  | [] => true
  | p :: ps => p.isUniform && areUniform ps

end

theorem areUniform_iff {ps : List Pattern} : areUniform ps ↔ ∀ p ∈ ps, p.isUniform := by
  induction ps with
  | nil => simp [areUniform]
  | cons p ps ih => simp [areUniform, ih]

section Matches
variable {α : Type} {f : α → Outcome} {xs : List α} {o o' : Outcome} {acc cs : Captures}

theorem exists_of_extend (h : extend acc o = .ok (some cs)) :
    ∃ ds, o = .ok (some ds) ∧ acc ++ ds = cs := by
  obtain e | _ | ds := o
  · simp [extend, Except.map] at h
  · simp at h
  · exact ⟨ds, rfl, by simpa using h⟩

theorem exists_of_both (h : both o o' = .ok (some cs)) :
    ∃ ds es, o = .ok (some ds) ∧ o' = .ok (some es) ∧ ds ++ es = cs := by
  obtain e | _ | ds := o
  · simp at h
  · simp at h
  · obtain ⟨es, hes, hcs⟩ := exists_of_extend h
    exact ⟨ds, es, rfl, hes, hcs⟩

theorem eq_nil_of_negated (h : negated o = .ok (some cs)) : cs = [] := by
  obtain e | _ | ds := o
  · simp [negated] at h
  · simpa [negated, eq_comm] using h
  · simp [negated] at h

theorem exists_of_inTurn {R : α → Captures → Prop}
    (hR : ∀ x ∈ xs, ∀ ds, f x = .ok (some ds) → R x ds) (h : inTurn (xs.map f) = .ok (some cs)) :
    ∃ css : List Captures, List.Forall₂ R xs css ∧ css.flatten = cs := by
  induction xs generalizing cs with
  | nil => exact ⟨[], .nil, by simpa using h⟩
  | cons x xs ih =>
    obtain ⟨hone, hmore⟩ := List.forall_mem_cons.mp hR
    rw [List.map_cons, inTurn_cons] at h
    obtain ⟨ds, es, hds, hes, rfl⟩ := exists_of_both h
    obtain ⟨css, hcss, rfl⟩ := ih hmore hes
    exact ⟨ds :: css, .cons (hone ds hds) hcss, rfl⟩

theorem exists_of_firstOf (h : firstOf (xs.map f) = .ok (some cs)) :
    ∃ (i : Nat) (x : α), xs[i]? = some x ∧ f x = .ok (some cs) ∧
      ∀ j < i, ∀ y, xs[j]? = some y → f y = .ok none := by
  induction xs with
  | nil => simp at h
  | cons x xs ih =>
    rw [List.map_cons, firstOf_cons] at h
    rcases hx : f x with e | _ | ds
    · simp [hx] at h
    · rw [hx, either_none] at h
      obtain ⟨i, y, hy, hcs, hbefore⟩ := ih h
      refine ⟨i + 1, y, hy, hcs, fun j hj z hz => ?_⟩
      cases j with
      | zero =>
        obtain rfl : x = z := by simpa using hz
        exact hx
      | succ j => exact hbefore j (by omega) z hz
    · rw [hx, either_some] at h
      exact ⟨0, x, rfl, hx.trans h, fun j hj => absurd hj (by omega)⟩

end Matches

section Captured
variable {p : Pattern} {ps : List Pattern} {s : Slot} {ss : List Slot} {cs : Captures}

theorem eq_of_keepIf {b : Bool} {acc : Captures} (h : keepIf b acc = .ok (some cs)) : cs = acc := by
  cases b with
  | true => simpa [eq_comm] using h
  | false => simp at h

theorem captures_of_no_parts (hp : p.parts = []) (h : p.match? s = .ok (some cs)) : cs = [] := by
  cases p with
  | any => simpa [match?, collect, eq_comm] using h
  | rest | unspecified => simp [match?, collect] at h
  | empty | kind | notKind | value | test =>
    rw [match?, collect] at h
    exact eq_of_keepIf h
  | attempt holds =>
    rw [match?, collect] at h
    cases hs : holds s with
    | error reason => simp [hs] at h
    | ok b =>
      rw [hs] at h
      exact eq_of_keepIf h
  | capture p | not p | hasChild p => simp [parts] at hp
  | allOf ps =>
    obtain rfl : ps = [] := hp
    simpa [match_allOf, eq_comm] using h
  | anyOf ps =>
    obtain rfl : ps = [] := hp
    simp [match_anyOf] at h
  | shape ks v ps => simp [parts] at hp

theorem collectRow_of_collectCovered (h : collectCovered ps ss [] = .ok (some cs)) :
    coversLength ps ss.length ∧ collectRow ps ss [] = .ok (some cs) := by
  rw [collectCovered] at h
  split at h
  · exact ⟨‹_›, h⟩
  · simp at h

theorem node_of_match_shape {ks : List String} {v : Pattern}
    (h : (shape ks v ps).match? s = .ok (some cs)) :
    ∃ n, s = some n ∧ n.kind ∈ ks ∧
      both (v.match? s) (collectCovered ps n.children []) = .ok (some cs) := by
  cases s with
  | none => simp [match?, collect] at h
  | some n =>
    rw [match_shape_node] at h
    split at h
    · exact ⟨n, rfl, ‹_›, h⟩
    · simp at h

theorem node_of_match_hasChild (h : (hasChild p).match? s = .ok (some cs)) :
    ∃ n, s = some n ∧ firstOf (n.children.map p.match?) = .ok (some cs) := by
  cases s with
  | none => simp [match?, collect] at h
  | some n => exact ⟨n, rfl, by rw [← match_hasChild, h]⟩

end Captured

section Arity
variable {ps : List Pattern}

theorem length_flatten_eq_totalArity {css : List Captures}
    (h : List.Forall₂ (fun p cs => cs.length = p.arity) ps css) :
    css.flatten.length = totalArity ps := by
  induction h with
  | nil => rfl
  | cons hp _ ih => rw [List.flatten_cons, List.length_append, hp, ih, totalArity]

theorem length_of_collectRow
    (hps : ∀ p ∈ ps, ∀ s cs, p.match? s = .ok (some cs) → cs.length = p.arity) {ss : List Slot}
    {cs : Captures} (h : collectRow ps ss [] = .ok (some cs)) : cs.length = totalArity ps := by
  induction ps generalizing ss cs with
  | nil =>
    rw [collectRow] at h
    obtain rfl : [] = cs := by simpa using h
    rfl
  | cons p ps ih =>
    obtain ⟨hone, hmore⟩ := List.forall_mem_cons.mp hps
    by_cases hp : p = .rest
    · subst hp
      rw [collectRow] at h
      have harity : arity .rest = 0 := rfl
      rw [ih hmore h, totalArity, harity, Nat.zero_add]
    · cases ss with
      | nil =>
        rw [collectRow] at h
        · simp at h
        · exact hp
      | cons s ss =>
        rw [collectRow_cons ps s hp] at h
        obtain ⟨ds, es, hds, hes, rfl⟩ := exists_of_both h
        rw [List.length_append, hone s ds hds, ih hmore hes, totalArity]

theorem length_of_match (p : Pattern) : p.isUniform → ∀ s cs, p.match? s = .ok (some cs) →
    cs.length = p.arity := by
  induction p using induction_on_parts with
  | step p ih =>
    intro hu s cs h
    cases p with
    | capture p =>
      rw [isUniform] at hu
      rw [match_capture] at h
      obtain ⟨ds, hds, rfl⟩ := exists_of_extend h
      rw [List.length_append, ih p (by simp [parts]) hu s ds hds, arity]
      rfl
    | not p =>
      rw [match_not] at h
      rw [eq_nil_of_negated h]
      rfl
    | allOf ps =>
      rw [isUniform, areUniform_iff] at hu
      rw [match_allOf] at h
      obtain ⟨css, hcss, rfl⟩ := exists_of_inTurn (fun p hp => ih p hp (hu p hp) s) h
      rw [arity]
      exact length_flatten_eq_totalArity hcss
    | anyOf ps =>
      rw [isUniform, Bool.and_eq_true, areUniform_iff, List.all_eq_true] at hu
      rw [match_anyOf] at h
      obtain ⟨i, p, hp, hcs, -⟩ := exists_of_firstOf h
      have hmem : p ∈ ps := List.mem_of_getElem? hp
      have hsame : p.arity = (anyOf ps).arity := by simpa using hu.2 p hmem
      rw [← hsame]
      exact ih p hmem (hu.1 p hmem) s cs hcs
    | hasChild p =>
      rw [isUniform] at hu
      obtain ⟨n, -, hfirst⟩ := node_of_match_hasChild h
      obtain ⟨i, c, -, hcs, -⟩ := exists_of_firstOf hfirst
      rw [arity]
      exact ih p (by simp [parts]) hu c cs hcs
    | shape ks v ps =>
      rw [isUniform, Bool.and_eq_true, areUniform_iff] at hu
      obtain ⟨n, rfl, -, hboth⟩ := node_of_match_shape h
      obtain ⟨ds, es, hds, hes, rfl⟩ := exists_of_both hboth
      have hv := ih v (by simp [parts]) hu.1 (some n) ds hds
      have hps := length_of_collectRow (fun p hp => ih p (by simp [parts, hp]) (hu.2 p hp))
        (collectRow_of_collectCovered hes).2
      rw [List.length_append, hv, hps, arity]
    | _ =>
      rw [captures_of_no_parts rfl h]
      rfl

end Arity

section Unpacking
open IgnoredMetadata Rule

theorem match_unpacks {p : Pattern} (hp : p.isMeaningful) (hu : p.isUniform) (s : Slot) :
    p.match? s = .ok none ∨ ∃ cs, p.match? s = .ok (some cs) ∧ cs.length = p.arity := by
  cases match_cases hp s with
  | inl hmiss => exact Or.inl hmiss.1
  | inr hhit =>
    obtain ⟨cs, hcs, -⟩ := hhit
    exact Or.inr ⟨cs, hcs, length_of_match p hu s cs hcs⟩

theorem describedWithNonConstant_unpacks (s : Slot) :
    describedWithNonConstant.match? s = .ok none ∨
      ∃ described, describedWithNonConstant.match? s = .ok (some [described]) := by
  have harity : describedWithNonConstant.arity = 1 := rfl
  cases match_unpacks (p := describedWithNonConstant) rfl rfl s with
  | inl hmiss => exact Or.inl hmiss
  | inr hhit =>
    obtain ⟨cs, hcs, hlen⟩ := hhit
    obtain ⟨described, rfl⟩ := List.length_eq_one_iff.mp (hlen.trans harity)
    exact Or.inr ⟨described, hcs⟩

theorem symbolPair_unpacks (s : Slot) :
    symbolPair.match? s = .ok none ∨ ∃ key value, symbolPair.match? s = .ok (some [key, value]) := by
  have harity : symbolPair.arity = 2 := rfl
  cases match_unpacks (p := symbolPair) rfl rfl s with
  | inl hmiss => exact Or.inl hmiss
  | inr hhit =>
    obtain ⟨cs, hcs, hlen⟩ := hhit
    obtain ⟨key, value, rfl⟩ := List.length_eq_two.mp (hlen.trans harity)
    exact Or.inr ⟨key, value, hcs⟩

theorem judge_ne_captureCount (r : Rule) (path : Option String) (c : Call) :
    r.judge path c ≠ .error .captureCount := by
  rw [judge]
  obtain e | _ | _ := (withIgnoredMetadata r.ignored).match? (some c.send)
  · simp
  · cases describedWithNonConstant_unpacks (some c.send) with
    | inl hmiss => simp [hmiss]
    | inr hhit =>
      obtain ⟨described, hcs⟩ := hhit
      cases described <;> simp [hcs]
  · simp

end Unpacking

/-- A pattern whose alternatives agree captures as many slots as its arity says, whatever it is
matched with. So the rule finds its one capture and the table its two. -/
theorem match_captures_arity :
    (∀ p : Pattern, p.isUniform → ∀ s cs, p.match? s = .ok (some cs) → cs.length = p.arity) ∧
    (∀ s, Rule.describedWithNonConstant.match? s = .ok none ∨
      ∃ described, Rule.describedWithNonConstant.match? s = .ok (some [described])) ∧
    (∀ s, IgnoredMetadata.symbolPair.match? s = .ok none ∨
      ∃ key value, IgnoredMetadata.symbolPair.match? s = .ok (some [key, value])) ∧
    ∀ (r : Rule) (path : Option String) (c : Call), r.judge path c ≠ .error .captureCount :=
  ⟨length_of_match, describedWithNonConstant_unpacks, symbolPair_unpacks, judge_ne_captureCount⟩

/-- A call with its receiver, if there is one, and with the first pair of its last argument. -/
def receiverAndPair : Pattern :=
  .shape ["send"] .any
    [.anyOf [.capture .empty, .capture (.kind ["const"])], .rest,
     .capture (.hasChild (.capture (.kind ["pair"])))]

/-- The alternative that fails leaves no capture behind. -/
theorem match_receiverAndPair :
    let node (kind : String) (slots : List Slot) : Slot := some (.mk kind none ⟨0, 0, 1, 0⟩ slots)
    let receiver := node "const" [none]
    let pair := node "pair" [none, none]
    let hash := node "hash" [none, pair, pair]
    let captures := [receiver, hash, pair]
    receiverAndPair.isUniform ∧
      receiverAndPair.match? (node "send" [receiver, none, hash]) = .ok (some captures) ∧
      captures.length = receiverAndPair.arity := by
  intro node receiver pair hash captures
  have hmatch : receiverAndPair.match? (node "send" [receiver, none, hash]) = .ok (some captures) := rfl
  exact ⟨rfl, hmatch, match_captures_arity.1 receiverAndPair rfl _ captures hmatch⟩

end Pattern
end GroupLint
