import GroupLint.Proofs.PatternMeaning

/-! The outcome of a match is composed of the outcomes of its parts. Captures, misses and faults go
through two operations: `both`, for patterns that must all fit, and `either`, for alternatives. An
outcome that one of them passes over is never looked at, so the laws of patterns that follow from
theirs also say which fault surfaces. -/
namespace GroupLint
namespace Pattern

/-- A second outcome counts only after a match, whose captures stand before its own. -/
def both (o o' : Outcome) : Outcome :=
  match o with
  | .ok (some cs) => extend cs o'
  | o => o

/-- A second outcome counts only where there is no match. -/
def either (o o' : Outcome) : Outcome :=
  match o with
  | .ok none => o'
  | o => o

/-- A match where there was none, and none where there was one; a fault stays. -/
def negated : Outcome → Outcome
  | .ok none => .ok (some [])
  | .ok (some _) => .ok none
  | .error e => .error e

section Operations
variable (o o' o'' : Outcome) (cs ds : Captures)

theorem extend_extend : extend cs (extend ds o) = extend (cs ++ ds) o := by
  obtain e | _ | xs := o
  · rfl
  · rfl
  · simp

@[simp] theorem both_some : both (.ok (some cs)) o = extend cs o := rfl

@[simp] theorem both_none : both (.ok none) o = .ok none := rfl

@[simp] theorem both_error (e : PatternFault) : both (.error e) o = .error e := rfl

@[simp] theorem either_some : either (.ok (some cs)) o = .ok (some cs) := rfl

@[simp] theorem either_none : either (.ok none) o = o := rfl

@[simp] theorem either_error (e : PatternFault) : either (.error e) o = .error e := rfl

theorem extend_both : extend cs (both o o') = both (extend cs o) o' := by
  obtain e | _ | xs := o
  · rfl
  · rfl
  · exact extend_extend o' cs xs

theorem both_assoc : both (both o o') o'' = both o (both o' o'') := by
  obtain e | _ | cs := o
  · rfl
  · rfl
  · exact (extend_both o' o'' cs).symm

theorem either_assoc : either (either o o') o'' = either o (either o' o'') := by
  obtain e | _ | cs := o <;> rfl

theorem negated_both : negated (both o o') = either (negated o) (negated o') := by
  obtain e | _ | cs := o
  · rfl
  · rfl
  · obtain e | _ | ds := o' <;> rfl

theorem negated_either : negated (either o o') = both (negated o) (negated o') := by
  obtain e | _ | cs := o
  · rfl
  · exact (extend_nil (negated o')).symm
  · rfl

end Operations

def inTurn (os : List Outcome) : Outcome := os.foldr both (.ok (some []))

def firstOf (os : List Outcome) : Outcome := os.foldr either (.ok none)

section Rows
variable (os os' : List Outcome)

@[simp] theorem inTurn_nil : inTurn [] = .ok (some []) := rfl

@[simp] theorem inTurn_cons (o : Outcome) : inTurn (o :: os) = both o (inTurn os) := rfl

@[simp] theorem firstOf_nil : firstOf [] = .ok none := rfl

@[simp] theorem firstOf_cons (o : Outcome) : firstOf (o :: os) = either o (firstOf os) := rfl

theorem inTurn_append : inTurn (os ++ os') = both (inTurn os) (inTurn os') := by
  induction os with
  | nil => exact (extend_nil (inTurn os')).symm
  | cons o os ih => rw [List.cons_append, inTurn_cons, inTurn_cons, ih, both_assoc]

theorem firstOf_append : firstOf (os ++ os') = either (firstOf os) (firstOf os') := by
  induction os with
  | nil => rfl
  | cons o os ih => rw [List.cons_append, firstOf_cons, firstOf_cons, ih, either_assoc]

theorem negated_inTurn : negated (inTurn os) = firstOf (os.map negated) := by
  induction os with
  | nil => rfl
  | cons o os ih => rw [inTurn_cons, negated_both, ih, List.map_cons, firstOf_cons]

theorem negated_firstOf : negated (firstOf os) = inTurn (os.map negated) := by
  induction os with
  | nil => rfl
  | cons o os ih => rw [firstOf_cons, negated_either, ih, List.map_cons, inTurn_cons]

end Rows

section Collecting
variable (p : Pattern) (ps : List Pattern) (s : Slot) (acc : Captures)

/-- What was collected before a match plays no part in it. -/
theorem collect_eq_extend : p.collect s acc = extend acc (p.match? s) := by
  rw [match?]
  cases p with
  | any => simp [collect]
  | empty => simp [collect]
  | rest => rfl
  | unspecified => rfl
  | kind ks => simp [collect]
  | notKind ks => simp [collect]
  | value v => simp [collect]
  | test holds => simp [collect]
  | attempt holds =>
    rw [collect, collect]
    cases holds s with
    | error reason => rfl
    | ok b => simp
  | capture p => rw [collect, collect, extend_extend, List.nil_append]
  | not p =>
    rw [collect, collect]
    obtain e | _ | cs := p.collect s []
    · rfl
    · simp
    · rfl
  | allOf ps => rw [collect, collect, extend_nil]
  | anyOf ps => rw [collect, collect, extend_nil]
  | hasChild p =>
    cases s with
    | none => rfl
    | some n => simp only [collect, extend_nil]
  | shape ks v ps =>
    cases s with
    | none => rfl
    | some n =>
      rw [collect, collect]
      split
      · rfl
      · obtain e | _ | cs := v.collect (some n) []
        · rfl
        · rfl
        · simp only [extend_nil]
          split <;> rfl

theorem collectAll_eq_extend : collectAll ps s acc = extend acc (collectAll ps s []) := by
  induction ps generalizing acc with
  | nil => simp [collectAll]
  | cons p ps ih =>
    rw [collectAll, collectAll, collect_eq_extend p s acc, match?]
    obtain e | _ | cs := p.collect s []
    · rfl
    · rfl
    · simp only [extend_some]
      rw [ih (acc ++ cs), ih cs, extend_extend]

theorem collectRow_eq_extend (ss : List Slot) :
    collectRow ps ss acc = extend acc (collectRow ps ss []) := by
  induction ps generalizing ss acc with
  | nil =>
    rw [collectRow, collectRow]
    simp
  | cons p ps ih =>
    by_cases hp : p = .rest
    · subst hp
      rw [collectRow, collectRow]
      exact ih acc _
    · cases ss with
      | nil =>
        rw [collectRow, collectRow]
        · rfl
        · exact hp
        · exact hp
      | cons s ss =>
        rw [collectRow, collectRow]
        · rw [collect_eq_extend p s acc, match?]
          obtain e | _ | cs := p.collect s []
          · rfl
          · rfl
          · simp only [extend_some]
            rw [ih (acc ++ cs), ih cs, extend_extend]
        · exact hp
        · exact hp

end Collecting

section Matching
variable (p : Pattern) (ps : List Pattern) (s : Slot)

theorem match_capture : (capture p).match? s = extend [s] (p.match? s) := by
  rw [match?, collect, List.nil_append, match?]

theorem match_not : (not p).match? s = negated (p.match? s) := by
  rw [match?, collect, match?]
  obtain e | _ | cs := p.collect s [] <;> rfl

theorem match_allOf : (allOf ps).match? s = inTurn (ps.map fun p => p.match? s) := by
  rw [match?, collect, extend_nil]
  induction ps with
  | nil => rw [collectAll, List.map_nil, inTurn_nil]
  | cons p ps ih =>
    rw [collectAll, List.map_cons, inTurn_cons, ← ih, match?]
    obtain e | _ | cs := p.collect s []
    · rfl
    · rfl
    · exact collectAll_eq_extend ps s cs

theorem match_anyOf : (anyOf ps).match? s = firstOf (ps.map fun p => p.match? s) := by
  rw [match?, collect, extend_nil]
  induction ps with
  | nil => rw [collectFirst, List.map_nil, firstOf_nil]
  | cons p ps ih =>
    rw [collectFirst, List.map_cons, firstOf_cons, ← ih, match?]
    obtain e | _ | cs := p.collect s [] <;> rfl

theorem firstFit_eq_firstOf (f : Slot → Outcome) (ss : List Slot) :
    firstFit f ss = firstOf (ss.map f) := by
  induction ss with
  | nil => rfl
  | cons s ss ih =>
    rw [firstFit, List.map_cons, firstOf_cons, ← ih]
    obtain e | _ | cs := f s <;> rfl

theorem match_hasChild (n : Node) :
    (hasChild p).match? (some n) = firstOf (n.children.map p.match?) := by
  rw [match?, collect, extend_nil, ← firstFit_eq_firstOf]
  rfl

theorem collectRow_cons {p : Pattern} (hp : p ≠ .rest) (ss : List Slot) :
    collectRow (p :: ps) (s :: ss) [] = both (p.match? s) (collectRow ps ss []) := by
  rw [collectRow, match?]
  · obtain e | _ | cs := p.collect s []
    · rfl
    · rfl
    · exact collectRow_eq_extend ps cs ss
  · exact hp

theorem match_shape_node (ks : List String) (v : Pattern) (n : Node) :
    (shape ks v ps).match? (some n) =
      if n.kind ∈ ks then both (v.match? (some n)) (collectCovered ps n.children []) else .ok none := by
  rw [match?, collect, match?]
  by_cases hk : n.kind ∈ ks
  · rw [if_neg (by simpa using hk), if_pos hk]
    obtain e | _ | cs := v.collect (some n) []
    · rfl
    · rfl
    · simp only [both_some, collectCovered, extend_nil]
      rw [apply_ite (extend cs), extend_none, ← collectRow_eq_extend]
  · rw [if_pos (by simpa using hk), if_neg hk]

theorem map_match_not :
    (ps.map not).map (fun p => p.match? s) = (ps.map fun p => p.match? s).map negated := by
  rw [List.map_map, List.map_map]
  exact List.map_congr_left fun p _ => match_not p s

end Matching

/-- Nested conjunctions and alternatives can be flattened, and a negation moves inside them. Neither
changes an outcome: not the captures, and not the fault that surfaces. -/
theorem match_of_flattened_or_dual (as bs cs : List Pattern) (s : Slot) :
    (allOf (as ++ allOf bs :: cs)).match? s = (allOf (as ++ bs ++ cs)).match? s ∧
    (anyOf (as ++ anyOf bs :: cs)).match? s = (anyOf (as ++ bs ++ cs)).match? s ∧
    (not (allOf as)).match? s = (anyOf (as.map not)).match? s ∧
    (not (anyOf as)).match? s = (allOf (as.map not)).match? s := by
  refine ⟨?_, ?_, ?_, ?_⟩
  · rw [match_allOf, match_allOf, List.map_append, List.map_cons, match_allOf, inTurn_append,
      inTurn_cons, List.map_append, List.map_append, inTurn_append, inTurn_append, both_assoc]
  · rw [match_anyOf, match_anyOf, List.map_append, List.map_cons, match_anyOf, firstOf_append,
      firstOf_cons, List.map_append, List.map_append, firstOf_append, firstOf_append, either_assoc]
  · rw [match_not, match_allOf, match_anyOf, negated_inTurn, map_match_not]
  · rw [match_not, match_anyOf, match_allOf, negated_firstOf, map_match_not]

end Pattern
end GroupLint
