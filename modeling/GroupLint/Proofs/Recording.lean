import GroupLint.Proofs.CaptureArity

/-! Matching with one list that captures are written to. A pattern made of others tries them on a list
of its own, which may be left half written; only if all goes well are its contents moved over. So a
pattern that does not fit leaves the list it was given as it found it. -/
namespace GroupLint
namespace Pattern

/-- Whether a slot fits, and what the list holds afterwards; or a fault. -/
abbrev Verdict := Except PatternFault (Bool × Captures)

/-- Moves over what a try has written, behind `own`, if the try went well. -/
def commit (acc own : Captures) : Verdict → Verdict
  | .ok (true, trial) => .ok (true, acc ++ own ++ trial)
  | .ok (false, _) => .ok (false, acc)
  | .error e => .error e

def recordChild (f : Slot → Verdict) (acc : Captures) : List Slot → Verdict
  | [] => .ok (false, acc)
  | s :: ss =>
    match f s with
    | .ok (false, _) => recordChild f acc ss
    | v => commit acc [] v

mutual

def record : Pattern → Slot → Captures → Verdict
  | .capture p, s, acc => commit acc [s] (p.record s [])
  | .not p, s, acc =>
    match p.record s [] with
    | .ok (fits, _) => .ok (!fits, acc)
    | .error e => .error e
  | .allOf ps, s, acc => commit acc [] (recordAll ps s [])
  | .anyOf ps, s, acc => recordFirst ps s acc
  | .hasChild p, s, acc =>
    match s with
    | none => .ok (false, acc)
    | some n => recordChild (fun c => p.record c []) acc n.children
  | .shape ks v ps, s, acc =>
    match s with
    | none => .ok (false, acc)
    | some n =>
      if !ks.contains n.kind then .ok (false, acc)
      else
        match v.record s [] with
        | .ok (true, trial) =>
          if coversLength ps n.children.length then commit acc [] (recordRow ps n.children trial)
          else .ok (false, acc)
        | v => commit acc [] v
  -- The others have nothing to write.
  | p, s, acc => (p.match? s).map fun cs => (cs.isSome, acc)

/-- Every pattern on the same list; what was written before one that does not fit stays. -/
def recordAll : List Pattern → Slot → Captures → Verdict
  | [], _, trial => .ok (true, trial)
  | p :: ps, s, trial =>
    match p.record s trial with
    | .ok (true, trial') => recordAll ps s trial'
    | v => v

def recordFirst : List Pattern → Slot → Captures → Verdict
  | [], _, acc => .ok (false, acc)
  | p :: ps, s, acc =>
    match p.record s [] with
    | .ok (false, _) => recordFirst ps s acc
    | v => commit acc [] v

def recordRow : List Pattern → List Slot → Captures → Verdict
  | [], _, trial => .ok (true, trial)
  | .rest :: ps, ss, trial => recordRow ps (ss.drop (ss.length - ps.length)) trial
  | _ :: _, [], trial => .ok (false, trial)
  | p :: ps, s :: ss, trial =>
    match p.record s trial with
    | .ok (true, trial') => recordRow ps ss trial'
    | v => v

end

/-- What an outcome says about a list: nothing is written unless there is a match. -/
def settle (acc : Captures) : Outcome → Verdict
  | .ok none => .ok (false, acc)
  | .ok (some cs) => .ok (true, acc ++ cs)
  | .error e => .error e

/-- What an outcome says about a list that is thrown away unless there is a match. -/
inductive Tried (trial : Captures) : Outcome → Verdict → Prop
  | fault (e : PatternFault) : Tried trial (.error e) (.error e)
  | miss (left : Captures) : Tried trial (.ok none) (.ok (false, left))
  | hit (cs : Captures) : Tried trial (.ok (some cs)) (.ok (true, trial ++ cs))

section Lists
variable {o : Outcome} {v : Verdict} {acc own trial cs : Captures}

theorem Tried.extend (h : Tried (trial ++ cs) o v) : Tried trial (extend cs o) v := by
  cases h with
  | fault e => exact .fault e
  | miss left => exact .miss left
  | hit ds =>
    rw [extend_some, List.append_assoc]
    exact .hit (cs ++ ds)

theorem commit_of_tried (h : Tried [] o v) : commit acc own v = settle acc (extend own o) := by
  cases h with
  | fault e => rfl
  | miss left => rfl
  | hit cs => rw [List.nil_append, commit, extend_some, settle, List.append_assoc]

theorem tried_settle (trial : Captures) (o : Outcome) : Tried trial o (settle trial o) := by
  obtain e | _ | cs := o
  · exact .fault e
  · exact .miss trial
  · exact .hit cs

end Lists

theorem tried_nil (trial : Captures) : Tried trial (.ok (some [])) (.ok (true, trial)) := by
  have hnil : Tried trial (.ok (some [])) (.ok (true, trial ++ [])) := .hit []
  rwa [List.append_nil] at hnil

section Recorded
variable {p : Pattern} {ps : List Pattern} {s : Slot}

theorem recordChild_eq {f : Slot → Verdict} {g : Slot → Outcome} (hf : ∀ s, f s = settle [] (g s))
    (acc : Captures) (ss : List Slot) : recordChild f acc ss = settle acc (firstOf (ss.map g)) := by
  induction ss with
  | nil => rfl
  | cons s ss ih =>
    rw [recordChild, hf, List.map_cons, firstOf_cons]
    obtain e | _ | cs := g s
    · rfl
    · exact ih
    · simp [settle, commit]

theorem recordFirst_eq (hps : ∀ p ∈ ps, p.record s [] = settle [] (p.match? s)) (acc : Captures) :
    recordFirst ps s acc = settle acc (firstOf (ps.map fun p => p.match? s)) := by
  induction ps with
  | nil => rfl
  | cons p ps ih =>
    obtain ⟨hone, hmore⟩ := List.forall_mem_cons.mp hps
    rw [recordFirst, hone, List.map_cons, firstOf_cons]
    obtain e | _ | cs := p.match? s
    · rfl
    · exact ih hmore
    · simp [settle, commit]

theorem recordAll_tried (hps : ∀ p ∈ ps, ∀ acc, p.record s acc = settle acc (p.match? s))
    (trial : Captures) : Tried trial (inTurn (ps.map fun p => p.match? s)) (recordAll ps s trial) := by
  induction ps generalizing trial with
  | nil =>
    rw [recordAll]
    exact tried_nil trial
  | cons p ps ih =>
    obtain ⟨hone, hmore⟩ := List.forall_mem_cons.mp hps
    rw [recordAll, hone, List.map_cons, inTurn_cons]
    obtain e | _ | cs := p.match? s
    · exact .fault e
    · exact .miss trial
    · exact (ih hmore (trial ++ cs)).extend

theorem recordRow_tried (hps : ∀ p ∈ ps, ∀ s acc, p.record s acc = settle acc (p.match? s))
    (ss : List Slot) (trial : Captures) :
    Tried trial (collectRow ps ss []) (recordRow ps ss trial) := by
  induction ps generalizing ss trial with
  | nil =>
    rw [collectRow, recordRow]
    exact tried_nil trial
  | cons p ps ih =>
    obtain ⟨hone, hmore⟩ := List.forall_mem_cons.mp hps
    by_cases hp : p = .rest
    · subst hp
      rw [collectRow, recordRow]
      exact ih hmore _ trial
    · cases ss with
      | nil =>
        rw [collectRow, recordRow]
        · exact .miss trial
        · exact hp
        · exact hp
      | cons s ss =>
        rw [collectRow_cons ps s hp, recordRow]
        · rw [hone]
          obtain e | _ | cs := p.match? s
          · exact .fault e
          · exact .miss trial
          · exact (ih hmore ss (trial ++ cs)).extend
        · exact hp

/-- The slots of a shape go on with the list that its value was tried on. -/
theorem recordRow_commit (hps : ∀ p ∈ ps, ∀ s acc, p.record s acc = settle acc (p.match? s))
    (ss : List Slot) (acc trial : Captures) :
    (if coversLength ps ss.length then commit acc [] (recordRow ps ss trial) else .ok (false, acc)) =
      settle acc (extend trial (collectCovered ps ss [])) := by
  rw [collectCovered]
  by_cases hlen : coversLength ps ss.length
  · have hrow : Tried ([] ++ trial) (collectRow ps ss []) (recordRow ps ss trial) :=
      recordRow_tried hps ss trial
    rw [if_pos hlen, if_pos hlen, commit_of_tried hrow.extend, extend_nil]
  · rw [if_neg hlen, if_neg hlen]
    rfl

theorem record_of_no_parts (hp : p.parts = []) (acc : Captures) :
    (p.match? s).map (fun cs => (cs.isSome, acc)) = settle acc (p.match? s) := by
  rcases hs : p.match? s with e | _ | cs
  · rfl
  · rfl
  · rw [captures_of_no_parts hp hs, settle, List.append_nil]
    rfl

/-- Matching on a list is matching, with the captures moved to the end of the list. -/
theorem record_eq_settle (p : Pattern) : ∀ s acc, p.record s acc = settle acc (p.match? s) := by
  induction p using induction_on_parts with
  | step p ih =>
    intro s acc
    cases p with
    | capture p =>
      rw [record, ih p (by simp [parts]), commit_of_tried (tried_settle [] _), match_capture]
    | not p =>
      rw [record, ih p (by simp [parts]), match_not]
      obtain e | _ | cs := p.match? s
      · rfl
      · simp [settle, negated]
      · rfl
    | allOf ps =>
      have hps : ∀ p ∈ ps, ∀ acc, p.record s acc = settle acc (p.match? s) := fun p hp => ih p hp s
      rw [record, commit_of_tried (recordAll_tried hps []), extend_nil, match_allOf]
    | anyOf ps =>
      have hps : ∀ p ∈ ps, p.record s [] = settle [] (p.match? s) := fun p hp => ih p hp s []
      rw [record, recordFirst_eq hps, match_anyOf]
    | hasChild p =>
      cases s with
      | none => rfl
      | some n =>
        rw [record, recordChild_eq (fun c => ih p (by simp [parts]) c []), match_hasChild]
    | shape ks v ps =>
      cases s with
      | none => rfl
      | some n =>
        rw [record, match_shape_node, ih v (by simp [parts])]
        by_cases hk : n.kind ∈ ks
        · rw [if_neg (by simpa using hk), if_pos hk]
          obtain e | _ | cs := v.match? (some n)
          · rfl
          · rfl
          · exact recordRow_commit (fun p hp => ih p (by simp [parts, hp])) n.children acc cs
        · rw [if_pos (by simpa using hk), if_neg hk]
          rfl
    | _ =>
      rw [record]
      · exact record_of_no_parts rfl acc
      all_goals simp

end Recorded
end Pattern
end GroupLint
