import GroupLint.Proofs.LoweredTree

/-! The first mistake of a source. The search for it only enters children that are flagged; it finds
the first of all mistakes, and finds one whenever the root is flagged, if the flags say what the tree
holds. -/
namespace GroupLint.Concrete

def FlagsAgree (c : Concrete) : Prop :=
  ∀ n ∈ c.nodes, n.hasError ↔
    n.kind = "ERROR" ∨ n.isMissing ∨ ∃ d ∈ n.children, d.hasError ∨ d.isMissing

def IsFirstMistake (c bad : Concrete) : Prop :=
  (bad.kind = "ERROR" ∨ bad.isMissing) ∧
    ∃ before after, c.nodes = before ++ bad :: after ∧
      ∀ n ∈ before, n.kind ≠ "ERROR" ∧ ¬ n.isMissing

theorem isMistake_iff {c : Concrete} : c.isMistake ↔ c.kind = "ERROR" ∨ c.isMissing := by
  simp [isMistake]

theorem nodesIn_eq_flatMap (cs : List Concrete) : nodesIn cs = cs.flatMap nodes := by
  induction cs with
  | nil => rfl
  | cons c cs ih => rw [nodesIn, ih, List.flatMap_cons]

theorem nodes_eq (c : Concrete) : c.nodes = c :: c.children.flatMap nodes := by
  cases c
  rw [nodes, nodesIn_eq_flatMap, children]

theorem firstMistake_eq (c : Concrete) :
    c.firstMistake = if c.isMistake then some c else firstMistakeIn c.children := by
  cases c
  rw [firstMistake, children]

section Flags
variable {c : Concrete} (h : c.FlagsAgree)
include h

theorem FlagsAgree.child {d : Concrete} (hd : d ∈ c.children) : d.FlagsAgree := by
  intro n hn
  apply h
  rw [nodes_eq]
  exact List.mem_cons_of_mem c (List.mem_flatMap.mpr ⟨d, hd, hn⟩)

/-- A missing node has the error flag too, so the two flags together say no more than the one. -/
theorem FlagsAgree.isSuspect_iff :
    c.isSuspect ↔ c.isMistake ∨ ∃ d ∈ c.children, d.isSuspect := by
  have hself := h c (mem_nodes_self c)
  have hmissing : c.isMissing → c.hasError := fun hm => hself.mpr (Or.inr (Or.inl hm))
  have hsuspect : c.isSuspect ↔ c.hasError := by
    simpa [isSuspect] using hmissing
  rw [hsuspect, hself, isMistake_iff, or_assoc]
  simp only [isSuspect, Bool.or_eq_true]

end Flags

mutual

theorem isSuspect_iff_exists_mistake :
    ∀ c : Concrete, c.FlagsAgree → (c.isSuspect ↔ ∃ n ∈ c.nodes, n.isMistake)
  | mk k n f x e m cs, h => by
    have hbelow : (∃ d ∈ cs, d.isSuspect) ↔ ∃ n ∈ cs.flatMap nodes, n.isMistake :=
      any_isSuspect_iff cs fun d hd => h.child hd
    rw [h.isSuspect_iff, nodes_eq, List.exists_mem_cons_iff, children, hbelow]

theorem any_isSuspect_iff : ∀ cs : List Concrete, (∀ d ∈ cs, d.FlagsAgree) →
    ((∃ d ∈ cs, d.isSuspect) ↔ ∃ n ∈ cs.flatMap nodes, n.isMistake)
  | [], _ => by simp
  | c :: r, h => by
    obtain ⟨hc, hr⟩ := List.forall_mem_cons.mp h
    rw [List.exists_mem_cons_iff, isSuspect_iff_exists_mistake c hc, any_isSuspect_iff r hr]
    simp only [List.flatMap_cons, List.mem_append, or_and_right, exists_or]

end

/-- Nothing is lost by passing over a subtree without flags. -/
theorem find_eq_none_of_not_isSuspect {c : Concrete} (h : c.FlagsAgree) (hs : ¬ c.isSuspect) :
    c.nodes.find? isMistake = none := by
  rw [isSuspect_iff_exists_mistake c h] at hs
  rw [List.find?_eq_none]
  intro n hn hm
  exact hs ⟨n, hn, hm⟩

mutual

theorem firstMistake_eq_find :
    ∀ c : Concrete, c.FlagsAgree → c.firstMistake = c.nodes.find? isMistake
  | mk k n f x e m cs, h => by
    have hbelow : firstMistakeIn cs = (cs.flatMap nodes).find? isMistake :=
      firstMistakeIn_eq_find cs fun d hd => h.child hd
    rw [firstMistake_eq, nodes_eq, List.find?_cons, children, hbelow]
    cases isMistake (mk k n f x e m cs) <;> rfl

theorem firstMistakeIn_eq_find : ∀ cs : List Concrete, (∀ d ∈ cs, d.FlagsAgree) →
    firstMistakeIn cs = (cs.flatMap nodes).find? isMistake
  | [], _ => rfl
  | c :: r, h => by
    obtain ⟨hc, hr⟩ := List.forall_mem_cons.mp h
    rw [firstMistakeIn, List.flatMap_cons, List.find?_append, firstMistakeIn_eq_find r hr]
    by_cases hs : c.isSuspect
    · rw [if_pos hs, firstMistake_eq_find c hc]
    · rw [if_neg hs, find_eq_none_of_not_isSuspect hc hs, Option.none_or]

end

theorem isFirstMistake_of_find {c bad : Concrete} (h : c.nodes.find? isMistake = some bad) :
    c.IsFirstMistake bad := by
  obtain ⟨hbad, before, after, hnodes, hbefore⟩ := List.find?_eq_some_iff_append.mp h
  refine ⟨isMistake_iff.mp hbad, before, after, hnodes, ?_⟩
  intro n hn
  have hclear := hbefore n hn
  simpa [isMistake] using hclear

theorem exists_isFirstMistake {c : Concrete} (h : c.FlagsAgree) (he : c.hasError) :
    ∃ bad, c.firstMistake = some bad ∧ c.IsFirstMistake bad := by
  have hs : c.isSuspect := by simp [isSuspect, he]
  obtain ⟨n, hn, hm⟩ := (isSuspect_iff_exists_mistake c h).mp hs
  have hfound : (c.nodes.find? isMistake).isSome := List.find?_isSome.mpr ⟨n, hn, hm⟩
  obtain ⟨bad, hbad⟩ := Option.isSome_iff_exists.mp hfound
  exact ⟨bad, (firstMistake_eq_find c h).trans hbad, isFirstMistake_of_find hbad⟩

/-- A flagged source is refused at its first mistake, and there always is one: the very start of the
source is never named for want of a mistake. -/
theorem parse_refuses_at_first_mistake (bytes : List UInt8) (path : Option String) (c : Concrete)
    (h : c.FlagsAgree) (he : c.hasError) :
    ∃ bad, c.firstMistake = some bad ∧ c.IsFirstMistake bad ∧
      c.parse bytes path = .error ⟨path, bad.extent.row + 1, bad.extent.column⟩ := by
  obtain ⟨bad, hfound, hfirst⟩ := exists_isFirstMistake h he
  refine ⟨bad, hfound, hfirst, ?_⟩
  rw [parse, if_pos he, hfound]

/-- A call whose parenthesis is not closed, and stray text after it. -/
def unclosedCall : Concrete :=
  mk "program" true none ⟨0, 10, 0, 0⟩ true false
    [mk "identifier" true none ⟨0, 1, 0, 0⟩ false false [],
     mk "call" true none ⟨2, 7, 1, 0⟩ true false
       [mk "identifier" true (some "method") ⟨2, 5, 1, 0⟩ false false [],
        mk "argument_list" true (some "arguments") ⟨5, 7, 1, 3⟩ true false
          [mk "(" false none ⟨5, 6, 1, 3⟩ false false [],
           mk "integer" true none ⟨6, 7, 1, 4⟩ false false [],
           mk ")" false none ⟨7, 7, 1, 5⟩ true true []]],
     mk "ERROR" true none ⟨8, 9, 2, 0⟩ true false []]

theorem parse_unclosedCall :
    unclosedCall.FlagsAgree ∧ unclosedCall.hasError ∧
      ∃ bad, bad.kind = ")" ∧ unclosedCall.IsFirstMistake bad ∧
        unclosedCall.parse (Text.Utf8.encode "a\nfoo(1\n$\n".toList) (some "a_spec.rb") =
          .error ⟨some "a_spec.rb", 2, 5⟩ := by
  have hflags : unclosedCall.FlagsAgree := by
    unfold FlagsAgree
    decide
  obtain ⟨bad, hfound, hfirst, hparse⟩ :=
    parse_refuses_at_first_mistake (Text.Utf8.encode "a\nfoo(1\n$\n".toList) (some "a_spec.rb")
      unclosedCall hflags rfl
  obtain rfl : mk ")" false none ⟨7, 7, 1, 5⟩ true true [] = bad := Option.some.inj hfound
  exact ⟨hflags, rfl, _, rfl, hfirst, hparse⟩

end GroupLint.Concrete
