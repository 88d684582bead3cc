import GroupLint.Proofs.LoweredCalls
import Mathlib.Data.List.Chain

/-! The arguments of a call. They are the nodes of its argument list with each longest run of keyword
arguments made into one hash, and there is one way only to cut a list into such runs. -/
namespace GroupLint

/-- Arguments that go into a hash when they stand in the list of a call. -/
def Node.IsKeyword (n : Node) : Prop := n.kind = "pair" ∨ n.kind = "hash_splat_argument"

instance (n : Node) : Decidable n.IsKeyword := inferInstanceAs (Decidable (_ ∨ _))

def Concrete.argumentNodes (bytes : List UInt8) (c : Concrete) : List Node :=
  (c.children.filter (·.isNamed)).filterMap (·.toNode bytes)

namespace Lowering

inductive Stretch where
  | run (first : Node) (rest : List Node)
  | single (arg : Node)

namespace Stretch

def arguments : Stretch → List Node
  | run first rest => first :: rest
  | single arg => [arg]

theorem arguments_ne_nil (s : Stretch) : s.arguments ≠ [] := by
  cases s <;> simp [arguments]

def Fits : Stretch → Prop
  | run first rest => ∀ a ∈ first :: rest, a.IsKeyword
  | single arg => ¬ arg.IsKeyword

instance : (s : Stretch) → Decidable s.Fits
  | run first rest => inferInstanceAs (Decidable (∀ a ∈ first :: rest, a.IsKeyword))
  | single arg => inferInstanceAs (Decidable (¬ arg.IsKeyword))

def IsRun : Stretch → Prop
  | run _ _ => True
  | single _ => False

def node : Stretch → Node
  | run first rest =>
    .mk "hash" none { first.span with stop := ((first :: rest).getLast (by simp)).span.stop }
      ((first :: rest).map some)
  | single arg => arg

end Stretch

/-- Stretches that make up a list of arguments, no two runs side by side. -/
structure CutInto (args : List Node) (ss : List Stretch) : Prop where
  joined : ss.flatMap Stretch.arguments = args
  fits : ∀ s ∈ ss, s.Fits
  maximal : ss.IsChain fun s s' => s.IsRun → ¬ s'.IsRun

theorem isKeywordKind_iff {n : Node} : isKeywordKind n.kind ↔ n.IsKeyword := by
  simp [isKeywordKind, Node.IsKeyword]

theorem node_run (first : Node) (rest : List Node) :
    (Stretch.run first rest).node = keywordHash first rest := by
  rw [Stretch.node, keywordHash, List.getLast_eq_getLastD, List.getLastD_eq_getLast?]

section Cut
variable {args args' : List Node} {s s' : Stretch} {ss ss' : List Stretch}

theorem CutInto.tail (h : CutInto args (s :: ss)) : CutInto (ss.flatMap Stretch.arguments) ss where
  joined := rfl
  fits s' hs' := h.fits s' (List.mem_cons_of_mem s hs')
  maximal := List.isChain_of_isChain_cons h.maximal

/-- An argument that is no keyword parts what stands before it from what stands behind. -/
theorem CutInto.around (h : CutInto args ss) {a : Node} (ha : ¬ a.IsKeyword)
    (h' : CutInto args' ss') :
    CutInto (args ++ a :: args') (ss ++ .single a :: ss') where
  joined := by
    rw [List.flatMap_append, List.flatMap_cons, h.joined, h'.joined]
    rfl
  fits := by
    intro s hs
    rcases List.mem_append.mp hs with hs | hs
    · exact h.fits s hs
    · rcases List.mem_cons.mp hs with rfl | hs
      · exact ha
      · exact h'.fits s hs
  maximal := by
    apply List.isChain_split.mpr
    constructor
    · apply List.isChain_append.mpr
      refine ⟨h.maximal, List.isChain_singleton _, ?_⟩
      intro s _ s' hs' _
      obtain rfl : .single a = s' := by simpa using hs'
      exact id
    · apply List.isChain_cons.mpr
      exact ⟨fun s' _ hrun => hrun.elim, h'.maximal⟩

theorem CutInto.takeWhile_run {first : Node} {rest : List Node}
    (h : CutInto args (.run first rest :: ss)) :
    args.takeWhile (isKeywordKind ·.kind) = first :: rest := by
  have hrun : ∀ a ∈ first :: rest, isKeywordKind a.kind := fun a ha =>
    isKeywordKind_iff.mpr (h.fits _ List.mem_cons_self a ha)
  rw [← h.joined, List.flatMap_cons, Stretch.arguments, List.takeWhile_append_of_pos hrun]
  -- What follows a run is no run, so it does not begin with a keyword argument.
  cases ss with
  | nil => simp
  | cons s ss =>
    cases s with
    | run first' rest' =>
      have hnext := (List.isChain_cons_cons.mp h.maximal).1
      exact absurd trivial (hnext trivial)
    | single a =>
      have ha : ¬ isKeywordKind a.kind := isKeywordKind_iff.not.mpr (h.fits (.single a) (by simp))
      rw [List.flatMap_cons, Stretch.arguments, List.singleton_append, List.takeWhile_cons, if_neg ha,
        List.append_nil]

theorem CutInto.head_eq (h : CutInto args (s :: ss)) (h' : CutInto args (s' :: ss')) : s' = s := by
  have hjoined := h'.joined.trans h.joined.symm
  have hfits := h.fits s List.mem_cons_self
  have hfits' := h'.fits s' List.mem_cons_self
  cases s with
  | run first rest =>
    cases s' with
    | run first' rest' =>
      obtain ⟨rfl, rfl⟩ := List.cons.inj (h'.takeWhile_run.symm.trans h.takeWhile_run)
      rfl
    | single a =>
      obtain ⟨rfl, -⟩ := List.cons.inj hjoined
      exact absurd (hfits a List.mem_cons_self) hfits'
  | single a =>
    cases s' with
    | run first' rest' =>
      obtain ⟨rfl, -⟩ := List.cons.inj hjoined
      exact absurd (hfits' first' List.mem_cons_self) hfits
    | single a' =>
      obtain ⟨rfl, -⟩ := List.cons.inj hjoined
      rfl

theorem CutInto.unique (h : CutInto args ss) (h' : CutInto args ss') : ss' = ss := by
  induction ss generalizing args ss' with
  | nil =>
    cases ss' with
    | nil => rfl
    | cons s' ss' =>
      have hjoined := h'.joined.trans h.joined.symm
      exact absurd (List.append_eq_nil_iff.mp hjoined).1 s'.arguments_ne_nil
  | cons s ss ih =>
    cases ss' with
    | nil =>
      have hjoined := h.joined.trans h'.joined.symm
      exact absurd (List.append_eq_nil_iff.mp hjoined).1 s.arguments_ne_nil
    | cons s' ss' =>
      obtain rfl := h.head_eq h'
      have hrest : ss'.flatMap Stretch.arguments = ss.flatMap Stretch.arguments :=
        List.append_cancel_left (h'.joined.trans h.joined.symm)
      have htail := h'.tail
      rw [hrest] at htail
      rw [ih h.tail htail]

end Cut

theorem cutInto_flush {run : List Node} (hrun : ∀ a ∈ run, a.IsKeyword) :
    ∃ ss, CutInto run ss ∧ flush run = ss.map Stretch.node := by
  cases run with
  | nil => exact ⟨[], ⟨rfl, by simp, .nil⟩, rfl⟩
  | cons first rest =>
    refine ⟨[.run first rest], ⟨?_, ?_, .singleton _⟩, ?_⟩
    · simp [Stretch.arguments]
    · simpa [Stretch.Fits] using hrun
    · rw [flush, List.map_singleton, node_run]

theorem cutInto_gather (run args : List Node) (hrun : ∀ a ∈ run, a.IsKeyword) :
    ∃ ss, CutInto (run ++ args) ss ∧ gather run args = ss.map Stretch.node := by
  -- What is pending counts as the beginning of what is still to come.
  fun_induction gather run args with
  | case1 run =>
    rw [List.append_nil]
    exact cutInto_flush hrun
  | case2 run a args ha ih =>
    have hlonger : ∀ b ∈ run ++ [a], b.IsKeyword := by
      intro b hb
      rcases List.mem_append.mp hb with hb | hb
      · exact hrun b hb
      · obtain rfl := List.mem_singleton.mp hb
        exact isKeywordKind_iff.mp ha
    rw [List.append_cons]
    exact ih hlonger
  | case3 run a args ha ih =>
    obtain ⟨before, hbefore, hflush⟩ := cutInto_flush hrun
    obtain ⟨after, hafter, hgather⟩ := ih (by simp)
    refine ⟨before ++ .single a :: after, hbefore.around (isKeywordKind_iff.not.mp ha) hafter, ?_⟩
    rw [hflush, hgather, List.map_append, List.map_cons]
    rfl

theorem parts_lower (bytes : List UInt8) (c : Concrete) :
    (lower bytes c).parts = c.argumentNodes bytes := by
  cases c with
  | mk k n f x e m cs =>
    change nodes (named (lowerAll bytes cs)) = (cs.filter (·.isNamed)).filterMap (·.toNode bytes)
    rw [nodes, named, lowerAll_eq_map, List.filter_map, List.filterMap_map]
    simp only [Function.comp_def, source_lower]
    rfl

/-- A list of arguments is cut in one way into runs of keyword arguments and other arguments. Lowering
makes a hash of every run and keeps the others, and a call has for its arguments what becomes of its
list. -/
theorem groupKeywords_cuts_maximal_runs (bytes : List UInt8) (list : Concrete) :
    ∃ ss, CutInto (list.argumentNodes bytes) ss ∧
      (∀ ss', CutInto (list.argumentNodes bytes) ss' → ss' = ss) ∧
      groupKeywords (lower bytes list).parts = ss.map Stretch.node ∧
      ∀ c : Concrete, c.childIn "arguments" = some list →
        callArguments (lowerAll bytes c.children) = ss.map Stretch.node := by
  obtain ⟨ss, hcut, hgather⟩ := cutInto_gather [] (list.argumentNodes bytes) (by simp)
  have hgroup : groupKeywords (lower bytes list).parts = ss.map Stretch.node := by
    rw [parts_lower]
    exact hgather
  refine ⟨ss, hcut, fun ss' => hcut.unique, hgroup, ?_⟩
  intro c hc
  rw [callArguments, inField_lowerAll, hc]
  exact hgroup

/-- The argument list of `f x, a: 1, **h, {}, b: 2`. -/
def mixedList : Concrete :=
  let node (kind : String) (field : Option String) (start stop : Int) : List Concrete → Concrete :=
    .mk kind true field ⟨start, stop, 0, start⟩ false false
  let token (kind : String) (start stop : Int) : Concrete :=
    .mk kind false none ⟨start, stop, 0, start⟩ false false []
  node "argument_list" (some "arguments") 2 24
    [node "identifier" none 2 3 [],
     token "," 3 4,
     node "pair" none 5 9
      [node "hash_key_symbol" (some "key") 5 6 [], token ":" 6 7, node "integer" (some "value") 8 9 []],
     token "," 9 10,
     node "hash_splat_argument" none 11 14 [token "**" 11 13, node "identifier" none 13 14 []],
     token "," 14 15,
     node "hash" none 16 18 [token "\x7b" 16 17, token "\x7d" 17 18],
     token "," 18 19,
     node "pair" none 20 24
      [node "hash_key_symbol" (some "key") 20 21 [], token ":" 21 22, node "integer" (some "value") 23 24 []]]

theorem callArguments_mixedList :
    let bytes := Text.Utf8.encode "f x, a: 1, **h, \x7b\x7d, b: 2".toList
    let call : Concrete := .mk "call" true none ⟨0, 24, 0, 0⟩ false false
      [.mk "identifier" true (some "method") ⟨0, 1, 0, 0⟩ false false [], mixedList]
    call.childIn "arguments" = some mixedList ∧
      ∃ x a h e b : Node, mixedList.argumentNodes bytes = [x, a, h, e, b] ∧ e.kind = "hash" ∧
        callArguments (lowerAll bytes call.children) =
          [x, .mk "hash" none ⟨5, 14, 1, 5⟩ [some a, some h], e,
            .mk "hash" none ⟨20, 24, 1, 20⟩ [some b]] := by
  intro bytes call
  obtain ⟨ss, -, hunique, -, hcall⟩ := groupKeywords_cuts_maximal_runs bytes mixedList
  refine ⟨rfl, _, _, _, _, _, rfl, rfl, ?_⟩
  rw [hcall call rfl, ← hunique [.single _, .run _ [_], .single _, .run _ []] ⟨rfl, ?_, ?_⟩]
  · rfl
  · decide +kernel
  · simp [Stretch.IsRun]

end Lowering
end GroupLint
