import GroupLint.Proofs.LoweredCalls

/-! Punctuation, delimiters and comments leave no trace in a lowered tree. A concrete tree with any
number of them taken out, at any depth, lowers to the very same nodes, spans included. -/
namespace GroupLint

namespace Concrete

/-- A string or a quoted symbol, whose named children are its text. -/
def isQuoted (kind : String) : Bool := ["string", "delimited_symbol"].contains kind

/-- A child that says nothing under a parent of kind `k`: outside the fields, and a token other than
the arrow of a pair or a comment that is no part of a text. -/
def IsTrivia (k : String) (c : Concrete) : Prop :=
  c.field = none ∧
    ((c.isNamed = false ∧ c.kind ≠ "=>") ∨ (c.kind = "comment" ∧ isQuoted k = false))

instance (k : String) (c : Concrete) : Decidable (c.IsTrivia k) :=
  inferInstanceAs (Decidable (_ ∧ _))

mutual

/-- The second tree is the first one without some of its trivia. A node with named children keeps at
least one of them. -/
inductive Trims : Concrete → Concrete → Prop
  | mk {k n f x e m cs cs'} (hcs : TrimsIn k cs cs') (hn : cs.any isNamed → cs'.any isNamed) :
      Trims (.mk k n f x e m cs) (.mk k n f x e m cs')

inductive TrimsIn : String → List Concrete → List Concrete → Prop
  | nil {k} : TrimsIn k [] []
  | drop {k c cs cs'} (hc : c.IsTrivia k) (hcs : TrimsIn k cs cs') : TrimsIn k (c :: cs) cs'
  | keep {k c c' cs cs'} (hc : Trims c c') (hcs : TrimsIn k cs cs') :
      TrimsIn k (c :: cs) (c' :: cs')

end

mutual

theorem Trims.refl : ∀ c : Concrete, c.Trims c
  | .mk k _ _ _ _ _ cs => .mk (TrimsIn.refl k cs) id

theorem TrimsIn.refl (k : String) : ∀ cs : List Concrete, TrimsIn k cs cs
  | [] => .nil
  | c :: cs => .keep (Trims.refl c) (TrimsIn.refl k cs)

end

structure LooksLike (c c' : Concrete) : Prop where
  kind : c'.kind = c.kind
  isNamed : c'.isNamed = c.isNamed
  field : c'.field = c.field
  extent : c'.extent = c.extent

theorem LooksLike.text {c c' : Concrete} (h : c.LooksLike c') (bytes : List UInt8) :
    c'.text bytes = c.text bytes := by
  rw [Concrete.text, Concrete.text, h.extent]

theorem LooksLike.span {c c' : Concrete} (h : c.LooksLike c') : c'.span = c.span := by
  rw [Concrete.span, Concrete.span, h.extent]

theorem Trims.looksLike {c c' : Concrete} (h : c.Trims c') : c.LooksLike c' := by
  cases h with
  | mk hcs hn => exact ⟨rfl, rfl, rfl, rfl⟩

-- The arrow of a pair is a token too, but the one that is never dropped.
theorem TrimsIn.any_arrow {k : String} {cs cs' : List Concrete} (h : TrimsIn k cs cs') :
    cs'.any (·.kind == "=>") = cs.any (·.kind == "=>") := by
  induction cs generalizing cs' with
  | nil =>
    cases h
    rfl
  | cons c cs ih =>
    cases h with
    | drop hc hcs =>
      have hk : c.kind ≠ "=>" := by
        rcases hc.2 with ⟨-, hk⟩ | ⟨hk, -⟩
        · exact hk
        · rw [hk]
          decide
      rw [List.any_cons, beq_false_of_ne hk, Bool.false_or, ih hcs]
    | keep hc hcs => rw [List.any_cons, List.any_cons, hc.looksLike.kind, ih hcs]

end Concrete

namespace Lowering

structure Lowered.Same (l l' : Lowered) : Prop where
  source : l.source.LooksLike l'.source
  node : l'.node = l.node
  parts : l'.parts = l.parts
  body : l'.body = l.body

/-- What trivia become: they are in no field, and where they are named they give no node. -/
def Lowered.IsVoid (k : String) (l : Lowered) : Prop :=
  l.source.field = none ∧
    (l.source.isNamed →
      l.source.kind = "comment" ∧ Concrete.isQuoted k = false ∧ l.node = none)

/-- The children of a node of kind `k`, all of them and without some of the void ones. -/
inductive Thinned (k : String) : List Lowered → List Lowered → Prop
  | nil : Thinned k [] []
  | drop {l ls ls'} (hl : l.IsVoid k) (h : Thinned k ls ls') : Thinned k (l :: ls) ls'
  | keep {l l' ls ls'} (hl : l.Same l') (h : Thinned k ls ls') : Thinned k (l :: ls) (l' :: ls')

section Reading

variable {k : String} {ls ls' : List Lowered}

theorem inField_cases (h : Thinned k ls ls') (name : String) :
    (inField name ls = none ∧ inField name ls' = none) ∨
      ∃ l l', inField name ls = some l ∧ inField name ls' = some l' ∧ l.Same l' := by
  induction h with
  | nil => exact Or.inl ⟨rfl, rfl⟩
  | @drop l ls ls' hl _ ih =>
    have hskip : inField name (l :: ls) = inField name ls := by
      rw [inField, List.find?_cons, hl.1]
      rfl
    rw [hskip]
    exact ih
  | @keep l l' ls ls' hl _ ih =>
    by_cases hf : l.source.field = some name
    · refine Or.inr ⟨l, l', ?_, ?_, hl⟩
      · rw [inField, List.find?_cons, hf, beq_self_eq_true]
      · rw [inField, List.find?_cons, hl.source.field, hf, beq_self_eq_true]
    · rw [inField, inField, List.find?_cons, List.find?_cons, hl.source.field, beq_false_of_ne hf]
      exact ih

theorem map_inField {α : Type} {g : Lowered → α} (h : Thinned k ls ls') (name : String)
    (hg : ∀ l l' : Lowered, l.Same l' → g l' = g l) :
    (inField name ls').map g = (inField name ls).map g := by
  obtain ⟨hn, hn'⟩ | ⟨l, l', hs, hs', hl⟩ := inField_cases h name
  · rw [hn, hn']
  · rw [hs, hs', Option.map_some, Option.map_some, hg l l' hl]

theorem nodeIn_thinned (h : Thinned k ls ls') (name : String) :
    nodeIn name ls' = nodeIn name ls := by
  obtain ⟨hn, hn'⟩ | ⟨l, l', hs, hs', hl⟩ := inField_cases h name
  · rw [nodeIn, nodeIn, hn, hn']
  · rw [nodeIn, nodeIn, hs, hs', Option.bind_some, Option.bind_some, hl.node]

theorem named_cons_of_isNamed {l : Lowered} (hn : l.source.isNamed) :
    named (l :: ls) = l :: named ls := List.filter_cons_of_pos hn

theorem named_cons_of_not_isNamed {l : Lowered} (hn : ¬ l.source.isNamed) :
    named (l :: ls) = named ls := List.filter_cons_of_neg hn

-- Whatever is collected from the named children, if comments outside texts add nothing to it.
theorem flatMap_named {α : Type} {g : Lowered → List α} (h : Thinned k ls ls')
    (hsame : ∀ l l' : Lowered, l.Same l' → g l' = g l)
    (hvoid : ∀ l : Lowered, l.source.kind = "comment" → Concrete.isQuoted k = false →
      l.node = none → g l = []) :
    (named ls').flatMap g = (named ls).flatMap g := by
  induction h with
  | nil => rfl
  | @drop l ls ls' hl _ ih =>
    by_cases hn : l.source.isNamed
    · obtain ⟨hk, hq, hnode⟩ := hl.2 hn
      rw [named_cons_of_isNamed hn, List.flatMap_cons, hvoid l hk hq hnode, List.nil_append, ih]
    · rw [named_cons_of_not_isNamed hn, ih]
  | @keep l l' ls ls' hl _ ih =>
    have hn' := hl.source.isNamed
    by_cases hn : l.source.isNamed
    · rw [named_cons_of_isNamed hn, named_cons_of_isNamed (hn'.trans hn), List.flatMap_cons,
        List.flatMap_cons, hsame l l' hl, ih]
    · rw [named_cons_of_not_isNamed hn, named_cons_of_not_isNamed (hn' ▸ hn), ih]

theorem nodes_named_thinned (h : Thinned k ls ls') : nodes (named ls') = nodes (named ls) := by
  rw [nodes, nodes, List.filterMap_eq_flatMap_toList, List.filterMap_eq_flatMap_toList]
  apply flatMap_named h
  · intro l l' hl
    rw [hl.node]
  · intro l _ _ hnode
    rw [hnode, Option.toList_none]

theorem statements_thinned (h : Thinned k ls ls') : statements ls' = statements ls := by
  apply flatMap_named h
  · intro l l' hl
    rw [hl.source.kind, hl.parts, hl.node]
  · intro l hk _ hnode
    rw [hk, hnode]
    rfl

theorem literal_thinned (h : Thinned k ls ls') (hk : Concrete.isQuoted k) (bytes : List UInt8) :
    ((named ls').flatMap fun l => literalText bytes l.source) =
      (named ls).flatMap fun l => literalText bytes l.source := by
  apply flatMap_named h
  · intro l l' hl
    rw [literalText, literalText, hl.source.kind, hl.source.text]
  · intro l _ hq
    rw [hk] at hq
    cases hq

theorem any_interpolation_thinned (h : Thinned k ls ls') :
    (named ls').any (·.source.kind == "interpolation") =
      (named ls).any (·.source.kind == "interpolation") := by
  have hany : ∀ xs : List Lowered, xs.any (·.source.kind == "interpolation") =
      (xs.flatMap fun l => [l.source.kind].filter (· == "interpolation")).any fun _ => true := by
    intro xs
    simp [List.any_flatMap]
  rw [hany, hany, flatMap_named h]
  · intro l l' hl
    rw [hl.source.kind]
  · intro l hk _ _
    rw [hk]
    rfl

theorem any_isNamed_of_thinned (h : Thinned k ls ls') (hn : ls'.any (·.source.isNamed)) :
    ls.any (·.source.isNamed) := by
  induction h with
  | nil => exact hn
  | drop _ _ ih => rw [List.any_cons, ih hn, Bool.or_true]
  | keep hl _ ih =>
    rw [List.any_cons, Bool.or_eq_true, hl.source.isNamed] at hn
    rw [List.any_cons, Bool.or_eq_true]
    exact hn.imp_right ih

theorem isEmpty_named_thinned (h : Thinned k ls ls')
    (hn : ls.any (·.source.isNamed) → ls'.any (·.source.isNamed)) :
    (named ls').isEmpty = (named ls).isEmpty := by
  have hempty : ∀ xs, (named xs).isEmpty = !xs.any (·.source.isNamed) := by
    intro xs
    rw [Bool.eq_iff_iff]
    simp [named]
  rw [hempty, hempty, Bool.eq_iff_iff.mpr ⟨any_isNamed_of_thinned h, hn⟩]

end Reading

section Handlers

variable {k : String} {ls ls' : List Lowered} {c c' : Concrete} {bytes : List UInt8}

theorem sendStop_thinned (h : Thinned k ls ls') (hc : c.LooksLike c') :
    sendStop c' ls' = sendStop c ls := by
  have hstops : ∀ names : List String,
      (names.filterMap (inField · ls')).map (·.source.extent.stop) =
        (names.filterMap (inField · ls)).map (·.source.extent.stop) := by
    intro names
    rw [List.map_filterMap, List.map_filterMap]
    congr 1
    funext name
    exact map_inField h name fun l l' hl => by rw [hl.source.extent]
  rw [sendStop, sendStop, hstops, hc.extent]

theorem callKind_thinned (h : Thinned k ls ls') : callKind bytes ls' = callKind bytes ls := by
  obtain ⟨hn, hn'⟩ | ⟨l, l', hs, hs', hl⟩ := inField_cases h "operator"
  · rw [callKind, callKind, hn, hn']
  · simp only [callKind, hs, hs', hl.source.text]

theorem callName_thinned (h : Thinned k ls ls') : callName bytes ls' = callName bytes ls := by
  obtain ⟨hn, hn'⟩ | ⟨l, l', hs, hs', hl⟩ := inField_cases h "method"
  · rw [callName, callName, hn, hn']
  · simp only [callName, hs, hs', hl.source.text]

theorem callArguments_thinned (h : Thinned k ls ls') : callArguments ls' = callArguments ls := by
  obtain ⟨hn, hn'⟩ | ⟨l, l', hs, hs', hl⟩ := inField_cases h "arguments"
  · rw [callArguments, callArguments, hn, hn']
  · simp only [callArguments, hs, hs', hl.parts]

theorem send_thinned (h : Thinned k ls ls') (hc : c.LooksLike c') :
    send bytes c' ls' = send bytes c ls := by
  rw [send, send, callKind_thinned h, callName_thinned h, callArguments_thinned h,
    nodeIn_thinned h, sendStop_thinned h hc, hc.span]

theorem call_thinned (h : Thinned k ls ls') (hc : c.LooksLike c') :
    call bytes c' ls' = call bytes c ls := by
  obtain ⟨hn, hn'⟩ | ⟨l, l', hs, hs', hl⟩ := inField_cases h "block"
  · simp only [call, hn, hn', send_thinned h hc]
  · simp only [call, hs, hs', send_thinned h hc, hc.span, hl.body]

theorem scopeResolution_thinned (h : Thinned k ls ls') (hc : c.LooksLike c') :
    scopeResolution bytes c' ls' = scopeResolution bytes c ls := by
  have hname : (inField "name" ls').map (fun n => String.ofList (n.source.text bytes)) =
      (inField "name" ls).map fun n => String.ofList (n.source.text bytes) :=
    map_inField h "name" fun l l' hl => by rw [hl.source.text]
  have hscope : scopeSlot c' ls' = scopeSlot c ls := by
    obtain ⟨hn, hn'⟩ | ⟨l, l', hs, hs', hl⟩ := inField_cases h "scope"
    · simp only [scopeSlot, hn, hn', hc.span, hc.extent]
    · simp only [scopeSlot, hs, hs', hl.node]
  rw [scopeResolution, scopeResolution, hname, hscope, hc.span]

theorem quotedNode_thinned (h : Thinned k ls ls') (hc : c.LooksLike c')
    (hk : Concrete.isQuoted k) (plain interpolated : String) :
    quotedNode plain interpolated bytes c' ls' = quotedNode plain interpolated bytes c ls := by
  rw [quotedNode, quotedNode, any_interpolation_thinned h, nodes_named_thinned h,
    literal_thinned h hk, hc.span]

theorem pair_thinned (h : Thinned k ls ls') (hc : c.LooksLike c')
    (harrow : c'.children.any (·.kind == "=>") = c.children.any (·.kind == "=>")) :
    pair c' ls' = pair c ls := by
  have hkey : keySlot c' ls' = keySlot c ls := by
    obtain ⟨hn, hn'⟩ | ⟨l, l', hs, hs', hl⟩ := inField_cases h "key"
    · rw [keySlot, keySlot, hn, hn']
    · simp only [keySlot, hs, hs', hl.source.kind, hl.node, harrow]
  rw [pair, pair, hkey, nodeIn_thinned h, hc.span]

theorem binary_thinned (h : Thinned k ls ls') (hc : c.LooksLike c') :
    binary bytes c' ls' = binary bytes c ls := by
  have hop : (inField "operator" ls').map (·.source.text bytes) =
      (inField "operator" ls).map (·.source.text bytes) :=
    map_inField h "operator" fun l l' hl => hl.source.text bytes
  simp only [binary, hop, nodeIn_thinned h, hc.span]

theorem generic_thinned (h : Thinned k ls ls') (hc : c.LooksLike c')
    (hn : ls.any (·.source.isNamed) → ls'.any (·.source.isNamed)) :
    generic bytes c' ls' = generic bytes c ls := by
  rw [generic, generic, isEmpty_named_thinned h hn, nodes_named_thinned h, hc.kind, hc.text,
    hc.span]

-- One line for each kind that is treated on its own, in the order of `assemble`.
theorem assemble_thinned (h : Thinned c.kind ls ls') (hc : c.LooksLike c')
    (harrow : c'.children.any (·.kind == "=>") = c.children.any (·.kind == "=>"))
    (hn : ls.any (·.source.isNamed) → ls'.any (·.source.isNamed)) :
    assemble bytes c' ls' = assemble bytes c ls := by
  rw [assemble, assemble, hc.kind]
  by_cases hskip : isSkipped c.kind
  · rw [if_pos hskip, if_pos hskip]
  · rw [if_neg hskip, if_neg hskip]
    congr 1
    split
    · rw [hc.span, nodes_named_thinned h]
    · exact call_thinned h hc
    · rw [textNode, textNode, hc.text, hc.span]
    · rw [textNode, textNode, hc.text, hc.span]
    · exact scopeResolution_thinned h hc
    · next hk => exact quotedNode_thinned h hc (by rw [hk]; rfl) "str" "dstr"
    · next hk => exact quotedNode_thinned h hc (by rw [hk]; rfl) "sym" "dsym"
    · rw [hc.text, hc.span]
    · rw [textNode, textNode, hc.text, hc.span]
    · rw [hc.span, nodes_named_thinned h]
    · exact pair_thinned h hc harrow
    · exact binary_thinned h hc
    · exact generic_thinned h hc hn

end Handlers

theorem isVoid_lower {k : String} {c : Concrete} (bytes : List UInt8) (hc : c.IsTrivia k) :
    (lower bytes c).IsVoid k := by
  obtain ⟨hf, hor⟩ := hc
  rw [Lowered.IsVoid, source_lower]
  refine ⟨hf, ?_⟩
  intro hn
  rcases hor with ⟨hn', -⟩ | ⟨hk, hq⟩
  · rw [hn] at hn'
    cases hn'
  · refine ⟨hk, hq, ?_⟩
    obtain ⟨k, n, f, x, e, m, cs⟩ := c
    obtain rfl : k = "comment" := hk
    rfl

theorem any_isNamed_lowerAll (bytes : List UInt8) (cs : List Concrete) :
    (lowerAll bytes cs).any (·.source.isNamed) = cs.any (·.isNamed) := by
  rw [lowerAll_eq_map, List.any_map]
  simp only [Function.comp_def, source_lower]

mutual

theorem lower_same (bytes : List UInt8) :
    ∀ c c' : Concrete, c.Trims c' → (lower bytes c).Same (lower bytes c')
  | .mk k n f x e m cs, _, h => by
    have hc := h.looksLike
    cases h with
    | mk hcs hn =>
      have hls := lowerAll_thinned bytes k cs _ hcs
      refine ⟨hc, ?_, nodes_named_thinned hls, statements_thinned hls⟩
      apply assemble_thinned (c := .mk k n f x e m cs) hls hc hcs.any_arrow
      rw [any_isNamed_lowerAll, any_isNamed_lowerAll]
      exact hn

theorem lowerAll_thinned (bytes : List UInt8) (k : String) :
    ∀ cs cs' : List Concrete, Concrete.TrimsIn k cs cs' →
      Thinned k (lowerAll bytes cs) (lowerAll bytes cs')
  | [], _, h => by
    cases h
    exact .nil
  | c :: cs, _, h => by
    cases h with
    | drop hc hcs => exact .drop (isVoid_lower bytes hc) (lowerAll_thinned bytes k cs _ hcs)
    | keep hc hcs => exact .keep (lower_same bytes c _ hc) (lowerAll_thinned bytes k cs _ hcs)

end

end Lowering

/-- Trivia can be taken out of a concrete tree anywhere, and it still becomes the same nodes. So do
trees with other trivia in the place of these. -/
theorem toNode_of_trims {c c' : Concrete} (h : c.Trims c') (bytes : List UInt8) :
    c'.toNode bytes = c.toNode bytes ∧
      ∀ d : Concrete, d.Trims c' → d.toNode bytes = c.toNode bytes := by
  have hc := (Lowering.lower_same bytes c c' h).node
  refine ⟨hc, ?_⟩
  intro d hd
  have hd := (Lowering.lower_same bytes d c' hd).node
  exact hd.symm.trans hc

/-- The tree of `a(b: 1, # x`, `  "c" => 2) { d }`, with all of its tokens or with the arrow
alone. -/
def keywordCall (full : Bool) : Concrete :=
  let extent (start stop : Int) : Extent :=
    if start < 12 then ⟨start, stop, 0, start⟩ else ⟨start, stop, 1, start - 12⟩
  let node (kind : String) (field : Option String) (start stop : Int) : List Concrete → Concrete :=
    .mk kind true field (extent start stop) false false
  let token (kind : String) (start stop : Int) : Concrete :=
    .mk kind false none (extent start stop) false false []
  let optional (c : Concrete) : List Concrete := if full then [c] else []
  node "call" none 0 29
    [node "identifier" (some "method") 0 1 [],
     node "argument_list" (some "arguments") 1 23
      (optional (token "(" 1 2) ++
       [node "pair" none 2 6
         ([node "hash_key_symbol" (some "key") 2 3 []] ++ optional (token ":" 3 4) ++
          [node "integer" (some "value") 5 6 []])] ++
       optional (token "," 6 7) ++ optional (node "comment" none 8 11 []) ++
       [node "pair" none 14 22
         [node "string" (some "key") 14 17
           (optional (token "\"" 14 15) ++ [node "string_content" none 15 16 []] ++
            optional (token "\"" 16 17)),
          token "=>" 18 20, node "integer" (some "value") 21 22 []]] ++
       optional (token ")" 22 23)),
     node "block" (some "block") 24 29
      (optional (token "\x7b" 24 25) ++
       [node "block_body" (some "body") 26 27 [node "identifier" none 26 27 []]] ++
       optional (token "\x7d" 28 29))]

theorem toNode_keywordCall :
    let bytes := Text.Utf8.encode "a(b: 1, # x\n  \"c\" => 2) \x7b d \x7d".toList
    (keywordCall true).Trims (keywordCall false) ∧
      (keywordCall false).toNode bytes = (keywordCall true).toNode bytes ∧
      (Lowering.callArguments (Lowering.lowerAll bytes (keywordCall true).children)).map Node.kind =
        ["hash"] := by
  intro bytes
  have htrims : (keywordCall true).Trims (keywordCall false) :=
    .mk
      (.keep (.refl _) <|
       .keep
        (.mk
          (.drop (by decide) <|
           .keep (.mk (.keep (.refl _) <| .drop (by decide) <| .keep (.refl _) .nil) (by decide)) <|
           .drop (by decide) <|
           .drop (by decide) <|
           .keep
            (.mk
              (.keep
                (.mk (.drop (by decide) <| .keep (.refl _) <| .drop (by decide) .nil) (by decide)) <|
               .keep (.refl _) <| .keep (.refl _) .nil)
              (by decide)) <|
           .drop (by decide) .nil)
          (by decide)) <|
       .keep (.mk (.drop (by decide) <| .keep (.refl _) <| .drop (by decide) .nil) (by decide)) .nil)
      (by decide)
  exact ⟨htrims, (toNode_of_trims htrims bytes).1, by decide +kernel⟩

end GroupLint
