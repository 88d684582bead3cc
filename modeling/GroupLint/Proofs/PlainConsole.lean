import GroupLint.PlainConsole
import GroupLint.Printer
import GroupLint.Proofs.LineBounds

/-! What is asked of a console, and that a console without colour does it. Carets are drawn as they are,
with nothing of their style, and a line is shown as it is if no character in it means anything in markup. -/
namespace GroupLint

namespace Console

/-- Escaped text is printed as it is, on a line of its own. -/
def ShowsVerbatim (c : Console) (line : List Char) : Prop :=
  c.print (c.escape line) = .ok (String.ofList (line ++ ['\n']))

/-- Carets are printed without the tags around them. -/
def DrawsCarets (c : Console) (indent carets : Nat) : Prop :=
  c.print (Printer.caretLine indent carets) =
    .ok (String.ofList (List.replicate indent ' ' ++ List.replicate carets '^' ++ ['\n']))

end Console

namespace Markup
open Printer Text

section Scan

theorem piecesFrom_skip (skip slashes : Nat) (cs : List Char) :
    piecesFrom skip slashes cs = piecesFrom 0 slashes (cs.drop skip) := by
  induction skip generalizing cs with
  | zero => rfl
  | succ skip ih =>
    cases cs with
    | nil => rw [List.drop_nil, piecesFrom, piecesFrom]
    | cons c cs => rw [piecesFrom, ih, List.drop_succ_cons]

theorem piecesFrom_tag {r inside : List Char} (h : tagInside? r = some inside) (slashes : Nat) :
    piecesFrom 0 slashes ('[' :: r) =
      .tag slashes inside :: piecesFrom 0 0 (r.drop (inside.length + 1)) := by
  rw [piecesFrom, h, ← piecesFrom_skip]

theorem piecesFrom_char {c : Char} (hslash : c ≠ '\\') (hbracket : c ≠ '[') (slashes : Nat)
    (r : List Char) :
    piecesFrom 0 slashes (c :: r) = slashPieces slashes ++ .char c :: piecesFrom 0 0 r := by
  rw [piecesFrom]
  · exact hslash
  · exact hbracket

end Scan

section Tags

def isBracket (c : Char) : Bool := c == '[' || c == ']'

theorem head_drop_takeWhile (r : List Char) :
    (r.drop (r.takeWhile fun x => !isBracket x).length).head? = r.find? isBracket := by
  induction r with
  | nil => rfl
  | cons c r ih => cases hc : isBracket c <;> simp [hc, ih]

/-- A bracket starts a tag iff a tag may start with what follows, and of the brackets after that the
first one closes. -/
theorem tagInside_cons (c : Char) (r : List Char) : tagInside? (c :: r) =
    if isTagStart c ∧ r.find? isBracket = some ']' then some (c :: r.takeWhile fun x => !isBracket x)
    else none := by
  have hinside : (fun x : Char => x != '[' && x != ']') = fun x => !isBracket x := by
    funext x
    rw [isBracket, Bool.not_or]
    rfl
  simp only [tagInside?, hinside, head_drop_takeWhile, beq_iff_eq]
  split_ifs with hc hclosed hboth hboth hboth
  · rfl
  · exact absurd ⟨hc, hclosed⟩ hboth
  · exact absurd hboth.2 hclosed
  · rfl
  · exact absurd hboth.1 hc
  · rfl

theorem tagInside_of_closed {c : Char} {t : List Char} (hc : isTagStart c)
    (ht : ∀ x ∈ t, isBracket x = false) (rest : List Char) :
    tagInside? (c :: t ++ ']' :: rest) = some (c :: t) := by
  have hfree : ∀ x ∈ t, (!isBracket x) = true := by simpa using ht
  have hfind : (t ++ ']' :: rest).find? isBracket = some ']' :=
    List.find?_eq_some_iff_append.mpr ⟨rfl, t, rest, rfl, hfree⟩
  rw [List.cons_append, tagInside_cons, if_pos ⟨hc, hfind⟩, List.takeWhile_append_of_pos hfree]
  exact congrArg (fun l => some (c :: l)) (List.append_nil t)

theorem drop_closed (inside rest : List Char) :
    (inside ++ ']' :: rest).drop (inside.length + 1) = rest := by
  rw [← List.drop_drop, List.drop_left, List.drop_one, List.tail_cons]

end Tags

section Plain
variable {cs : List Char}

theorem pieces_plain_append (h : ∀ c ∈ cs, c ≠ '\\' ∧ c ≠ '[') (rest : List Char) :
    pieces (cs ++ rest) = cs.map .char ++ pieces rest := by
  induction cs with
  | nil => rfl
  | cons c cs ih =>
    obtain ⟨⟨hslash, hbracket⟩, hcs⟩ := List.forall_mem_cons.mp h
    rw [List.cons_append, pieces, piecesFrom_char hslash hbracket, ← pieces, ih hcs]
    rfl

theorem pieces_tag_append {c : Char} {t : List Char} (hc : isTagStart c)
    (ht : ∀ x ∈ t, isBracket x = false) (rest : List Char) :
    pieces (bracketed (c :: t) ++ rest) = .tag 0 (c :: t) :: pieces rest := by
  have hopen : bracketed (c :: t) ++ rest = '[' :: (c :: t ++ ']' :: rest) := by simp [bracketed]
  rw [hopen, pieces, piecesFrom_tag (tagInside_of_closed hc ht rest), drop_closed, pieces]

theorem segments_chars_append (cs acc : List Char) (ps : List Piece) :
    segments acc (cs.map .char ++ ps) = segments (cs.reverse ++ acc) ps := by
  induction cs generalizing acc with
  | nil => rfl
  | cons c cs ih =>
    rw [List.map_cons, List.cons_append, segments, ih, List.reverse_cons, List.append_assoc]
    rfl

theorem dropBracketEscapes_eq_self (h : ∀ c ∈ cs, c ≠ '\\') : dropBracketEscapes cs = cs := by
  induction cs with
  | nil => rfl
  | cons c cs ih =>
    obtain ⟨hc, hcs⟩ := List.forall_mem_cons.mp h
    rw [dropBracketEscapes, ih hcs]
    intro r hslash
    exact absurd hslash hc

theorem picturesFrom_eq_self (h : ∀ c ∈ cs, c ≠ ':') : picturesFrom 0 cs = cs := by
  induction cs with
  | nil => rfl
  | cons c cs ih =>
    obtain ⟨hc, hcs⟩ := List.forall_mem_cons.mp h
    rw [picturesFrom, ih hcs]
    exact hc

theorem plainText_eq_self (h : ∀ c ∈ cs, c ≠ '\\' ∧ c ≠ ':' ∧ isControl c = false) :
    plainText cs = cs := by
  rw [plainText, dropBracketEscapes_eq_self fun c hc => (h c hc).1,
    picturesFrom_eq_self fun c hc => (h c hc).2.1, List.filter_eq_self]
  intro c hc
  rw [(h c hc).2.2]
  rfl

theorem renderFrom_plainSegment (tags : List OpenTag) (segs : List Segment) :
    renderFrom tags (plainSegment cs ++ segs) = (renderFrom tags segs).map (plainText cs ++ ·) := by
  cases cs with
  | nil => cases h : renderFrom tags segs <;> simp [plainSegment, h, plainText, dropBracketEscapes,
      picturesFrom, Except.map]
  | cons c cs => rfl

end Plain

section Lines
variable {line : List Char}

theorem expandTabsFrom_of_free {cs : List Char} (h : ∀ c ∈ cs, c ≠ '\t') (column : Nat)
    (part : List Char) : expandTabsFrom column part cs = part.reverse ++ cs := by
  induction cs generalizing part with
  | nil => rw [expandTabsFrom, List.append_nil]
  | cons c cs ih =>
    obtain ⟨hc, hcs⟩ := List.forall_mem_cons.mp h
    rw [expandTabsFrom, if_neg (by simpa using hc), ih hcs, List.reverse_cons, List.append_assoc]
    rfl

theorem printLine_of_render {markup : List Char} (h : render markup = .ok line)
    (hline : ∀ c ∈ line, isNewline c = false ∧ c ≠ '\t') :
    printLine markup = .ok (String.ofList (line ++ ['\n'])) := by
  have hnewline : newlineLines line = [line] := by
    rw [newlineLines_eq_splitOnP, List.splitOnP_eq_singleton fun c hc => (hline c hc).1]
  have htabs : expandTabs line = line := expandTabsFrom_of_free (fun c hc => (hline c hc).2) 0 []
  rw [printLine, h]
  change Except.ok (String.ofList ((newlineLines line).flatMap _)) = _
  rw [hnewline, List.flatMap_singleton, htabs]

/-- A character that means nothing in markup and takes one place on a line. -/
structure IsOrdinary (c : Char) : Prop where
  ne_slash : c ≠ '\\'
  ne_bracket : c ≠ '['
  ne_colon : c ≠ ':'
  ne_tab : c ≠ '\t'
  not_newline : isNewline c = false
  not_control : isControl c = false

instance (c : Char) : Decidable (IsOrdinary c) :=
  decidable_of_iff (c ≠ '\\' ∧ c ≠ '[' ∧ c ≠ ':' ∧ c ≠ '\t' ∧ isNewline c = false ∧ isControl c = false)
    ⟨fun ⟨h1, h2, h3, h4, h5, h6⟩ => ⟨h1, h2, h3, h4, h5, h6⟩,
      fun ⟨h1, h2, h3, h4, h5, h6⟩ => ⟨h1, h2, h3, h4, h5, h6⟩⟩

def IsOrdinaryLine (line : List Char) : Prop := ∀ c ∈ line, IsOrdinary c

instance (line : List Char) : Decidable (IsOrdinaryLine line) :=
  decidable_of_iff (line.all fun c => decide (IsOrdinary c)) (by simp [IsOrdinaryLine])

theorem pieces_of_ordinary (h : IsOrdinaryLine line) : pieces line = line.map .char := by
  have hpieces := pieces_plain_append (fun c hc => ⟨(h c hc).ne_slash, (h c hc).ne_bracket⟩) []
  simpa [pieces, piecesFrom, slashPieces] using hpieces

theorem guardEnd_eq_self (h : ∀ c ∈ line, c ≠ '\\') : guardEnd line = line := by
  rw [guardEnd]
  split
  · next hreverse => exact absurd rfl (h '\\' (List.mem_reverse.mp (by simp [hreverse])))
  · next hreverse => exact absurd rfl (h '\\' (List.mem_reverse.mp (by simp [hreverse])))
  · rfl

theorem escape_of_ordinary (h : IsOrdinaryLine line) : escape line = line := by
  have hpieces : (pieces line).flatMap escapePiece = line := by
    rw [pieces_of_ordinary h, List.flatMap_map]
    exact List.flatMap_singleton' line
  rw [escape, hpieces, guardEnd_eq_self fun c hc => (h c hc).ne_slash]

theorem render_of_ordinary (h : IsOrdinaryLine line) : render line = .ok line := by
  have htext : plainText line = line :=
    plainText_eq_self fun c hc => ⟨(h c hc).ne_slash, (h c hc).ne_colon, (h c hc).not_control⟩
  have hsegments : segments [] (pieces line) = plainSegment line ++ [] := by
    have hchars := segments_chars_append line [] []
    rw [List.append_nil, List.append_nil] at hchars
    rw [pieces_of_ordinary h, hchars, segments, List.reverse_reverse, List.append_nil]
  rw [render, hsegments, renderFrom_plainSegment, htext]
  simp [renderFrom, Except.map]

theorem pieces_caretLine (indent carets : Nat) : pieces (caretLine indent carets) =
    (List.replicate indent ' ').map .char ++ .tag 0 ['r', 'e', 'd'] ::
      ((List.replicate carets '^').map .char ++ [.tag 0 ['/', 'r', 'e', 'd']]) := by
  have hspaces : ∀ c ∈ List.replicate indent ' ', c ≠ '\\' ∧ c ≠ '[' :=
    List.forall_mem_replicate.mpr (Or.inr (by decide))
  have hcarets : ∀ c ∈ List.replicate carets '^', c ≠ '\\' ∧ c ≠ '[' :=
    List.forall_mem_replicate.mpr (Or.inr (by decide))
  have hline : caretLine indent carets = List.replicate indent ' ' ++
      (bracketed ['r', 'e', 'd'] ++
        (List.replicate carets '^' ++ (bracketed ['/', 'r', 'e', 'd'] ++ []))) := by
    rw [caretLine, List.append_assoc, List.append_assoc]
    rfl
  rw [hline, pieces_plain_append hspaces, pieces_tag_append rfl (by simp [isBracket]),
    pieces_plain_append hcarets, pieces_tag_append rfl (by simp [isBracket])]
  rfl

theorem segments_caretLine (indent carets : Nat) : segments [] (pieces (caretLine indent carets)) =
    plainSegment (List.replicate indent ' ') ++ .tag ['r', 'e', 'd'] ::
      (plainSegment (List.replicate carets '^') ++ [.tag ['/', 'r', 'e', 'd']]) := by
  rw [pieces_caretLine, segments_chars_append, segments, segments_chars_append, segments]
  simp [tagSegments, plainSegment, segments]

theorem render_caretLine (indent carets : Nat) :
    render (caretLine indent carets) =
      .ok (List.replicate indent ' ' ++ List.replicate carets '^') := by
  have hspaces : plainText (List.replicate indent ' ') = List.replicate indent ' ' := by
    apply plainText_eq_self
    exact List.forall_mem_replicate.mpr (Or.inr (by decide))
  have hcarets : plainText (List.replicate carets '^') = List.replicate carets '^' := by
    apply plainText_eq_self
    exact List.forall_mem_replicate.mpr (Or.inr (by decide))
  have hopen : applyTag [] ['r', 'e', 'd'] = .ok [⟨"red", []⟩] := rfl
  have hclose : applyTag [⟨"red", []⟩] ['/', 'r', 'e', 'd'] = .ok [] := rfl
  rw [render, segments_caretLine, renderFrom_plainSegment, renderFrom, hopen]
  change ((renderFrom [⟨"red", []⟩] _).map _) = _
  rw [renderFrom_plainSegment, renderFrom, hclose, hspaces, hcarets]
  simp [Except.bind, Except.map, renderFrom]

end Lines
end Markup

namespace Console
open Markup

theorem showsVerbatim_plain {line : List Char} (h : IsOrdinaryLine line) : plain.ShowsVerbatim line := by
  change printLine (Markup.escape line) = _
  rw [escape_of_ordinary h]
  exact printLine_of_render (render_of_ordinary h) fun c hc => ⟨(h c hc).not_newline, (h c hc).ne_tab⟩

theorem drawsCarets_plain (indent carets : Nat) : plain.DrawsCarets indent carets := by
  refine printLine_of_render (render_caretLine indent carets) ?_
  rw [List.forall_mem_append, List.forall_mem_replicate, List.forall_mem_replicate]
  exact ⟨Or.inr (by decide), Or.inr (by decide)⟩

end Console
end GroupLint
