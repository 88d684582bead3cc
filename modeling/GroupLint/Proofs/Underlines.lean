import GroupLint.Proofs.Excerpts
import GroupLint.Proofs.SpanText

/-! Where the carets stand under a shown line. Spans count bytes and the carets stand under characters;
in a source that only newlines divide, they stand under the first line of the highlighted text. -/
namespace GroupLint

open Text Text.Utf8

namespace Printer

/-- The carets of a highlight that begins at `start` and whose first line is `first`: as many as it has
characters, under these characters, or a single one if it has none. -/
structure Underlines (source first line : List Char) (start : Int) (indent carets : Nat) : Prop where
  placed : ∃ before after, source = before ++ line ++ after ∧ Delimited isNewline before line after ∧
    start = byteLength (before ++ line.take indent)
  indent_le : indent ≤ line.length
  within : first ≠ [] → indent + carets ≤ line.length
  above : first ≠ [] → (line.drop indent).take carets = first
  single : first = [] → carets = 1

section Carets

theorem indentOf_append (head tail : List Char) :
    indentOf (head ++ tail) (byteLength head) = head.length := by
  have hslice : slice (encode (head ++ tail)) 0 (byteLength head) = encode head :=
    slice_encode [] head tail
  rw [indentOf, hslice, decodeSkipping_encode]

theorem takeWhile_prefix_takeWhile_append (p : Char → Bool) (a b : List Char) :
    a.takeWhile p <+: (a ++ b).takeWhile p := by
  rw [List.takeWhile_append]
  split
  · exact (List.takeWhile_prefix p).trans (List.prefix_append _ _)
  · exact List.prefix_rfl

theorem caretCount_of_prefix {text line : List Char} {indent : Nat}
    (h : (text.takeWhile fun c => !isLineBreak c) <+: line.drop indent) :
    caretCount text line indent = max 1 (text.takeWhile fun c => !isLineBreak c).length := by
  have hlength := h.length_le
  rw [List.length_drop] at hlength
  rw [caretCount, head_displayLines, Nat.min_eq_left hlength]

/-- The carets fit because the first line of the highlight is a prefix of what its line has left. -/
theorem underlines_of_parts {before head text after : List Char}
    (hbefore : ∀ c ∈ before.getLast?, isNewline c) (hhead : ∀ c ∈ head, isNewline c = false)
    (hbreaks : OnlyNewlines text) :
    let line := head ++ (text ++ after).takeWhile fun c => !isNewline c
    Underlines (before ++ head ++ (text ++ after)) (text.takeWhile fun c => !isNewline c) line
      (byteLength (before ++ head)) head.length (caretCount text line head.length) := by
  intro line
  have hdrop : line.drop head.length = (text ++ after).takeWhile fun c => !isNewline c :=
    List.drop_left
  have hfirst : (text.takeWhile fun c => !isNewline c) <+: line.drop head.length := by
    rw [hdrop]
    exact takeWhile_prefix_takeWhile_append _ text after
  have hlength := hfirst.length_le
  have hcount : caretCount text line head.length =
      max 1 (text.takeWhile fun c => !isNewline c).length := by
    rw [← hbreaks.takeWhile_eq] at hfirst ⊢
    exact caretCount_of_prefix hfirst
  rw [List.length_drop] at hlength
  rw [hcount]
  refine ⟨⟨before, _, ?_, delimited_takeWhile hbefore hhead (text ++ after), ?_⟩, ?_, ?_, ?_, ?_⟩
  · exact (append_takeWhile_append_dropWhile _ before head _).symm
  · rw [List.take_left]
  · rw [List.length_append]
    omega
  · intro hne
    have hpos := List.length_pos_iff.mpr hne
    omega
  · intro hne
    have hpos := List.length_pos_iff.mpr hne
    rw [Nat.max_eq_right hpos]
    exact (List.prefix_iff_eq_take.mp hfirst).symm
  · intro hnil
    rw [hnil]
    rfl

end Carets

section Shown

theorem eq_nil_of_countP_append {sep : Char → Bool} {b t : List Char}
    (hlast : ∀ c ∈ (b ++ t).getLast?, sep c) (hcount : (b ++ t).countP sep = b.countP sep) : t = [] := by
  have hstarts : ∀ c ∈ t.getLast?, sep c := by
    intro c hc
    apply hlast c
    rw [List.getLast?_append, Option.mem_def.mp hc]
    rfl
  rw [List.countP_append] at hcount
  exact before_eq_nil hstarts (by omega)

/-- There is a line to show unless the start is at the end of the text and begins a line there. -/
theorem getElem_displayLines_eq_none_iff {before head rest : List Char}
    (hbreaks : OnlyNewlines (before ++ head ++ rest))
    (hbefore : ∀ c ∈ before.getLast?, isNewline c) (hhead : ∀ c ∈ head, isNewline c = false) :
    (displayLines (before ++ head ++ rest))[before.countP isNewline]? = none ↔ head ++ rest = [] := by
  have hreturn := hbreaks.carriageReturn_not_mem
  have hupTo := hbreaks.of_subset (List.subset_append_left (before ++ head) rest)
  have hcount := (hupTo.of_subset (List.subset_append_left before head)).countP_eq
  have hstarts : ∀ c ∈ before.getLast?, isLineBreak c := fun c hc =>
    isLineBreak_of_isNewline (hbefore c hc)
  have hfree := (hupTo.of_subset (List.subset_append_right before head)).free hhead
  have hparts := append_takeWhile_append_dropWhile (fun c => !isLineBreak c)
  constructor
  · intro hnone
    by_contra hne
    have hsome := (getElem_displayLines_iff hreturn).mpr ⟨before, _, (hparts before head rest).symm,
      delimited_takeWhile hstarts hfree rest, hcount, by rwa [← List.nil_append (head ++ _), hparts []]⟩
    rw [hnone] at hsome
    cases hsome
  · intro hnil
    rw [Option.eq_none_iff_forall_ne_some]
    intro line hline
    obtain ⟨b, a, htext, -, hb, hne⟩ := (getElem_displayLines_iff hreturn).mp hline
    rw [List.append_assoc, hnil, List.append_nil, List.append_assoc] at htext
    rw [htext] at hstarts hcount
    apply hne
    apply eq_nil_of_countP_append hstarts
    rw [hb, htext, hcount]

theorem line_of_displayLines {before head rest line : List Char}
    (hbreaks : OnlyNewlines (before ++ head ++ rest))
    (hbefore : ∀ c ∈ before.getLast?, isNewline c) (hhead : ∀ c ∈ head, isNewline c = false)
    (hline : (displayLines (before ++ head ++ rest))[before.countP isNewline]? = some line) :
    line = head ++ rest.takeWhile fun c => !isNewline c := by
  have hupTo := hbreaks.of_subset (List.subset_append_left (before ++ head) rest)
  rw [line_of_onlyNewlines hbreaks.carriageReturn_not_mem hhead hline hbefore hupTo]
  rw [← append_takeWhile_append_dropWhile (fun c => !isNewline c), List.append_assoc] at hbreaks
  have hown := (hbreaks.of_subset (List.subset_append_right before _)).of_subset
    (List.subset_append_left (head ++ rest.takeWhile fun c => !isNewline c) _)
  exact hown.takeWhile_eq_self (delimited_takeWhile hbefore hhead rest).free

theorem shownLine_eq_none_iff {source : List Char} {s : Span}
    (hbreaks : OnlyNewlines source) (hplace : s.AgreesWith source) :
    shownLine source s = none ↔
      s.start = byteLength source ∧ ∀ c ∈ source.getLast?, isNewline c := by
  obtain ⟨before, head, rest, rfl, hstart, hnumber, -, hbefore, hhead⟩ := hplace.exists_head
  rw [shownLine_eq hnumber, getElem_displayLines_eq_none_iff hbreaks hbefore hhead, hstart]
  constructor
  · intro hnil
    obtain ⟨rfl, rfl⟩ := List.append_eq_nil_iff.mp hnil
    rw [List.append_nil, List.append_nil]
    exact ⟨rfl, hbefore⟩
  · intro hend
    obtain ⟨hlength, hlast⟩ := hend
    rw [byteLength_append (before ++ head)] at hlength
    have hrest : rest = [] := by
      by_contra hne
      have hpos := byteLength_pos hne
      omega
    subst hrest
    rw [List.append_nil] at hlast ⊢
    apply eq_nil_of_countP_append hlast
    rw [List.countP_append, countP_eq_zero_of_free hhead, Nat.add_zero]

theorem underlines_of_shownLine {source line text : List Char} {s : Span}
    (hbreaks : OnlyNewlines source) (hplace : s.AgreesWith source) (hstop : IsBoundary source s.stop)
    (hle : s.start ≤ s.stop) (htext : s.text? (encode source) = some text)
    (hline : shownLine source s = some line) :
    let indent := indentOf line s.column
    Underlines source (text.takeWhile fun c => !isNewline c) line s.start indent
      (caretCount text line indent) := by
  obtain ⟨before, head, rest, rfl, hstart, hnumber, hcolumn, hbefore, hhead⟩ := hplace.exists_head
  obtain ⟨text', after, hparts, htext'⟩ :=
    Span.text?_of_boundaries (List.prefix_append (before ++ head) rest) hstart hstop hle
  obtain rfl := Option.some.inj (htext'.symm.trans htext)
  obtain rfl : rest = text' ++ after := by
    rw [List.append_assoc _ text'] at hparts
    exact List.append_cancel_left hparts
  have hown : line = head ++ (text' ++ after).takeWhile fun c => !isNewline c := by
    rw [shownLine_eq hnumber] at hline
    exact line_of_displayLines hbreaks hbefore hhead hline
  have hindent : indentOf line s.column = head.length := by
    rw [hcolumn, hown, indentOf_append]
  rw [hindent, hstart, hown]
  apply underlines_of_parts hbefore hhead
  exact (hbreaks.of_subset (List.subset_append_right (before ++ head) _)).of_subset
    (List.subset_append_left text' after)

end Shown

section Printed
variable {w : Workspace} {o : Offense} {source text : List Char}

theorem bind_ne_error {α β : Type} {x : Except Fault α} {f : α → Except Fault β} {e : Fault}
    (hx : x ≠ .error e) (hf : ∀ a, f a ≠ .error e) : x.bind f ≠ .error e := by
  cases x with
  | error e' => simpa [Except.bind] using hx
  | ok a => exact hf a

theorem map_ne_error {α β : Type} {x : Except Fault α} {e : Fault} (hx : x ≠ .error e) (f : α → β) :
    x.map f ≠ .error e := by
  cases x with
  | error e' => simpa [Except.map] using hx
  | ok a => simp [Except.map]

theorem offense_ne_illFormedText (hsource : sourceOf w o.path = .ok source)
    (htext : o.location.text? (encode source) = some text) : offense w o ≠ .error .illFormedText := by
  rw [offense_eq hsource]
  refine bind_ne_error (printed_ne_illFormedText _ _) fun head => map_ne_error ?_ _
  cases hline : shownLine source o.location with
  | none => simp [excerpt, hline]
  | some line =>
    rw [excerpt_of_shownLine w.console hline htext]
    refine bind_ne_error (printed_ne_illFormedText _ _) fun shown => map_ne_error ?_ _
    exact printed_ne_illFormedText _ _

end Printed

/-- In a source that only newlines divide, the carets of an offense stand under the first line of the
highlighted text; the one caret of a highlight that begins with a newline stands after the line. The
highlighted text is always there to be read, so that only the console can fail, and one that prints the line
and the carets as they are prints just these. -/
theorem excerpt_underlines_first_line (source : List Char) (o : Offense)
    (hbreaks : OnlyNewlines source) (hplace : o.location.AgreesWith source)
    (hstop : IsBoundary source o.location.stop) (hle : o.location.start ≤ o.location.stop) :
    (shownLine source o.location = none ↔
      o.location.start = byteLength source ∧ ∀ c ∈ source.getLast?, isNewline c) ∧
    ∃ text, o.location.text? (encode source) = some text ∧
      (∀ w, sourceOf w o.path = .ok source → offense w o ≠ .error .illFormedText) ∧
      ∀ line, shownLine source o.location = some line →
        let indent := indentOf line o.location.column
        let carets := caretCount text line indent
        Underlines source (text.takeWhile fun c => !isNewline c) line o.location.start indent carets ∧
        ∀ w, sourceOf w o.path = .ok source → w.console.ShowsVerbatim line →
          w.console.DrawsCarets indent carets →
          offense w o = (printed w.console (heading w.console o).toList).map fun head =>
            head ++ (String.ofList (line ++ ['\n']) ++
              String.ofList (List.replicate indent ' ' ++ List.replicate carets '^' ++ ['\n'])) := by
  obtain ⟨upTo, hprefix, hstart⟩ := hplace.boundary
  obtain ⟨text, after, -, htext⟩ := Span.text?_of_boundaries hprefix hstart hstop hle
  refine ⟨shownLine_eq_none_iff hbreaks hplace, text, htext,
    fun w hsource => offense_ne_illFormedText hsource htext, ?_⟩
  intro line hline indent carets
  refine ⟨underlines_of_shownLine hbreaks hplace hstop hle htext hline, ?_⟩
  intro w hsource hverbatim hcarets
  rw [offense_eq hsource, excerpt_of_shownLine w.console hline htext, printed_eq_ok_iff.mpr hverbatim,
    printed_eq_ok_iff.mpr hcarets]
  cases printed w.console (heading w.console o).toList <;> rfl

def overLines : List Char := "é; describe 'ü\nb' do\nend\n".toList

theorem excerpt_overLines :
    let o : Offense := ⟨⟨13, 19, 1, 13⟩, "text", "Rule", some "a"⟩
    let line := "é; describe 'ü".toList
    OnlyNewlines overLines ∧ o.location.AgreesWith overLines ∧
      IsBoundary overLines o.location.stop ∧ shownLine overLines o.location = some line ∧
      Underlines overLines "'ü".toList line o.location.start 12 2 ∧
      offense (holding overLines) o = .ok "a:1:14: Rule: text\né; describe 'ü\n            ^^\n" := by
  intro o line
  have hbreaks : OnlyNewlines overLines := by decide
  have hplace : o.location.AgreesWith overLines :=
    ⟨⟨"é; describe ".toList, by decide, by decide⟩, by decide, by decide⟩
  have hstop : IsBoundary overLines o.location.stop :=
    ⟨"é; describe 'ü\nb'".toList, by decide, by decide⟩
  have hline : shownLine overLines o.location = some line := by decide
  obtain ⟨-, text, htext, -, hshown⟩ :=
    excerpt_underlines_first_line overLines o hbreaks hplace hstop (by decide)
  obtain ⟨hunder, hprints⟩ := hshown line hline
  obtain rfl : "'ü\nb'".toList = text := by
    have hread : o.location.text? (encode overLines) = some "'ü\nb'".toList := by decide
    exact Option.some.inj (hread.symm.trans htext)
  refine ⟨hbreaks, hplace, hstop, hline, hunder, ?_⟩
  rw [hprints (holding overLines) (sourceOf_holding (by decide)) (Console.showsVerbatim_plain (by decide))
    (Console.drawsCarets_plain _ _)]
  decide +kernel

def twoLines : List Char := "ab\ncd".toList

theorem excerpt_at_lineEnd :
    let o : Offense := ⟨⟨2, 3, 1, 2⟩, "text", "Rule", some "a"⟩
    let line := "ab".toList
    let text := "\n".toList
    let indent := indentOf line o.location.column
    OnlyNewlines twoLines ∧ o.location.AgreesWith twoLines ∧
      IsBoundary twoLines o.location.stop ∧ o.location.start ≤ o.location.stop ∧
      shownLine twoLines o.location = some line ∧
      o.location.text? (encode twoLines) = some text ∧ text ≠ [] ∧
      line.length < indent + caretCount text line indent ∧
      offense (holding twoLines) o = .ok "a:1:3: Rule: text\nab\n  ^\n" := by
  intro o line text indent
  have hsource : sourceOf (holding twoLines) o.path = .ok twoLines := sourceOf_holding (by decide)
  refine ⟨by decide, ⟨⟨"ab".toList, by decide, by decide⟩, by decide, by decide⟩,
    ⟨"ab\n".toList, by decide, by decide⟩, by decide, by decide, by decide, by decide, by decide, ?_⟩
  rw [offense_eq hsource]
  decide +kernel

end Printer
end GroupLint
