import GroupLint.Proofs.Accounting
import GroupLint.Proofs.ByteOffsets
import GroupLint.Proofs.PlainConsole

/-! The line that is shown for an offense, and the carets under it. The line is looked up among those of
a display by a number that counts newlines; so it is the line of the offense as long as nothing but
newlines divides the text up to its end. -/
namespace GroupLint

namespace Printer
open Text

theorem printed_eq_ok_iff {c : Console} {markup : List Char} {out : String} :
    printed c markup = .ok out ↔ c.print markup = .ok out := by
  rw [printed]
  cases c.print markup <;> simp [Except.mapError]

theorem printed_ne_illFormedText (c : Console) (markup : List Char) :
    printed c markup ≠ .error .illFormedText := by
  rw [printed]
  cases c.print markup <;> simp [Except.mapError]

theorem excerpt_of_shownLine {source line text : List Char} {o : Offense} (c : Console)
    (hline : shownLine source o.location = some line)
    (htext : o.location.text? (Utf8.encode source) = some text) :
    let indent := indentOf line o.location.column
    excerpt c source o = (printed c (c.escape line)).bind fun shown =>
      (printed c (caretLine indent (caretCount text line indent))).map fun carets => shown ++ carets := by
  simp only [excerpt, hline, htext]
  rfl

section ShownLine
open Text.Utf8

theorem carriageReturn_not_mem_unifyNewlines (cs : List Char) : '\r' ∉ unifyNewlines cs := by
  fun_induction unifyNewlines cs with
  | case1 => simp
  | case2 r ih => simpa using ih
  | case3 c r hr ih =>
    by_cases hc : c = '\r'
    · simpa [hc] using ih
    · simpa [hc, eq_comm] using ih

theorem unifyNewlines_of_not_mem {cs : List Char} (h : '\r' ∉ cs) : unifyNewlines cs = cs := by
  fun_induction unifyNewlines cs with
  | case1 => rfl
  | case2 r ih => simp at h
  | case3 c r hr ih =>
    rw [List.mem_cons, not_or] at h
    rw [if_neg (Ne.symm h.1), ih h.2]

theorem carriageReturn_not_mem_of_sourceOf {w : Workspace} {path : Option String}
    {source : List Char} (h : sourceOf w path = .ok source) : '\r' ∉ source := by
  unfold sourceOf at h
  split at h
  · obtain rfl : [] = source := Except.ok.inj h
    simp
  · obtain rfl : [] = source := Except.ok.inj h
    simp
  · split at h
    · rename_i bytes hread
      obtain rfl : Linter.sourceText bytes = source := Except.ok.inj h
      exact carriageReturn_not_mem_unifyNewlines _
    · cases h
    · obtain rfl : [] = source := Except.ok.inj h
      simp

theorem shownLine_eq {source : List Char} {s : Span} {n : Nat} (h : s.line = 1 + n) :
    shownLine source s = (displayLines source)[n]? := by
  have hindex : (s.line - 1).toNat = n := by omega
  rw [shownLine, if_pos (by omega), hindex]

section Found
variable {before head rest line : List Char} (hreturn : '\r' ∉ before ++ head ++ rest)
  (hhead : ∀ c ∈ head, isNewline c = false)
  (hline : (displayLines (before ++ head ++ rest))[before.countP isNewline]? = some line)
include hreturn hhead hline

theorem line_of_onlyNewlines (hbefore : ∀ c ∈ before.getLast?, isNewline c)
    (h : OnlyNewlines (before ++ head)) :
    line = (head ++ rest.takeWhile fun c => !isNewline c).takeWhile fun c => !isLineBreak c := by
  obtain ⟨b, a, htext, hd, hcount, -⟩ := (getElem_displayLines_iff hreturn).mp hline
  have hstarts : ∀ c ∈ before.getLast?, isLineBreak c := fun c hc =>
    isLineBreak_of_isNewline (hbefore c hc)
  have hfree := (h.of_subset (List.subset_append_right before head)).free hhead
  rw [takeWhile_isLineBreak hfree]
  apply hd.line_eq (delimited_takeWhile hstarts hfree rest)
  · rw [← htext, append_takeWhile_append_dropWhile]
  · rw [hcount, (h.of_subset (List.subset_append_left before head)).countP_eq]

theorem line_ends_before_start (h : ¬ OnlyNewlines (before ++ head)) :
    ∃ b a, before ++ head ++ rest = b ++ line ++ a ∧ Delimited isLineBreak b line a ∧
      byteLength (b ++ line) < byteLength (before ++ head) := by
  obtain ⟨b, a, htext, hd, hcount, -⟩ := (getElem_displayLines_iff hreturn).mp hline
  refine ⟨b, a, htext, hd, ?_⟩
  by_contra hle
  -- Were the start at or before its end, the line would have all the breaks before it that the start has.
  have hprefix : before ++ head <+: b ++ line :=
    prefix_of_byteLength_le (List.prefix_append _ _) ⟨a, htext.symm⟩ (by omega)
  have hmore : (before ++ head).countP isLineBreak ≤ (b ++ line).countP isLineBreak :=
    hprefix.sublist.countP_le
  have hfewer := countP_isNewline_lt h
  have hend : (b ++ line).countP isLineBreak = before.countP isNewline := by
    rw [List.countP_append, countP_eq_zero_of_free hd.free, hcount, Nat.add_zero]
  have hstart : (before ++ head).countP isNewline = before.countP isNewline := by
    rw [List.countP_append, countP_eq_zero_of_free hhead, Nat.add_zero]
  omega

end Found

theorem offense_eq {w : Workspace} {o : Offense} {source : List Char}
    (h : sourceOf w o.path = .ok source) :
    offense w o = (printed w.console (heading w.console o).toList).bind fun head =>
      (excerpt w.console source o).map fun lines => head ++ lines := by
  simp only [offense, h]
  rfl

/-- What is printed for an offense that has a line to show: a heading, the line and the carets. -/
theorem parts_of_offense {w : Workspace} {o : Offense} {source line : List Char} {out : String}
    (hsource : sourceOf w o.path = .ok source) (hline : shownLine source o.location = some line)
    (hout : offense w o = .ok out) :
    ∃ head shown carets n, out = head ++ (shown ++ carets) ∧
      w.console.print (heading w.console o).toList = .ok head ∧
      w.console.print (w.console.escape line) = .ok shown ∧
      w.console.print (caretLine (indentOf line o.location.column) n) = .ok carets := by
  rw [offense_eq hsource] at hout
  cases hhead : printed w.console (heading w.console o).toList with
  | error f => simp [hhead, Except.bind] at hout
  | ok head =>
    cases htext : o.location.text? (encode source) with
    | none => simp [hhead, excerpt, hline, htext, Except.bind, Except.map] at hout
    | some text =>
      rw [hhead, excerpt_of_shownLine w.console hline htext] at hout
      cases hshown : printed w.console (w.console.escape line) with
      | error f => simp [hshown, Except.bind, Except.map] at hout
      | ok shown =>
        let indent := indentOf line o.location.column
        cases hcarets : printed w.console (caretLine indent (caretCount text line indent)) with
        | error f => simp [indent, hshown, hcarets, Except.bind, Except.map] at hout
        | ok carets =>
          obtain rfl : head ++ (shown ++ carets) = out := by
            simpa [indent, hshown, hcarets, Except.bind, Except.map] using hout
          exact ⟨head, shown, carets, _, rfl, printed_eq_ok_iff.mp hhead, printed_eq_ok_iff.mp hshown,
            printed_eq_ok_iff.mp hcarets⟩

theorem sourceOf_of_read {w : Workspace} {p : String} {bytes : List UInt8} (hp : p ≠ "")
    (h : w.read (Path.ofString p) = .ok bytes) :
    sourceOf w (some p) = .ok (Linter.sourceText bytes) := by
  unfold sourceOf
  split
  · contradiction
  · rename_i heq
    exact absurd (Option.some.inj heq) hp
  · rename_i heq
    obtain rfl := Option.some.inj heq
    rw [h]

def holding (source : List Char) : Workspace where
  files := ⟨[(["a"], .file (encode source))]⟩
  current := []
  globalSettings := []
  grammar _ := none
  readTable _ := .error .malformed
  console := .plain

theorem sourceOf_holding {source : List Char} (h : '\r' ∉ source) :
    sourceOf (holding source) (some "a") = .ok source := by
  have hread : (holding source).read (Path.ofString "a") = .ok (encode source) := by
    obtain ⟨ha, -⟩ : Path.ofString "a" = ⟨0, ["a"]⟩ ∧ _ := by simpa using Linter.ofString_letters
    rw [ha]
    rfl
  rw [sourceOf_of_read (by decide) hread, Linter.sourceText, decodeLossy_encode,
    unifyNewlines_of_not_mem h]

/-- The line of an offense is shown if nothing but newlines divides the text up to its end. If another
line break stands in it after the start of the offense, the line is shown up to there; if one stands
before the start, a line is shown that ends before it. A console that prints the line verbatim prints it
between the heading and the carets. -/
theorem shownLine_of_line_breaks (w : Workspace) (o : Offense) (source line : List Char)
    (hsource : sourceOf w o.path = .ok source) (hplace : o.location.AgreesWith source)
    (hline : shownLine source o.location = some line) (hverbatim : w.console.ShowsVerbatim line) :
    ∃ upTo own, upTo <+: source ∧ o.location.start = byteLength upTo ∧
      (∀ l, LineAt source o.location.start l ↔ l = own) ∧
      (OnlyNewlines (upTo ++ own) → line = own) ∧
      (OnlyNewlines upTo → line = own.takeWhile fun c => !isLineBreak c) ∧
      (¬ OnlyNewlines upTo →
        ∃ before after, source = before ++ line ++ after ∧ Delimited isLineBreak before line after ∧
          byteLength (before ++ line) < o.location.start) ∧
      ∀ out, offense w o = .ok out → ∃ head carets n,
        out = head ++ (String.ofList (line ++ ['\n']) ++ carets) ∧
        w.console.print (heading w.console o).toList = .ok head ∧
        w.console.print (caretLine (indentOf line o.location.column) n) = .ok carets := by
  have hreturn := carriageReturn_not_mem_of_sourceOf hsource
  obtain ⟨before, head, rest, rfl, hstart, hnumber, -, hbefore, hhead⟩ := hplace.exists_head
  have hfound := hline
  rw [shownLine_eq hnumber] at hfound
  let own := head ++ rest.takeWhile fun c => !isNewline c
  have hcut : OnlyNewlines (before ++ head) → line = own.takeWhile fun c => !isLineBreak c :=
    line_of_onlyNewlines hreturn hhead hfound hbefore
  refine ⟨before ++ head, own, List.prefix_append _ _, hstart, ?_, ?_, hcut, ?_, ?_⟩
  · intro l
    rw [hstart]
    exact lineAt_iff hbefore hhead
  · intro h
    rw [hcut (h.of_subset (List.subset_append_left _ own))]
    apply (h.of_subset (List.subset_append_right (before ++ head) own)).takeWhile_eq_self
    exact (delimited_takeWhile hbefore hhead rest).free
  · intro h
    rw [hstart]
    exact_mod_cast line_ends_before_start hreturn hhead hfound h
  · intro out hout
    obtain ⟨first, shown, carets, n, rfl, hfirst, hshown, hcarets⟩ := parts_of_offense hsource hline hout
    obtain rfl := Except.ok.inj (hverbatim.symm.trans hshown)
    exact ⟨first, carets, n, rfl, hfirst, hcarets⟩

def verticalTab : List Char := "# a\ndescribe 'x' do # \x0b b\n".toList

theorem shownLine_verticalTab :
    let o : Offense := ⟨⟨13, 16, 2, 9⟩, "text", "Rule", some "a"⟩
    let line := "describe 'x' do # ".toList
    sourceOf (holding verticalTab) o.path = .ok verticalTab ∧ o.location.AgreesWith verticalTab ∧
      shownLine verticalTab o.location = some line ∧
      (holding verticalTab).console.ShowsVerbatim line ∧
      ∃ own, (∀ l, LineAt verticalTab o.location.start l ↔ l = own) ∧
        line = own.takeWhile fun c => !isLineBreak c := by
  intro o line
  have hsource : sourceOf (holding verticalTab) o.path = .ok verticalTab :=
    sourceOf_holding (by decide)
  have hplace : o.location.AgreesWith verticalTab :=
    ⟨⟨"# a\ndescribe ".toList, by decide, by decide⟩, by decide, by decide⟩
  have hline : shownLine verticalTab o.location = some line := by decide
  have hverbatim : (holding verticalTab).console.ShowsVerbatim line :=
    Console.showsVerbatim_plain (by decide)
  obtain ⟨upTo, own, hupTo, hstart, hown, -, hcut, -⟩ :=
    shownLine_of_line_breaks (holding verticalTab) o verticalTab line hsource hplace hline hverbatim
  refine ⟨hsource, hplace, hline, hverbatim, own, hown, hcut ?_⟩
  have hbytes : byteLength "# a\ndescribe ".toList = 13 := by decide
  have hupTo' : byteLength upTo = 13 := (Int.ofNat.inj hstart).symm
  have hpart : upTo <+: "# a\ndescribe ".toList :=
    prefix_of_byteLength_le hupTo (by decide) (by omega)
  have hplain : OnlyNewlines "# a\ndescribe ".toList := by decide
  exact hplain.of_subset hpart.subset

def formFeed : List Char := "# a\x0c\ndescribe 'x' do\nend\n".toList

theorem shownLine_formFeed :
    let o : Offense := ⟨⟨14, 17, 2, 9⟩, "text", "Rule", some "a"⟩
    o.location.AgreesWith formFeed ∧ shownLine formFeed o.location = some [] ∧
      (holding formFeed).console.ShowsVerbatim [] ∧
      offense (holding formFeed) o = .ok "a:2:10: Rule: text\n\n^\n" ∧
      ¬ LineAt formFeed o.location.start [] := by
  intro o
  have hsource : sourceOf (holding formFeed) o.path = .ok formFeed := sourceOf_holding (by decide)
  refine ⟨⟨⟨"# a\x0c\ndescribe ".toList, by decide, by decide⟩, by decide, by decide⟩, by decide,
    Console.showsVerbatim_plain (by decide), ?_, ?_⟩
  · rw [offense_eq hsource]
    decide +kernel
  · intro h
    have hbefore : ∀ c ∈ "# a\x0c\n".toList.getLast?, isNewline c := by simp [isNewline]
    have hhead : ∀ c ∈ "describe ".toList, isNewline c = false := by simp [isNewline]
    have hown : [] = "describe ".toList ++ "'x' do\nend\n".toList.takeWhile fun c => !isNewline c :=
      (lineAt_iff hbefore hhead).mp h
    revert hown
    decide

end ShownLine

end Printer
end GroupLint
