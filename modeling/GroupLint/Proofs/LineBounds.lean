import GroupLint.Text.Lines
import Mathlib.Data.List.Basic
import Mathlib.Data.List.Induction
import Mathlib.Data.List.TakeWhile

/-! Where the lines of a text stand. A line is a stretch between two separators or ends, and it is
found by the number of separators before it. This is so for newlines alone and, but for an empty last
line, for the lines of a display; the two ways to see lines differ in nothing else. -/
namespace GroupLint.Text

structure Delimited (sep : Char → Bool) (before line after : List Char) : Prop where
  free : ∀ c ∈ line, sep c = false
  starts : ∀ c ∈ before.getLast?, sep c
  ends : ∀ c ∈ after.head?, sep c

def isNewline (c : Char) : Bool := c == '\n'

section Pieces
variable {sep : Char → Bool}

theorem length_splitOnP (cs : List Char) : (cs.splitOnP sep).length = cs.countP sep + 1 := by
  induction cs with
  | nil => simp [List.splitOnP_nil]
  | cons c cs ih =>
    rw [List.splitOnP_cons_eq_if_modifyHead, List.countP_cons]
    split_ifs with hc
    · rw [List.length_cons, ih]
    · rw [List.length_modifyHead, ih]

theorem countP_eq_zero_of_free {line : List Char} (h : ∀ c ∈ line, sep c = false) :
    line.countP sep = 0 := by
  rw [List.countP_eq_zero]
  intro c hc
  rw [h c hc]
  exact Bool.false_ne_true

theorem getElem_splitOnP_of_delimited {before line after : List Char}
    (h : Delimited sep before line after) :
    ((before ++ line ++ after).splitOnP sep)[before.countP sep]? = some line := by
  have hfirst : ((line ++ after).splitOnP sep)[0]? = some line := by
    cases after with
    | nil => rw [List.append_nil, List.splitOnP_eq_singleton h.free, List.getElem?_cons_zero]
    | cons c after =>
      rw [List.splitOnP_append_cons_of_forall_mem h.free c (h.ends c rfl), List.getElem?_cons_zero]
  cases before using List.reverseRecOn with
  | nil => exact hfirst
  | append_singleton before c =>
    have hc : sep c := h.starts c List.getLast?_concat
    have hcount : (before ++ [c]).countP sep = (before.splitOnP sep).length := by
      rw [length_splitOnP, List.countP_append, List.countP_singleton, if_pos hc]
    rw [hcount, List.append_assoc, List.append_assoc, List.singleton_append,
      List.splitOnP_append_cons _ _ hc, List.getElem?_append_right (Nat.le_refl _), Nat.sub_self, hfirst]

theorem before_eq_nil {before : List Char} (hstarts : ∀ c ∈ before.getLast?, sep c)
    (hcount : before.countP sep = 0) : before = [] := by
  cases before using List.reverseRecOn with
  | nil => rfl
  | append_singleton before c =>
    have hc : sep c := hstarts c List.getLast?_concat
    rw [List.countP_append, List.countP_singleton, if_pos hc] at hcount
    omega

theorem Delimited.cons {c : Char} {before line after : List Char}
    (h : Delimited sep before line after) (hc : before = [] → sep c) :
    Delimited sep (c :: before) line after := by
  refine ⟨h.free, ?_, h.ends⟩
  cases before with
  | nil => simpa using hc rfl
  | cons d before =>
    rw [List.getLast?_cons_cons]
    exact h.starts

theorem delimited_of_getElem_splitOnP {cs line : List Char} {i : Nat}
    (h : (cs.splitOnP sep)[i]? = some line) :
    ∃ before after, cs = before ++ line ++ after ∧ Delimited sep before line after ∧
      before.countP sep = i := by
  induction cs generalizing line i with
  | nil =>
    rw [List.splitOnP_nil] at h
    obtain ⟨rfl, rfl⟩ : i = 0 ∧ [] = line := by simpa [List.getElem?_singleton] using h
    exact ⟨[], [], rfl, ⟨by simp, by simp, by simp⟩, rfl⟩
  | cons c cs ih =>
    rw [List.splitOnP_cons_eq_if_modifyHead] at h
    by_cases hc : sep c
    · rw [if_pos hc] at h
      cases i with
      | zero =>
        obtain rfl : [] = line := by simpa using h
        exact ⟨[], c :: cs, rfl, ⟨by simp, by simp, by simpa using hc⟩, rfl⟩
      | succ i =>
        rw [List.getElem?_cons_succ] at h
        obtain ⟨before, after, rfl, hd, hi⟩ := ih h
        refine ⟨c :: before, after, rfl, hd.cons fun _ => hc, ?_⟩
        rw [List.countP_cons, if_pos hc, hi]
    · rw [if_neg hc, List.getElem?_modifyHead] at h
      cases i with
      | zero =>
        obtain ⟨piece, hpiece, rfl⟩ : ∃ piece, (cs.splitOnP sep)[0]? = some piece ∧ c :: piece = line := by
          simpa using h
        obtain ⟨before, after, rfl, hd, hi⟩ := ih hpiece
        obtain rfl := before_eq_nil hd.starts hi
        refine ⟨[], after, rfl, ⟨?_, hd.starts, hd.ends⟩, rfl⟩
        exact List.forall_mem_cons.mpr ⟨by simpa using hc, hd.free⟩
      | succ i =>
        obtain ⟨before, after, rfl, hd, hi⟩ := ih (by simpa using h)
        refine ⟨c :: before, after, rfl, hd.cons ?_, ?_⟩
        · rintro rfl
          simp at hi
        · rw [List.countP_cons, if_neg hc, hi, Nat.add_zero]

theorem getElem_splitOnP_iff {cs line : List Char} {i : Nat} :
    (cs.splitOnP sep)[i]? = some line ↔
      ∃ before after, cs = before ++ line ++ after ∧ Delimited sep before line after ∧
        before.countP sep = i := by
  constructor
  · exact delimited_of_getElem_splitOnP
  · rintro ⟨before, after, rfl, hd, rfl⟩
    exact getElem_splitOnP_of_delimited hd

/-- The number of separators before a line names it. -/
theorem Delimited.line_eq {before line after before' line' after' : List Char}
    (h : Delimited sep before line after) (h' : Delimited sep before' line' after')
    (htext : before ++ line ++ after = before' ++ line' ++ after')
    (hcount : before.countP sep = before'.countP sep) : line = line' := by
  have hpiece := getElem_splitOnP_of_delimited h
  rw [htext, hcount, getElem_splitOnP_of_delimited h'] at hpiece
  exact (Option.some.inj hpiece).symm

theorem exists_line_start (sep : Char → Bool) (cs : List Char) :
    ∃ before head, cs = before ++ head ∧ (∀ c ∈ before.getLast?, sep c) ∧
      ∀ c ∈ head, sep c = false := by
  induction cs using List.reverseRecOn with
  | nil => exact ⟨[], [], rfl, by simp, by simp⟩
  | append_singleton cs c ih =>
    by_cases hc : sep c
    · refine ⟨cs ++ [c], [], (List.append_nil _).symm, ?_, by simp⟩
      intro d hd
      rw [List.getLast?_concat] at hd
      rwa [← Option.mem_some_iff.mp hd]
    · obtain ⟨before, head, rfl, hbefore, hhead⟩ := ih
      refine ⟨before, head ++ [c], List.append_assoc _ _ _, hbefore, ?_⟩
      exact List.forall_mem_append.mpr ⟨hhead, by simpa using hc⟩

theorem append_takeWhile_append_dropWhile (p : Char → Bool) (before head rest : List Char) :
    before ++ (head ++ rest.takeWhile p) ++ rest.dropWhile p = before ++ head ++ rest := by
  rw [List.append_assoc, List.append_assoc, List.append_assoc, List.takeWhile_append_dropWhile]

/-- From where a line starts and what it has up to some place, the whole line. -/
theorem delimited_takeWhile {before head : List Char} (hbefore : ∀ c ∈ before.getLast?, sep c)
    (hhead : ∀ c ∈ head, sep c = false) (rest : List Char) :
    Delimited sep before (head ++ rest.takeWhile fun c => !sep c) (rest.dropWhile fun c => !sep c) := by
  refine ⟨?_, hbefore, ?_⟩
  · refine List.forall_mem_append.mpr ⟨hhead, ?_⟩
    intro c hc
    simpa using List.mem_takeWhile_imp hc
  · intro c hc
    rw [Option.mem_def, ← List.find?_eq_head?_dropWhile_not] at hc
    exact List.find?_some hc

end Pieces

theorem newlineLines_eq_splitOnP (cs : List Char) : newlineLines cs = cs.splitOnP isNewline := by
  induction cs with
  | nil => rw [List.splitOnP_nil, newlineLines]
  | cons c cs ih =>
    rw [newlineLines, List.splitOnP_cons_eq_if_modifyHead, ih]
    by_cases hc : c = '\n'
    · rw [if_pos hc, if_pos (by simp [isNewline, hc])]
    · rw [if_neg hc, if_neg (by simp [isNewline, hc])]
      cases hcs : cs.splitOnP isNewline with
      | nil => exact absurd hcs (List.splitOnP_ne_nil isNewline cs)
      | cons l ls => rfl

theorem mem_newlineLines_iff {cs line : List Char} :
    line ∈ newlineLines cs ↔
      ∃ before after, cs = before ++ line ++ after ∧ Delimited isNewline before line after := by
  rw [newlineLines_eq_splitOnP, List.mem_iff_getElem?]
  simp only [getElem_splitOnP_iff]
  constructor
  · rintro ⟨i, before, after, hcs, hd, -⟩
    exact ⟨before, after, hcs, hd⟩
  · rintro ⟨before, after, hcs, hd⟩
    exact ⟨_, before, after, hcs, hd, rfl⟩

section Display

theorem displayLines_eq_nil {cs : List Char} (h : displayLines cs = []) : cs = [] := by
  revert h
  fun_cases displayLines cs with
  | case1 => intro; rfl
  | case2 | case3 | case4 | case5 => simp

theorem head_displayLines (cs : List Char) :
    (displayLines cs).head?.getD [] = cs.takeWhile fun c => !isLineBreak c := by
  fun_induction displayLines cs with
  | case1 => rfl
  | case2 r ih => rfl
  | case3 c r hr hc ih => rw [List.takeWhile_cons_of_neg (by simpa using hc)]; rfl
  | case4 c r hr hc hnil ih =>
    obtain rfl := displayLines_eq_nil hnil
    rw [List.takeWhile_cons_of_pos (by simpa using hc)]
    rfl
  | case5 c r hr hc l ls hl ih =>
    rw [hl] at ih
    rw [List.takeWhile_cons_of_pos (by simpa using hc), ← ih]
    rfl

theorem all_getLast_cons {c : Char} {cs : List Char} (h : cs = [] → isLineBreak c) :
    (c :: cs).getLast?.all isLineBreak = cs.getLast?.all isLineBreak := by
  cases cs with
  | nil => simpa using h rfl
  | cons d cs => rw [List.getLast?_cons_cons]

/-- The lines of a display are the pieces between line breaks, less an empty one after the last. -/
theorem splitOnP_eq_displayLines_append {cs : List Char} (h : '\r' ∉ cs) :
    cs.splitOnP isLineBreak =
      displayLines cs ++ if cs.getLast?.all isLineBreak then [[]] else [] := by
  fun_induction displayLines cs with
  | case1 => rw [List.splitOnP_nil]; rfl
  | case2 r ih => simp at h
  | case3 c r hr hc ih =>
    have hpieces := ih fun hm => h (List.mem_cons_of_mem c hm)
    rw [List.splitOnP_cons_eq_if_modifyHead, if_pos hc, hpieces, all_getLast_cons fun _ => hc,
      List.cons_append]
  | case4 c r hr hc hnil ih =>
    obtain rfl := displayLines_eq_nil hnil
    simp [List.splitOnP_cons_eq_if_modifyHead, List.splitOnP_nil, hc]
  | case5 c r hr hc l ls hl ih =>
    have hpieces := ih fun hm => h (List.mem_cons_of_mem c hm)
    have hne : r ≠ [] := by
      rintro rfl
      cases hl
    rw [List.splitOnP_cons_eq_if_modifyHead, if_neg hc, hpieces, hl,
      all_getLast_cons fun hnil => absurd hnil hne, List.cons_append, List.cons_append,
      List.modifyHead_cons]

theorem getElem_displayLines_iff {cs line : List Char} {i : Nat} (h : '\r' ∉ cs) :
    (displayLines cs)[i]? = some line ↔
      ∃ before after, cs = before ++ line ++ after ∧ Delimited isLineBreak before line after ∧
        before.countP isLineBreak = i ∧ line ++ after ≠ [] := by
  have hsplit := splitOnP_eq_displayLines_append h
  have hlength := congrArg List.length hsplit
  rw [length_splitOnP, List.length_append] at hlength
  constructor
  · intro hline
    have hi := (List.getElem?_eq_some_iff.mp hline).1
    have hpiece : (cs.splitOnP isLineBreak)[i]? = some line := by
      rw [hsplit, List.getElem?_append_left hi, hline]
    obtain ⟨before, after, rfl, hd, hcount⟩ := getElem_splitOnP_iff.mp hpiece
    refine ⟨before, after, rfl, hd, hcount, ?_⟩
    -- An empty line at the very end would be the piece that the display leaves out.
    intro hnil
    obtain ⟨rfl, rfl⟩ := List.append_eq_nil_iff.mp hnil
    have hall : (before ++ [] ++ []).getLast?.all isLineBreak := by
      rw [List.append_nil, List.append_nil, Option.all_eq_true]
      exact hd.starts
    rw [if_pos hall, List.append_nil, List.append_nil, List.length_singleton] at hlength
    rw [List.append_nil, List.append_nil] at hi
    omega
  · rintro ⟨before, after, rfl, hd, rfl, hne⟩
    have hpiece := getElem_splitOnP_of_delimited hd
    rw [hsplit] at hpiece
    by_cases hi : before.countP isLineBreak < (displayLines (before ++ line ++ after)).length
    · rwa [List.getElem?_append_left hi] at hpiece
    · rw [List.getElem?_append_right (Nat.le_of_not_lt hi)] at hpiece
      split_ifs at hpiece hlength with hall
      · obtain rfl : [] = line := (by simpa [List.getElem?_singleton] using hpiece : _ ∧ _).2
        have hafter : after.countP isLineBreak = 0 := by
          simp only [List.append_nil, List.countP_append, List.length_singleton] at hlength hi
          omega
        cases after with
        | nil => exact absurd rfl hne
        | cons c after =>
          rw [List.countP_cons, if_pos (hd.ends c rfl)] at hafter
          omega
      · simp at hpiece

end Display

section OnlyNewlines

def OnlyNewlines (cs : List Char) : Prop := ∀ c ∈ cs, isLineBreak c → c = '\n'

variable {cs : List Char}

theorem onlyNewlines_iff : OnlyNewlines cs ↔ cs.all fun c => !isLineBreak c || c == '\n' := by
  rw [List.all_eq_true, OnlyNewlines]
  apply forall₂_congr
  intro c hc
  cases isLineBreak c <;> simp

instance (cs : List Char) : Decidable (OnlyNewlines cs) := decidable_of_iff _ onlyNewlines_iff.symm

theorem isLineBreak_of_isNewline {c : Char} (h : isNewline c) : isLineBreak c := by
  rw [isNewline, beq_iff_eq] at h
  rw [h]
  rfl

theorem OnlyNewlines.isLineBreak_eq (h : OnlyNewlines cs) {c : Char} (hc : c ∈ cs) :
    isLineBreak c = isNewline c := by
  rw [Bool.eq_iff_iff]
  refine ⟨fun hbreak => ?_, isLineBreak_of_isNewline⟩
  rw [h c hc hbreak]
  rfl

theorem OnlyNewlines.of_subset (h : OnlyNewlines cs) {ds : List Char} (hsub : ds ⊆ cs) :
    OnlyNewlines ds := by
  intro c hc
  exact h c (hsub hc)

theorem OnlyNewlines.carriageReturn_not_mem (h : OnlyNewlines cs) : '\r' ∉ cs := by
  intro hmem
  exact absurd (h '\r' hmem rfl) (by decide)

theorem OnlyNewlines.countP_eq (h : OnlyNewlines cs) :
    cs.countP isLineBreak = cs.countP isNewline := by
  apply List.countP_congr
  intro c hc
  rw [h.isLineBreak_eq hc]

theorem countP_isNewline_le (cs : List Char) : cs.countP isNewline ≤ cs.countP isLineBreak :=
  List.countP_mono_left fun _ _ => isLineBreak_of_isNewline

theorem countP_isNewline_lt (h : ¬ OnlyNewlines cs) :
    cs.countP isNewline < cs.countP isLineBreak := by
  obtain ⟨c, hc, hbreak, hother⟩ : ∃ c ∈ cs, isLineBreak c ∧ c ≠ '\n' := by
    simpa [OnlyNewlines] using h
  obtain ⟨u, v, rfl⟩ := List.append_of_mem hc
  have hu := countP_isNewline_le u
  have hv := countP_isNewline_le v
  have hnot : ¬ isNewline c := by simpa [isNewline] using hother
  rw [List.countP_append, List.countP_append, List.countP_cons, List.countP_cons, if_pos hbreak,
    if_neg hnot]
  omega

theorem OnlyNewlines.free (h : OnlyNewlines cs) (hfree : ∀ c ∈ cs, isNewline c = false) :
    ∀ c ∈ cs, isLineBreak c = false := by
  intro c hc
  rw [h.isLineBreak_eq hc, hfree c hc]

theorem OnlyNewlines.takeWhile_eq_self (h : OnlyNewlines cs) (hfree : ∀ c ∈ cs, isNewline c = false) :
    cs.takeWhile (fun c => !isLineBreak c) = cs := by
  rw [List.takeWhile_eq_self_iff]
  simpa using h.free hfree

theorem takeWhile_isLineBreak {head : List Char} (h : ∀ c ∈ head, isLineBreak c = false)
    (rest : List Char) :
    (head ++ rest.takeWhile fun c => !isNewline c).takeWhile (fun c => !isLineBreak c) =
      head ++ rest.takeWhile fun c => !isLineBreak c := by
  rw [List.takeWhile_append_of_pos (by simpa using h), List.takeWhile_takeWhile]
  congr 2
  funext c
  cases hc : isNewline c with
  | false => simp
  | true => simp [isLineBreak_of_isNewline hc]

theorem OnlyNewlines.takeWhile_eq (h : OnlyNewlines cs) :
    (cs.takeWhile fun c => !isLineBreak c) = cs.takeWhile fun c => !isNewline c := by
  have hfree : ∀ c ∈ cs.takeWhile (fun c => !isNewline c), isNewline c = false := by
    intro c hc
    simpa using List.mem_takeWhile_imp hc
  have hcut := takeWhile_isLineBreak (List.forall_mem_nil _) cs
  rw [List.nil_append, List.nil_append] at hcut
  rw [← hcut, (h.of_subset (List.takeWhile_subset _)).takeWhile_eq_self hfree]

end OnlyNewlines

end GroupLint.Text
