import GroupLint.Rule
import GroupLint.Proofs.LineBounds
import Mathlib.Computability.Language

/-! Texts with a line that reads like a constant. The recogniser goes through a line character by
character; it accepts what a small grammar derives, and a text has such a line iff the expression for
constants is found in it between two line ends. -/
namespace GroupLint
open scoped Computability

namespace Text

def IsCapital (c : Char) : Prop := 'A' ≤ c ∧ c ≤ 'Z'

def IsWordChar (c : Char) : Prop := IsCapital c ∨ 'a' ≤ c ∧ c ≤ 'z' ∨ '0' ≤ c ∧ c ≤ '9' ∨ c = '_'

def IsSegment (s : List Char) : Prop := ∃ c r, s = c :: r ∧ IsCapital c ∧ ∀ d ∈ r, IsWordChar d

inductive Segments : List Char → Prop
  | last {s : List Char} : IsSegment s → Segments s
  | next {s r : List Char} : IsSegment s → Segments r → Segments (s ++ ':' :: ':' :: r)

inductive ConstantPath : List Char → Prop
  | relative {r : List Char} : Segments r → ConstantPath r
  | rooted {r : List Char} : Segments r → ConstantPath (':' :: ':' :: r)

section Grammar

theorem isUpper_iff {c : Char} : c.isUpper ↔ IsCapital c := by
  change decide ('A' ≤ c ∧ c ≤ 'Z') = true ↔ _
  rw [decide_eq_true_iff, IsCapital]

theorem between_iff {a b c : Char} : (decide (a ≤ c) && decide (c ≤ b)) = true ↔ a ≤ c ∧ c ≤ b := by
  rw [Bool.and_eq_true, decide_eq_true_iff, decide_eq_true_iff]

theorem isNameChar_iff {c : Char} : isNameChar c ↔ IsWordChar c := by
  have hlower : c.isLower ↔ 'a' ≤ c ∧ c ≤ 'z' := between_iff
  have hdigit : c.isDigit ↔ '0' ≤ c ∧ c ≤ '9' := between_iff
  change (c.isUpper || c.isLower || c.isDigit || c == '_') = true ↔ _
  rw [Bool.or_eq_true, Bool.or_eq_true, Bool.or_eq_true, isUpper_iff, hlower, hdigit, beq_iff_eq,
    or_assoc, or_assoc, IsWordChar]

theorem ne_colon_of_isWordChar {c : Char} (h : IsWordChar c) : c ≠ ':' := by
  rintro rfl
  revert h
  simp [IsWordChar, IsCapital]

theorem restOfPath_cons {c : Char} (h : IsWordChar c) (r : List Char) :
    restOfPath (c :: r) = restOfPath r := by
  rw [restOfPath, isNameChar_iff.mpr h, Bool.true_and]
  rintro r' rfl
  exact absurd rfl (ne_colon_of_isWordChar h)

theorem restOfPath_append {name : List Char} (h : ∀ c ∈ name, IsWordChar c) (r : List Char) :
    restOfPath (name ++ r) = restOfPath r := by
  induction name with
  | nil => rfl
  | cons c name ih =>
    obtain ⟨hc, hname⟩ := List.forall_mem_cons.mp h
    rw [List.cons_append, restOfPath_cons hc, ih hname]

theorem IsSegment.concat {s : List Char} {c : Char} (h : IsSegment s) (hc : IsWordChar c) :
    IsSegment (s ++ [c]) := by
  obtain ⟨d, r, rfl, hd, hr⟩ := h
  refine ⟨d, r ++ [c], rfl, hd, ?_⟩
  exact List.forall_mem_append.mpr ⟨hr, by simpa using hc⟩

/-- The rest of a path goes on with a further segment or with a character of the one at hand. -/
theorem restOfPath_cons_cases {c : Char} {r : List Char} (h : restOfPath (c :: r)) :
    (∃ q, c = ':' ∧ r = ':' :: q ∧ startsName q) ∨ IsWordChar c ∧ restOfPath r := by
  by_cases hcolons : ∃ q, c = ':' ∧ r = ':' :: q
  · obtain ⟨q, rfl, rfl⟩ := hcolons
    rw [restOfPath] at h
    exact Or.inl ⟨q, rfl, rfl, h⟩
  · rw [restOfPath] at h
    · exact Or.inr (by simpa [isNameChar_iff] using h)
    · intro q hc hr
      exact hcolons ⟨q, hc, hr⟩

mutual

theorem segments_of_startsName (cs : List Char) (h : startsName cs) : Segments cs := by
  cases cs with
  | nil => simp [startsName] at h
  | cons c r =>
    obtain ⟨hc, hr⟩ : IsCapital c ∧ restOfPath r := by simpa [startsName, isUpper_iff] using h
    exact segments_of_restOfPath r [c] ⟨c, [], rfl, hc, by simp⟩ hr
termination_by cs.length

theorem segments_of_restOfPath (r s : List Char) (hs : IsSegment s) (h : restOfPath r) :
    Segments (s ++ r) := by
  cases r with
  | nil =>
    rw [List.append_nil]
    exact .last hs
  | cons c r =>
    rcases restOfPath_cons_cases h with ⟨q, rfl, rfl, hq⟩ | ⟨hc, hr⟩
    · exact .next hs (segments_of_startsName q hq)
    · rw [← List.singleton_append, ← List.append_assoc]
      exact segments_of_restOfPath r (s ++ [c]) (hs.concat hc) hr
termination_by r.length

end

theorem startsName_of_segments {cs : List Char} (h : Segments cs) : startsName cs := by
  induction h with
  | last hs =>
    obtain ⟨c, r, rfl, hc, hr⟩ := hs
    have hrest : restOfPath r = true := by simpa [restOfPath] using restOfPath_append hr []
    rw [startsName, isUpper_iff.mpr hc, hrest, Bool.and_self]
  | @next s q hs _ ih =>
    obtain ⟨c, r, rfl, hc, hr⟩ := hs
    rw [List.cons_append, startsName, isUpper_iff.mpr hc, restOfPath_append hr, restOfPath, ih,
      Bool.and_self]

theorem startsName_iff {cs : List Char} : startsName cs ↔ Segments cs :=
  ⟨segments_of_startsName cs, startsName_of_segments⟩

theorem isConstantPath_iff {cs : List Char} : isConstantPath cs ↔ ConstantPath cs := by
  constructor
  · fun_cases isConstantPath cs with
    | case1 r =>
      intro h
      exact .rooted (startsName_iff.mp h)
    | case2 cs hcs =>
      intro h
      exact .relative (startsName_iff.mp h)
  · intro h
    cases h with
    | relative hr =>
      have hstart := startsName_iff.mpr hr
      rw [isConstantPath]
      · exact hstart
      · rintro q rfl
        simp [startsName] at hstart
    | @rooted r hr =>
      rw [isConstantPath]
      exact startsName_iff.mpr hr

end Grammar

section Expression

def oneOf (p : Char → Prop) : Language Char := {w | ∃ c, w = [c] ∧ p c}

def colons : Language Char := {[':', ':']}

def segmentExpression : Language Char := oneOf IsCapital * (oneOf IsWordChar)∗

def constantExpression : Language Char :=
  (1 + colons) * (segmentExpression * (colons * segmentExpression)∗)

theorem mem_kstar_oneOf_iff {p : Char → Prop} {w : List Char} : w ∈ (oneOf p)∗ ↔ ∀ c ∈ w, p c := by
  rw [Language.mem_kstar]
  constructor
  · rintro ⟨ws, rfl, hws⟩ c hc
    obtain ⟨w, hw, hcw⟩ := List.mem_flatten.mp hc
    obtain ⟨d, rfl, hd⟩ := hws w hw
    rwa [List.mem_singleton.mp hcw]
  · intro hw
    refine ⟨w.map fun c => [c], by rw [← List.flatMap_def, List.flatMap_singleton'], ?_⟩
    intro y hy
    obtain ⟨c, hc, rfl⟩ := List.mem_map.mp hy
    exact ⟨c, rfl, hw c hc⟩

theorem mem_segmentExpression_iff {s : List Char} : s ∈ segmentExpression ↔ IsSegment s := by
  rw [segmentExpression, Language.mem_mul]
  constructor
  · rintro ⟨_, ⟨c, rfl, hc⟩, r, hr, rfl⟩
    exact ⟨c, r, rfl, hc, mem_kstar_oneOf_iff.mp hr⟩
  · rintro ⟨c, r, rfl, hc, hr⟩
    exact ⟨[c], ⟨c, rfl, hc⟩, r, mem_kstar_oneOf_iff.mpr hr, rfl⟩

theorem segments_of_flatten {ws : List (List Char)} (hws : ∀ w ∈ ws, w ∈ colons * segmentExpression)
    {s : List Char} (hs : IsSegment s) : Segments (s ++ ws.flatten) := by
  induction ws generalizing s with
  | nil =>
    rw [List.flatten_nil, List.append_nil]
    exact .last hs
  | cons w ws ih =>
    obtain ⟨hw, hrest⟩ := List.forall_mem_cons.mp hws
    obtain ⟨_, rfl, t, ht, rfl⟩ := Language.mem_mul.mp hw
    rw [List.flatten_cons, List.append_assoc]
    exact .next hs (ih hrest (mem_segmentExpression_iff.mp ht))

theorem mem_segments_iff {cs : List Char} :
    cs ∈ segmentExpression * (colons * segmentExpression)∗ ↔ Segments cs := by
  constructor
  · rintro ⟨s, hs, _, ⟨ws, rfl, hws⟩, rfl⟩
    exact segments_of_flatten hws (mem_segmentExpression_iff.mp hs)
  · intro h
    induction h with
    | @last s hs =>
      rw [← List.append_nil s]
      exact Language.append_mem_mul (mem_segmentExpression_iff.mpr hs) (Language.nil_mem_kstar _)
    | @next s r hs _ ih =>
      obtain ⟨t, ht, _, ⟨ws, rfl, hws⟩, rfl⟩ := ih
      have hfirst : ':' :: ':' :: t ∈ colons * segmentExpression :=
        Language.append_mem_mul (a := [':', ':']) rfl ht
      have hall : ((':' :: ':' :: t) :: ws).flatten ∈ (colons * segmentExpression)∗ :=
        Language.join_mem_kstar (List.forall_mem_cons.mpr ⟨hfirst, hws⟩)
      exact Language.append_mem_mul (mem_segmentExpression_iff.mpr hs) hall

theorem mem_constantExpression_iff {cs : List Char} :
    cs ∈ constantExpression ↔ ConstantPath cs := by
  rw [constantExpression, Language.mem_mul]
  constructor
  · rintro ⟨_, rfl | rfl, r, hr, rfl⟩
    · exact .relative (mem_segments_iff.mp hr)
    · exact .rooted (mem_segments_iff.mp hr)
  · intro h
    cases h with
    | relative hr => exact ⟨[], Or.inl rfl, cs, mem_segments_iff.mpr hr, rfl⟩
    | @rooted r hr => exact ⟨[':', ':'], Or.inr rfl, r, mem_segments_iff.mpr hr, rfl⟩

end Expression

section Lines

theorem ne_newline_of_segments {cs : List Char} (h : Segments cs) : ∀ c ∈ cs, c ≠ '\n' := by
  have hword : ∀ c, IsWordChar c → c ≠ '\n' := by
    rintro c hc rfl
    revert hc
    simp [IsWordChar, IsCapital]
  have hsegment : ∀ s, IsSegment s → ∀ c ∈ s, c ≠ '\n' := by
    rintro s ⟨c, r, rfl, hc, hr⟩
    exact List.forall_mem_cons.mpr ⟨hword c (Or.inl hc), fun d hd => hword d (hr d hd)⟩
  induction h with
  | last hs => exact hsegment _ hs
  | next hs _ ih => simpa [or_imp, forall_and] using ⟨hsegment _ hs, ih⟩

theorem ConstantPath.ne_newline {cs : List Char} (h : ConstantPath cs) : ∀ c ∈ cs, c ≠ '\n' := by
  cases h with
  | relative hr => exact ne_newline_of_segments hr
  | rooted hr => simpa using ne_newline_of_segments hr

theorem hasConstantLine_iff {cs : List Char} : hasConstantLine cs ↔
    ∃ before line after, cs = before ++ line ++ after ∧ Delimited isNewline before line after ∧
      ConstantPath line := by
  rw [hasConstantLine, List.any_eq_true]
  simp only [mem_newlineLines_iff, isConstantPath_iff]
  constructor
  · rintro ⟨line, ⟨before, after, hcs, hd⟩, hline⟩
    exact ⟨before, line, after, hcs, hd, hline⟩
  · rintro ⟨before, line, after, hcs, hd, hline⟩
    exact ⟨line, ⟨before, after, hcs, hd⟩, hline⟩

/-- The expression for constants is found in a text, at the start of a line and up to the end of
one. -/
def FindsConstant (cs : List Char) : Prop :=
  ∃ before found after, cs = before ++ found ++ after ∧ (∀ c ∈ before.getLast?, c = '\n') ∧
    (∀ c ∈ after.head?, c = '\n') ∧ found ∈ constantExpression

theorem findsConstant_iff {cs : List Char} : FindsConstant cs ↔
    ∃ before line after, cs = before ++ line ++ after ∧ Delimited isNewline before line after ∧
      ConstantPath line := by
  have hnewline : ∀ c, isNewline c ↔ c = '\n' := fun c => beq_iff_eq
  constructor
  · rintro ⟨before, found, after, hcs, hstarts, hends, hfound⟩
    have hpath := mem_constantExpression_iff.mp hfound
    refine ⟨before, found, after, hcs, ⟨?_, ?_, ?_⟩, hpath⟩
    · intro c hc
      simpa [isNewline] using hpath.ne_newline c hc
    · intro c hc
      exact (hnewline c).mpr (hstarts c hc)
    · intro c hc
      exact (hnewline c).mpr (hends c hc)
  · rintro ⟨before, line, after, hcs, hd, hpath⟩
    refine ⟨before, line, after, hcs, ?_, ?_, mem_constantExpression_iff.mpr hpath⟩
    · intro c hc
      exact (hnewline c).mp (hd.starts c hc)
    · intro c hc
      exact (hnewline c).mp (hd.ends c hc)

end Lines
end Text

theorem isStringConstant_iff_hasConstantLine {s : Slot} : isStringConstant s ↔
    ∃ n, s = some n ∧ n.kind = "str" ∧ Text.hasConstantLine (n.value.getD "").toList := by
  cases s <;> simp [isStringConstant]

/-- A string is taken for a constant iff one of its lines is derived by the grammar, or what is the
same, iff the expression for constants is found in it from one line end to another. -/
theorem isStringConstant_iff_derivable_line (s : Slot) :
    (isStringConstant s ↔ ∃ n, s = some n ∧ n.kind = "str" ∧
      ∃ before line after, (n.value.getD "").toList = before ++ line ++ after ∧
        Text.Delimited Text.isNewline before line after ∧ Text.ConstantPath line) ∧
    (isStringConstant s ↔ ∃ n, s = some n ∧ n.kind = "str" ∧
      Text.FindsConstant (n.value.getD "").toList) := by
  constructor
  · simp only [isStringConstant_iff_hasConstantLine, Text.hasConstantLine_iff]
  · simp only [isStringConstant_iff_hasConstantLine, Text.hasConstantLine_iff, Text.findsConstant_iff]

end GroupLint
