import GroupLint.Syntax.Span
import GroupLint.Proofs.LineBounds
import GroupLint.Proofs.Utf8

/-! Offsets count bytes, and lines are lists of characters. At a boundary between characters the two
agree: the line and the column of a place, counted in bytes, say where it stands among the
characters. -/
namespace GroupLint

namespace Text.Utf8

def byteLength (cs : List Char) : Nat := (encode cs).length

section Encoding

theorem encode_append (a b : List Char) : encode (a ++ b) = encode a ++ encode b := by
  rw [encode, List.flatMap_append, encode, encode]

theorem byteLength_append (a b : List Char) : byteLength (a ++ b) = byteLength a + byteLength b := by
  rw [byteLength, encode_append, List.length_append, byteLength, byteLength]

theorem decodeSkipping_encode (cs : List Char) : decodeSkipping (encode cs) = cs := by
  rw [decodeSkipping, scan_encode, List.filterMap_map]
  exact List.filterMap_some

theorem decodeLossy_encode (cs : List Char) : decodeLossy (encode cs) = cs := by
  rw [decodeLossy, scan_encode, List.map_map]
  exact List.map_id cs

theorem byteLength_pos {cs : List Char} (h : cs ≠ []) : 0 < byteLength cs := by
  cases cs with
  | nil => exact absurd rfl h
  | cons c cs =>
    obtain ⟨a, tail, he, -⟩ := exists_spells c
    rw [byteLength, encode_cons, he, List.length_append, List.length_cons]
    omega

theorem prefix_of_byteLength_le {a b source : List Char} (ha : a <+: source) (hb : b <+: source)
    (h : byteLength a ≤ byteLength b) : a <+: b := by
  rcases List.prefix_or_prefix_of_prefix ha hb with hab | hba
  · exact hab
  · obtain ⟨c, rfl⟩ := hba
    rw [byteLength_append] at h
    have hc : c = [] := by
      by_contra hne
      have hpos := byteLength_pos hne
      omega
    exact ⟨[], by rw [hc, List.append_nil, List.append_nil]⟩

end Encoding

section Newlines

theorem high_of_spells {c : Char} {a : UInt8} {tail : List UInt8} (h : Spells c a tail)
    (hne : tail ≠ []) : ∀ b ∈ a :: tail, 0x80 ≤ b.toNat := by
  obtain ⟨-, w2, w3, w4, -⟩ := width_eq_iff a
  cases h with
  | one hw => exact absurd rfl hne
  | two hw hb =>
    rw [w2] at hw
    rw [isSecond_iff] at hb
    simp only [List.forall_mem_cons, List.not_mem_nil, false_implies, implies_true, and_true]
    omega
  | three hw hb hc =>
    rw [w3] at hw
    rw [isSecond_iff] at hb
    rw [isContinuation_iff] at hc
    simp only [List.forall_mem_cons, List.not_mem_nil, false_implies, implies_true, and_true]
    omega
  | four hw hb hc hd =>
    rw [w4] at hw
    rw [isSecond_iff] at hb
    rw [isContinuation_iff] at hc hd
    simp only [List.forall_mem_cons, List.not_mem_nil, false_implies, implies_true, and_true]
    omega

/-- No other character has the byte of a newline in its encoding. -/
theorem newline_mem_utf8EncodeChar_iff {c : Char} : 10 ∈ String.utf8EncodeChar c ↔ c = '\n' := by
  constructor
  · intro h
    obtain ⟨a, tail, he, hs⟩ := exists_spells c
    rw [he] at h
    by_cases hne : tail = []
    · subst hne
      cases hs with
      | one hw =>
        rw [← List.mem_singleton.mp h]
        rfl
    · have hhigh := high_of_spells hs hne 10 h
      simp at hhigh
  · rintro rfl
    decide

theorem newline_mem_encode_iff {cs : List Char} : 10 ∈ encode cs ↔ '\n' ∈ cs := by
  simp only [encode, List.mem_flatMap, newline_mem_utf8EncodeChar_iff, exists_eq_right]

theorem count_newline_encode (cs : List Char) : (encode cs).count 10 = cs.countP isNewline := by
  induction cs with
  | nil => rfl
  | cons c cs ih =>
    rw [encode_cons, List.count_append, ih, List.countP_cons, Nat.add_comm]
    by_cases hc : c = '\n'
    · subst hc
      rfl
    · have hnone : (String.utf8EncodeChar c).count 10 = 0 :=
        List.count_eq_zero.mpr fun h => hc (newline_mem_utf8EncodeChar_iff.mp h)
      rw [hnone, if_neg (by simpa [isNewline] using hc)]

theorem takeWhile_reverse_encode {before head : List Char} (hhead : ∀ c ∈ head, isNewline c = false)
    (hbefore : ∀ c ∈ before.getLast?, isNewline c) :
    (encode (before ++ head)).reverse.takeWhile (· != 10) = (encode head).reverse := by
  have hfree : ∀ b ∈ (encode head).reverse, (b != 10) = true := by
    intro b hb
    rw [bne_iff_ne]
    rintro rfl
    have hmem := newline_mem_encode_iff.mp (List.mem_reverse.mp hb)
    simpa [isNewline] using hhead '\n' hmem
  have hstop : (encode before).reverse.takeWhile (· != 10) = [] := by
    cases before using List.reverseRecOn with
    | nil => rfl
    | append_singleton before c =>
      obtain rfl : c = '\n' := by simpa [isNewline] using hbefore c List.getLast?_concat
      rw [encode_append, List.reverse_append]
      rfl
  rw [encode_append, List.reverse_append, List.takeWhile_append_of_pos hfree, hstop, List.append_nil]

end Newlines

end Text.Utf8

section Slice
open Text.Utf8

theorem slice_encode (before mid after : List Char) :
    slice (encode (before ++ mid ++ after)) (byteLength before) (byteLength (before ++ mid)) =
      encode mid := by
  have hplace : ∀ n k : Nat, k ≤ n → place n k = k := by
    intro n k hk
    rw [place, if_neg (by omega)]
    omega
  have hlength : (encode (before ++ mid ++ after)).length =
      byteLength before + byteLength mid + byteLength after := by
    rw [← byteLength, byteLength_append, byteLength_append]
  rw [slice, hplace _ _ (by rw [hlength]; omega), hplace _ _ (by rw [hlength, byteLength_append]; omega),
    byteLength, byteLength, encode_append (before ++ mid), List.take_left, encode_append,
    List.drop_left]

end Slice

section Place
open Text Text.Utf8

/-- A place between two characters of a source, or at an end of it. -/
def IsBoundary (source : List Char) (offset : Int) : Prop :=
  ∃ before, before <+: source ∧ offset = byteLength before

/-- The line and the column of a span are those of its start, which is a boundary. -/
structure Span.AgreesWith (s : Span) (source : List Char) : Prop where
  boundary : IsBoundary source s.start
  line : s.line = 1 + ((encode source).take s.start.toNat).count 10
  column : s.column = (((encode source).take s.start.toNat).reverse.takeWhile (· != 10)).length

/-- Where a span begins among the characters: `head` is what its line has before it. -/
theorem Span.AgreesWith.exists_head {s : Span} {source : List Char} (h : s.AgreesWith source) :
    ∃ before head rest, source = before ++ head ++ rest ∧ s.start = byteLength (before ++ head) ∧
      s.line = 1 + before.countP isNewline ∧ s.column = byteLength head ∧
      (∀ c ∈ before.getLast?, isNewline c) ∧ ∀ c ∈ head, isNewline c = false := by
  obtain ⟨upTo, ⟨rest, rfl⟩, hstart⟩ := h.boundary
  obtain ⟨before, head, rfl, hbefore, hhead⟩ := exists_line_start isNewline upTo
  have htake : (encode (before ++ head ++ rest)).take s.start.toNat = encode (before ++ head) := by
    rw [hstart, Int.toNat_natCast, encode_append, byteLength, List.take_left]
  have hline := h.line
  have hcolumn := h.column
  rw [htake, count_newline_encode, List.countP_append, countP_eq_zero_of_free hhead,
    Nat.add_zero] at hline
  rw [htake, takeWhile_reverse_encode hhead hbefore, List.length_reverse, ← byteLength] at hcolumn
  exact ⟨before, head, rest, rfl, hstart, hline, hcolumn, hbefore, hhead⟩

def LineAt (source : List Char) (offset : Int) (line : List Char) : Prop :=
  ∃ before after, source = before ++ line ++ after ∧ Delimited isNewline before line after ∧
    byteLength before ≤ offset ∧ offset ≤ byteLength (before ++ line)

theorem lineAt_iff {before head : List Char} (hbefore : ∀ c ∈ before.getLast?, isNewline c)
    (hhead : ∀ c ∈ head, isNewline c = false) {rest line : List Char} :
    LineAt (before ++ head ++ rest) (byteLength (before ++ head)) line ↔
      line = head ++ rest.takeWhile fun c => !isNewline c := by
  have hown := delimited_takeWhile hbefore hhead rest
  have hsource := append_takeWhile_append_dropWhile (fun c => !isNewline c) before head rest
  constructor
  · rintro ⟨b, a, htext, hd, hfrom, hto⟩
    have hupTo : before ++ head <+: before ++ head ++ rest := List.prefix_append _ _
    have hb : b <+: before ++ head ++ rest := ⟨line ++ a, by rw [htext, List.append_assoc]⟩
    have hbl : b ++ line <+: before ++ head ++ rest := ⟨a, htext.symm⟩
    -- What the line has up to the offset holds no newline, so both lines are named alike.
    obtain ⟨x, hx⟩ := prefix_of_byteLength_le hb hupTo (by omega)
    have hxl : x <+: line := by
      have hend := prefix_of_byteLength_le hupTo hbl (by omega)
      rwa [← hx, List.prefix_append_right_inj] at hend
    have hcount : b.countP isNewline = before.countP isNewline := by
      have hsum := congrArg (List.countP isNewline) hx
      rw [List.countP_append, List.countP_append, countP_eq_zero_of_free hhead,
        countP_eq_zero_of_free fun c hc => hd.free c (hxl.subset hc)] at hsum
      omega
    exact hd.line_eq hown (htext.symm.trans hsource.symm) hcount
  · rintro rfl
    refine ⟨before, _, hsource.symm, hown, ?_, ?_⟩
    · rw [byteLength_append]
      omega
    · rw [byteLength_append, byteLength_append, byteLength_append]
      omega

end Place
end GroupLint
