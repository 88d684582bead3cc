import GroupLint.Proofs.ByteOffsets
import GroupLint.Syntax.Concrete

/-! The text under a span. No encoding of a character begins inside the encoding of another, so bytes
cut out of a source are the encoding of a text only where both cuts fall between characters. -/
namespace GroupLint

namespace Text.Utf8

section Cuts

theorem not_isContinuation_of_spells {c : Char} {a : UInt8} {tail : List UInt8} (h : Spells c a tail) :
    ¬ isContinuation a := by
  obtain ⟨w1, w2, w3, w4, -⟩ := width_eq_iff a
  rw [isContinuation_iff]
  cases h with
  | one hw => omega
  | two hw => omega
  | three hw => omega
  | four hw => omega

theorem isContinuation_of_isSecond {a b : UInt8} (h : isSecond a b) : isContinuation b := by
  rw [isSecond_iff] at h
  rw [isContinuation_iff]
  exact ⟨h.1, h.2.1⟩

theorem isContinuation_of_mem_tail {c : Char} {a : UInt8} {tail : List UInt8} (h : Spells c a tail) :
    ∀ b ∈ tail, isContinuation b := by
  cases h with
  | one hw => simp
  | two hw hb => simpa using isContinuation_of_isSecond hb
  | three hw hb hc => simpa using ⟨isContinuation_of_isSecond hb, hc⟩
  | four hw hb hc hd => simpa using ⟨isContinuation_of_isSecond hb, hc, hd⟩

theorem encode_begins {cs : List Char} (hne : cs ≠ []) :
    ∃ a rest, encode cs = a :: rest ∧ ¬ isContinuation a := by
  cases cs with
  | nil => exact absurd rfl hne
  | cons c cs =>
    obtain ⟨a, tail, he, hs⟩ := exists_spells c
    have hbytes : encode (c :: cs) = a :: (tail ++ encode cs) := by
      rw [encode_cons, he, List.cons_append]
    exact ⟨a, _, hbytes, not_isContinuation_of_spells hs⟩

theorem prefix_of_encode_append {source text : List Char} {rest : List UInt8}
    (h : encode source = encode text ++ rest) : text <+: source := by
  have hscan := congrArg scan h
  rw [scan_encode, scan_encode_append, List.map_eq_append_iff] at hscan
  obtain ⟨front, after, rfl, hfront, -⟩ := hscan
  obtain rfl := List.map_injective_iff.mpr (fun _ _ => Option.some.inj) hfront
  exact List.prefix_append front after

/-- Where the encoding of a text stands in that of a source, the text stands in the source. -/
theorem exists_parts_of_encode {text : List Char} (hne : text ≠ []) {rest : List UInt8}
    {source : List Char} {front : List UInt8} (h : encode source = front ++ (encode text ++ rest)) :
    ∃ before after, source = before ++ text ++ after ∧ front = encode before := by
  induction source generalizing front with
  | nil =>
    obtain ⟨a, r, he, -⟩ := encode_begins hne
    rw [he] at h
    simp [encode] at h
  | cons c cs ih =>
    cases front with
    | nil =>
      obtain ⟨after, hafter⟩ := prefix_of_encode_append h
      exact ⟨[], after, hafter.symm, rfl⟩
    | cons b front =>
      obtain ⟨a, tail, he, hs⟩ := exists_spells c
      rw [encode_cons, he, List.cons_append, List.cons_append] at h
      obtain ⟨rfl, hrest⟩ := List.cons.inj h
      -- The text begins after all the bytes of `c`, or where some of them are still to come.
      obtain ⟨mid, rfl, hmid⟩ | ⟨mid, rfl, hmid⟩ := List.append_eq_append_iff.mp hrest
      · obtain ⟨before, after, rfl, rfl⟩ := ih hmid
        exact ⟨c :: before, after, rfl, by rw [encode_cons, he, List.cons_append]⟩
      · cases mid with
        | nil =>
          obtain ⟨before, after, rfl, hnil⟩ := @ih [] hmid.symm
          refine ⟨c :: before, after, rfl, ?_⟩
          rw [encode_cons, he, ← hnil, List.append_nil, List.append_nil]
        | cons b mid =>
          -- The encoding of the text would begin inside that of `c`.
          obtain ⟨d, r, htext, hd⟩ := encode_begins hne
          rw [htext] at hmid
          obtain ⟨rfl, -⟩ := List.cons.inj hmid
          exact absurd (isContinuation_of_mem_tail hs d (by simp)) hd

end Cuts

end Text.Utf8

open Text.Utf8

section Slice

theorem place_le (n : Nat) (offset : Int) : place n offset ≤ n := by
  rw [place]
  split <;> omega

theorem place_of_nonneg {n : Nat} {offset : Int} (h : 0 ≤ offset) :
    (place n offset : Int) = min offset n := by
  rw [place, if_neg (by omega)]
  omega

variable {bytes : List UInt8} {start stop : Int}

theorem slice_of_place_le (h : place bytes.length stop ≤ place bytes.length start) :
    slice bytes start stop = [] := by
  rw [slice, List.drop_eq_nil_iff, List.length_take]
  omega

theorem append_slice_append (h : place bytes.length start ≤ place bytes.length stop) :
    bytes = bytes.take (place bytes.length start) ++
      (slice bytes start stop ++ bytes.drop (place bytes.length stop)) := by
  have hfront : bytes.take (place bytes.length start) =
      (bytes.take (place bytes.length stop)).take (place bytes.length start) := by
    rw [List.take_take, Nat.min_eq_left h]
  rw [hfront, slice, ← List.append_assoc, List.take_append_drop, List.take_append_drop]

theorem length_slice : (slice bytes start stop).length =
    place bytes.length stop - place bytes.length start := by
  have hle := place_le bytes.length stop
  rw [slice, List.length_drop, List.length_take]
  omega

end Slice

namespace Span

variable {source : List Char} {s : Span}

theorem exists_parts_of_text? {text : List Char}
    (h : place (byteLength source) s.start < place (byteLength source) s.stop)
    (htext : s.text? (encode source) = some text) :
    ∃ before after, source = before ++ text ++ after ∧
      place (byteLength source) s.start = byteLength before ∧
      place (byteLength source) s.stop = byteLength (before ++ text) := by
  have hslice : slice (encode source) s.start s.stop = encode text := decode?_eq_some_iff.mp htext
  have hlength : byteLength text =
      place (byteLength source) s.stop - place (byteLength source) s.start := by
    rw [byteLength, ← hslice, length_slice, ← byteLength]
  have hne : text ≠ [] := by
    rintro rfl
    have hzero : byteLength [] = 0 := rfl
    omega
  have hparts := append_slice_append h.le
  rw [hslice] at hparts
  obtain ⟨before, after, hsource, hfront⟩ := exists_parts_of_encode hne hparts
  have hstart : place (byteLength source) s.start = byteLength before := by
    have hle := place_le (byteLength source) s.start
    have hcount := congrArg List.length hfront
    rwa [List.length_take, ← byteLength, ← byteLength, Nat.min_eq_left hle] at hcount
  refine ⟨before, after, hsource, hstart, ?_⟩
  rw [byteLength_append]
  omega

theorem text?_of_places {before text after : List Char} (hsource : source = before ++ text ++ after)
    (hstart : place (byteLength source) s.start = byteLength before)
    (hstop : place (byteLength source) s.stop = byteLength (before ++ text)) :
    s.text? (encode source) = some text := by
  rw [text?, decode?_eq_some_iff, slice, ← byteLength, hstart, hstop, hsource, encode_append,
    byteLength, byteLength, List.take_left, encode_append, List.drop_left]

theorem text?_of_parts {before text after : List Char} (hsource : source = before ++ text ++ after)
    (hstart : s.start = byteLength before) (hstop : s.stop = byteLength (before ++ text)) :
    s.text? (encode source) = some text := by
  rw [text?, hstart, hstop, hsource, slice_encode, decode?_eq_some_iff]

/-- The text of a span between two boundaries is what lies between them. -/
theorem text?_of_boundaries {upTo : List Char} (hupTo : upTo <+: source)
    (hstart : s.start = byteLength upTo) (hstop : IsBoundary source s.stop) (hle : s.start ≤ s.stop) :
    ∃ text after, source = upTo ++ text ++ after ∧ s.text? (encode source) = some text := by
  obtain ⟨stopped, hstopped, hend⟩ := hstop
  obtain ⟨text, rfl⟩ := prefix_of_byteLength_le hupTo hstopped (by omega)
  obtain ⟨after, rfl⟩ := hstopped
  exact ⟨text, after, rfl, text?_of_parts rfl hstart hend⟩

theorem exists_text?_iff (h : place (byteLength source) s.start < place (byteLength source) s.stop) :
    (∃ text, s.text? (encode source) = some text) ↔
      IsBoundary source (place (byteLength source) s.start) ∧
        IsBoundary source (place (byteLength source) s.stop) := by
  constructor
  · rintro ⟨text, htext⟩
    obtain ⟨before, after, hsource, hstart, hstop⟩ := exists_parts_of_text? h htext
    have hbefore : before <+: source := ⟨text ++ after, by rw [hsource, List.append_assoc]⟩
    have hupTo : before ++ text <+: source := ⟨after, hsource.symm⟩
    rw [hstart, hstop]
    exact ⟨⟨before, hbefore, rfl⟩, ⟨before ++ text, hupTo, rfl⟩⟩
  · rintro ⟨⟨before, hbefore, hstart⟩, ⟨stopped, hstopped, hstop⟩⟩
    obtain ⟨text, rfl⟩ := prefix_of_byteLength_le hbefore hstopped (by omega)
    obtain ⟨after, hsource⟩ := hstopped
    exact ⟨text, text?_of_places hsource.symm (by omega) (by omega)⟩

theorem text?_append_text? {x y z : Int} (hx : IsBoundary source x) (hy : IsBoundary source y)
    (hz : IsBoundary source z) (hxy : x ≤ y) (hyz : y ≤ z) :
    ∃ first second, { s with start := x, stop := y }.text? (encode source) = some first ∧
      { s with start := y, stop := z }.text? (encode source) = some second ∧
      { s with start := x, stop := z }.text? (encode source) = some (first ++ second) := by
  obtain ⟨before, hbefore, hx⟩ := hx
  obtain ⟨upTo, hupTo, hy⟩ := hy
  obtain ⟨stopped, hstopped, hz⟩ := hz
  obtain ⟨first, rfl⟩ := prefix_of_byteLength_le hbefore hupTo (by omega)
  obtain ⟨second, rfl⟩ := prefix_of_byteLength_le hupTo hstopped (by omega)
  obtain ⟨after, hsource⟩ := hstopped
  have hstop : z = byteLength (before ++ (first ++ second)) := by rw [← List.append_assoc, hz]
  have hfirst : source = before ++ first ++ (second ++ after) := by
    rw [← hsource, List.append_assoc]
  have hboth : source = before ++ (first ++ second) ++ after := by
    rw [← hsource, List.append_assoc before]
  exact ⟨first, second, text?_of_parts hfirst hx hy, text?_of_parts hsource.symm hy hz,
    text?_of_parts hboth hx hstop⟩

/-- With offsets clipped to the source, a span that is not empty can be read iff it begins and ends
between characters; it then reads as what stands there, which is also what a node of that extent
reads as. Texts of adjacent spans join. -/
theorem reads_iff_boundaries (source : List Char) (s : Span) (hstart : 0 ≤ s.start)
    (hstop : 0 ≤ s.stop) :
    let start : Int := min s.start (byteLength source)
    let stop : Int := min s.stop (byteLength source)
    (stop ≤ start → s.text? (encode source) = some []) ∧
      (start < stop →
        ((∃ text, s.text? (encode source) = some text) ↔
          IsBoundary source start ∧ IsBoundary source stop) ∧
        ∀ text, s.text? (encode source) = some text ↔
          ∃ before after, source = before ++ text ++ after ∧ start = byteLength before ∧
            stop = byteLength (before ++ text)) ∧
      (∀ text, s.text? (encode source) = some text →
        ∀ c : Concrete, c.extent.start = s.start → c.extent.stop = s.stop →
          c.text (encode source) = text) ∧
      ∀ x y z, IsBoundary source x → IsBoundary source y → IsBoundary source z → x ≤ y → y ≤ z →
        ∃ first second, { s with start := x, stop := y }.text? (encode source) = some first ∧
          { s with start := y, stop := z }.text? (encode source) = some second ∧
          { s with start := x, stop := z }.text? (encode source) = some (first ++ second) := by
  rw [← place_of_nonneg hstart, ← place_of_nonneg hstop]
  intro start stop
  refine ⟨?_, ?_, ?_, fun x y z => text?_append_text?⟩
  · intro h
    rw [text?, slice_of_place_le (Int.ofNat_le.mp h)]
    rfl
  · intro h
    have hlt := Int.ofNat_lt.mp h
    refine ⟨exists_text?_iff hlt, fun text => ⟨?_, ?_⟩⟩
    · intro htext
      obtain ⟨before, after, hsource, hbefore, hend⟩ := exists_parts_of_text? hlt htext
      exact ⟨before, after, hsource, congrArg _ hbefore, congrArg _ hend⟩
    · rintro ⟨before, after, hsource, hbefore, hend⟩
      exact text?_of_places hsource (Int.ofNat.inj hbefore) (Int.ofNat.inj hend)
  · intro text htext c hfrom hto
    rw [Concrete.text, hfrom, hto, decode?_eq_some_iff.mp htext, decodeLossy_encode]

def wideCharacters : List Char := "aé漢😀".toList

theorem reads_wideCharacters :
    let s : Span := ⟨1, 99, 1, 1⟩
    let inside : Span := ⟨2, 99, 1, 2⟩
    0 ≤ s.start ∧ 0 ≤ s.stop ∧ s.text? (encode wideCharacters) = some "é漢😀".toList ∧
      inside.text? (encode wideCharacters) = none ∧ IsBoundary wideCharacters 1 ∧
      ¬ IsBoundary wideCharacters 2 := by
  intro s inside
  have hread := (reads_iff_boundaries wideCharacters s (by decide) (by decide)).2.1 (by decide)
  have hcut := (reads_iff_boundaries wideCharacters inside (by decide) (by decide)).2.1 (by decide)
  have htext : s.text? (encode wideCharacters) = some "é漢😀".toList :=
    (hread.2 _).mpr ⟨['a'], [], by decide, by decide, by decide⟩
  have hnone : inside.text? (encode wideCharacters) = none := by decide
  have hends := hread.1.mp ⟨_, htext⟩
  refine ⟨by decide, by decide, htext, hnone, hends.1, ?_⟩
  intro h
  obtain ⟨text, hsome⟩ := hcut.1.mpr ⟨h, hends.2⟩
  rw [hnone] at hsome
  cases hsome

end Span
end GroupLint
