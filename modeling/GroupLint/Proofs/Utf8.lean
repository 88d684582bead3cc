import GroupLint.Text.Utf8
import Mathlib.Data.List.Basic

/-! UTF-8 there and back. A piece is a character iff the bytes at hand begin with the encoding of that
character, so that the strict reading accepts the encodings of texts and nothing else. -/
namespace GroupLint.Text.Utf8

theorem width_eq_iff (a : UInt8) :
    (width a = 1 ↔ a.toNat < 0x80) ∧ (width a = 2 ↔ 0xC2 ≤ a.toNat ∧ a.toNat < 0xE0) ∧
      (width a = 3 ↔ 0xE0 ≤ a.toNat ∧ a.toNat < 0xF0) ∧
      (width a = 4 ↔ 0xF0 ≤ a.toNat ∧ a.toNat < 0xF5) ∧ width a ≤ 4 := by
  simp only [width, UInt8.lt_iff_toNat_lt, UInt8.reduceToNat]
  split_ifs <;> simp <;> omega

theorem isContinuation_iff {b : UInt8} : isContinuation b ↔ 0x80 ≤ b.toNat ∧ b.toNat ≤ 0xBF := by
  simp [isContinuation, UInt8.le_iff_toNat_le]

theorem isSecond_iff {a b : UInt8} :
    isSecond a b ↔ 0x80 ≤ b.toNat ∧ b.toNat ≤ 0xBF ∧ (a.toNat = 0xE0 → 0xA0 ≤ b.toNat) ∧
      (a.toNat = 0xED → b.toNat ≤ 0x9F) ∧ (a.toNat = 0xF0 → 0x90 ≤ b.toNat) ∧
      (a.toNat = 0xF4 → b.toNat ≤ 0x8F) := by
  simp only [isSecond, isContinuation, beq_iff_eq, ← UInt8.toNat_inj, UInt8.reduceToNat]
  split_ifs <;> simp only [Bool.and_eq_true, decide_eq_true_eq, UInt8.le_iff_toNat_le,
    UInt8.reduceToNat] <;> omega

/-- A lead byte and the bytes after it that are the encoding of a character. -/
inductive Spells : Char → UInt8 → List UInt8 → Prop
  | one {a : UInt8} : width a = 1 → Spells (Char.ofNat a.toNat) a []
  | two {a b : UInt8} : width a = 2 → isSecond a b → Spells (two a b) a [b]
  | three {a b c : UInt8} : width a = 3 → isSecond a b → isContinuation c →
    Spells (three a b c) a [b, c]
  | four {a b c d : UInt8} : width a = 4 → isSecond a b → isContinuation c → isContinuation d →
    Spells (four a b c d) a [b, c, d]

theorem piece_of_spells {c : Char} {a : UInt8} {tail : List UInt8} (h : Spells c a tail)
    (rest : List UInt8) : piece a (tail ++ rest) = (some c, tail.length) := by
  cases h with
  | one hw => simp [piece, hw]
  | two hw hb => simp [piece, hw, hb]
  | three hw hb hc => simp [piece, hw, hb, hc]
  | four hw hb hc hd => simp [piece, hw, hb, hc, hd]

theorem spells_of_piece {c : Char} {a : UInt8} {r : List UInt8} {k : Nat}
    (h : piece a r = (some c, k)) :
    ∃ tail rest, r = tail ++ rest ∧ k = tail.length ∧ Spells c a tail := by
  have hle := (width_eq_iff a).2.2.2.2
  obtain hw | hw | hw | hw | hw : width a = 0 ∨ width a = 1 ∨ width a = 2 ∨ width a = 3 ∨ width a = 4 := by
    omega
  · simp [piece, hw] at h
  · obtain ⟨rfl, rfl⟩ : Char.ofNat a.toNat = c ∧ 0 = k := by simpa [piece, hw] using h
    exact ⟨[], r, rfl, rfl, .one hw⟩
  · rcases r with _ | ⟨x, r⟩
    · simp [piece, hw] at h
    · by_cases hx : isSecond a x
      · obtain ⟨rfl, rfl⟩ : two a x = c ∧ 1 = k := by simpa [piece, hw, hx] using h
        exact ⟨[x], r, rfl, rfl, .two hw hx⟩
      · simp [piece, hw, hx] at h
  · rcases r with _ | ⟨x, _ | ⟨y, r⟩⟩
    · simp [piece, hw] at h
    · simp [piece, hw] at h
    · by_cases hx : isSecond a x <;> by_cases hy : isContinuation y <;> simp [piece, hw, hx, hy] at h
      obtain ⟨rfl, rfl⟩ := h
      exact ⟨[x, y], r, rfl, rfl, .three hw hx hy⟩
  · rcases r with _ | ⟨x, _ | ⟨y, _ | ⟨z, r⟩⟩⟩
    · simp [piece, hw] at h
    · simp [piece, hw] at h
    · simp [piece, hw] at h
    · by_cases hx : isSecond a x <;> by_cases hy : isContinuation y <;> by_cases hz : isContinuation z <;>
        simp [piece, hw, hx, hy, hz] at h
      obtain ⟨rfl, rfl⟩ := h
      exact ⟨[x, y, z], r, rfl, rfl, .four hw hx hy hz⟩

theorem toNat_ofNat_of_valid {n : Nat} (h : n.isValidChar) : (Char.ofNat n).val.toNat = n := by
  rw [Char.ofNat, dif_pos h]
  rfl

theorem utf8EncodeChar_of_spells {c : Char} {a : UInt8} {tail : List UInt8} (h : Spells c a tail) :
    String.utf8EncodeChar c = a :: tail := by
  obtain ⟨w1, w2, w3, w4, -⟩ := width_eq_iff a
  cases h with
  | one hw =>
    rw [w1] at hw
    have hn : (Char.ofNat a.toNat).val.toNat = a.toNat := toNat_ofNat_of_valid (by omega)
    simp only [String.utf8EncodeChar, hn]
    rw [if_pos (by omega), UInt8.ofNat_toNat]
  | @two _ b hw hb =>
    rw [w2] at hw
    rw [isSecond_iff] at hb
    have hv : (a.toNat % 32 * 64 + b.toNat % 64).isValidChar := by omega
    have hn : (two a b).val.toNat = a.toNat % 32 * 64 + b.toNat % 64 := toNat_ofNat_of_valid hv
    have ha : (two a b).val.toNat / 64 % 32 + 192 = a.toNat := by omega
    have hb' : (two a b).val.toNat % 64 + 128 = b.toNat := by omega
    simp only [String.utf8EncodeChar, ha, hb', UInt8.ofNat_toNat]
    rw [if_neg (by omega), if_pos (by omega)]
  | @three _ b c hw hb hc =>
    rw [w3] at hw
    rw [isSecond_iff] at hb
    rw [isContinuation_iff] at hc
    have hv : (a.toNat % 16 * 4096 + b.toNat % 64 * 64 + c.toNat % 64).isValidChar := by omega
    have hn : (three a b c).val.toNat = a.toNat % 16 * 4096 + b.toNat % 64 * 64 + c.toNat % 64 :=
      toNat_ofNat_of_valid hv
    have ha : (three a b c).val.toNat / 4096 % 16 + 224 = a.toNat := by omega
    have hb' : (three a b c).val.toNat / 64 % 64 + 128 = b.toNat := by omega
    have hc' : (three a b c).val.toNat % 64 + 128 = c.toNat := by omega
    simp only [String.utf8EncodeChar, ha, hb', hc', UInt8.ofNat_toNat]
    rw [if_neg (by omega), if_neg (by omega), if_pos (by omega)]
  | @four _ b c d hw hb hc hd =>
    rw [w4] at hw
    rw [isSecond_iff] at hb
    rw [isContinuation_iff] at hc hd
    have hv : (a.toNat % 8 * 262144 + b.toNat % 64 * 4096 + c.toNat % 64 * 64 +
        d.toNat % 64).isValidChar := by omega
    have hn : (four a b c d).val.toNat =
        a.toNat % 8 * 262144 + b.toNat % 64 * 4096 + c.toNat % 64 * 64 + d.toNat % 64 :=
      toNat_ofNat_of_valid hv
    have ha : (four a b c d).val.toNat / 262144 % 8 + 240 = a.toNat := by omega
    have hb' : (four a b c d).val.toNat / 4096 % 64 + 128 = b.toNat := by omega
    have hc' : (four a b c d).val.toNat / 64 % 64 + 128 = c.toNat := by omega
    have hd' : (four a b c d).val.toNat % 64 + 128 = d.toNat := by omega
    simp only [String.utf8EncodeChar, ha, hb', hc', hd', UInt8.ofNat_toNat]
    rw [if_neg (by omega), if_neg (by omega), if_neg (by omega)]

theorem spells_one {v : Nat} {a : UInt8} (ha : a.toNat = v) (hv : v ≤ 127) :
    Spells (Char.ofNat v) a [] := by
  have hw : width a = 1 := by
    rw [(width_eq_iff a).1]
    omega
  rw [← ha]
  exact .one hw

theorem spells_two {v : Nat} {a b : UInt8} (ha : a.toNat = v / 64 % 32 + 192)
    (hb : b.toNat = v % 64 + 128) (hv : 127 < v) (hv' : v ≤ 2047) : Spells (Char.ofNat v) a [b] := by
  have hw : width a = 2 := by
    rw [(width_eq_iff a).2.1]
    omega
  have hsecond : isSecond a b := by
    rw [isSecond_iff]
    omega
  have hvalue : a.toNat % 32 * 64 + b.toNat % 64 = v := by omega
  rw [← hvalue]
  exact .two hw hsecond

theorem spells_three {v : Nat} {a b c : UInt8} (ha : a.toNat = v / 4096 % 16 + 224)
    (hb : b.toNat = v / 64 % 64 + 128) (hc : c.toNat = v % 64 + 128) (hv : 2047 < v) (hv' : v ≤ 65535)
    (hvalid : v.isValidChar) : Spells (Char.ofNat v) a [b, c] := by
  have hw : width a = 3 := by
    rw [(width_eq_iff a).2.2.1]
    omega
  have hsecond : isSecond a b := by
    rw [isSecond_iff]
    omega
  have hthird : isContinuation c := by
    rw [isContinuation_iff]
    omega
  have hvalue : a.toNat % 16 * 4096 + b.toNat % 64 * 64 + c.toNat % 64 = v := by omega
  rw [← hvalue]
  exact .three hw hsecond hthird

theorem spells_four {v : Nat} {a b c d : UInt8} (ha : a.toNat = v / 262144 % 8 + 240)
    (hb : b.toNat = v / 4096 % 64 + 128) (hc : c.toNat = v / 64 % 64 + 128)
    (hd : d.toNat = v % 64 + 128) (hv : 65535 < v) (hvalid : v.isValidChar) :
    Spells (Char.ofNat v) a [b, c, d] := by
  have hw : width a = 4 := by
    rw [(width_eq_iff a).2.2.2.1]
    omega
  have hsecond : isSecond a b := by
    rw [isSecond_iff]
    omega
  have hthird : isContinuation c := by
    rw [isContinuation_iff]
    omega
  have hfourth : isContinuation d := by
    rw [isContinuation_iff]
    omega
  have hvalue : a.toNat % 8 * 262144 + b.toNat % 64 * 4096 + c.toNat % 64 * 64 + d.toNat % 64 = v := by
    omega
  rw [← hvalue]
  exact .four hw hsecond hthird hfourth

theorem exists_spells (c : Char) :
    ∃ a tail, String.utf8EncodeChar c = a :: tail ∧ Spells c a tail := by
  have hvalid : c.val.toNat.isValidChar := c.valid
  have hself : Char.ofNat c.val.toNat = c := Char.ofNat_toNat c
  simp only [String.utf8EncodeChar]
  generalize c.val.toNat = v at hvalid hself
  rw [← hself]
  have hsize : UInt8.size = 256 := rfl
  split_ifs with h1 h2 h3
  · exact ⟨_, _, rfl, spells_one (UInt8.toNat_ofNat_of_lt (by omega)) h1⟩
  · exact ⟨_, _, rfl, spells_two (UInt8.toNat_ofNat_of_lt (by omega)) (UInt8.toNat_ofNat_of_lt (by omega))
      (by omega) h2⟩
  · exact ⟨_, _, rfl, spells_three (UInt8.toNat_ofNat_of_lt (by omega)) (UInt8.toNat_ofNat_of_lt (by omega))
      (UInt8.toNat_ofNat_of_lt (by omega)) (by omega) h3 hvalid⟩
  · exact ⟨_, _, rfl, spells_four (UInt8.toNat_ofNat_of_lt (by omega)) (UInt8.toNat_ofNat_of_lt (by omega))
      (UInt8.toNat_ofNat_of_lt (by omega)) (UInt8.toNat_ofNat_of_lt (by omega)) (by omega) hvalid⟩

theorem scanFrom_append (tail rest : List UInt8) : scanFrom tail.length (tail ++ rest) = scan rest := by
  induction tail with
  | nil => rfl
  | cons b tail ih => exact ih

theorem scan_of_spells {c : Char} {a : UInt8} {tail : List UInt8} (h : Spells c a tail)
    (rest : List UInt8) : scan (a :: (tail ++ rest)) = some c :: scan rest := by
  rw [scan, scanFrom, piece_of_spells h, scanFrom_append]

theorem encode_cons (c : Char) (cs : List Char) :
    encode (c :: cs) = String.utf8EncodeChar c ++ encode cs := by
  rw [encode, encode, List.flatMap_cons]

theorem scan_encode_append (cs : List Char) (rest : List UInt8) :
    scan (encode cs ++ rest) = cs.map some ++ scan rest := by
  induction cs with
  | nil => rfl
  | cons c cs ih =>
    obtain ⟨a, tail, he, hs⟩ := exists_spells c
    rw [encode_cons, he, List.cons_append, List.cons_append, List.append_assoc, scan_of_spells hs, ih,
      List.map_cons, List.cons_append]

theorem scan_encode (cs : List Char) : scan (encode cs) = cs.map some := by
  have hnil : scan [] = [] := rfl
  have hscan := scan_encode_append cs []
  rwa [List.append_nil, hnil, List.append_nil] at hscan

theorem allSome_eq_some_iff {ps : List (Option Char)} {cs : List Char} :
    allSome ps = some cs ↔ ps = cs.map some := by
  induction ps generalizing cs with
  | nil => cases cs <;> simp [allSome]
  | cons p ps ih =>
    cases p with
    | none => cases cs <;> simp [allSome]
    | some c => cases cs <;> simp [allSome, ih, and_comm]

/-- Only an encoding is scanned into characters throughout. -/
theorem eq_encode_of_scan {bs : List UInt8} {cs : List Char} (h : scan bs = cs.map some) :
    bs = encode cs := by
  induction cs generalizing bs with
  | nil =>
    cases bs with
    | nil => rfl
    | cons a r => simp [scan, scanFrom] at h
  | cons c cs ih =>
    cases bs with
    | nil => simp [scan, scanFrom] at h
    | cons a r =>
      rcases hp : piece a r with ⟨found, k⟩
      rw [scan, scanFrom, hp] at h
      obtain ⟨rfl, hrest⟩ : found = some c ∧ scanFrom k r = cs.map some := by simpa using h
      obtain ⟨tail, rest, rfl, rfl, hs⟩ := spells_of_piece hp
      rw [scanFrom_append] at hrest
      rw [encode_cons, utf8EncodeChar_of_spells hs, ih hrest, List.cons_append]

theorem decode?_eq_some_iff {bs : List UInt8} {cs : List Char} :
    decode? bs = some cs ↔ bs = encode cs := by
  rw [decode?, allSome_eq_some_iff]
  constructor
  · exact eq_encode_of_scan
  · intro h
    rw [h, scan_encode]

theorem decode?_eq_none_iff {bs : List UInt8} : decode? bs = none ↔ ∀ cs, bs ≠ encode cs := by
  simp only [Option.eq_none_iff_forall_ne_some, ne_eq, decode?_eq_some_iff]

end GroupLint.Text.Utf8
