import GroupLint.Glob
import Mathlib.Data.List.TakeWhile

/-! What a glob covers, said of its text and not of its tokens. A set is read to the bracket that
closes it, so nothing before a glob changes how the glob is read; therefore `**/` in front of one lets
it cover what stands after any slash, or the whole path. -/
namespace GroupLint.Glob

section Sets

def Lists (c : Char) : List Char → Prop
  | lo :: '-' :: hi :: r => lo ≤ c ∧ c ≤ hi ∨ Lists c r
  | d :: r => c = d ∨ Lists c r
  | [] => False

def afterBackward : List Char → List Char
  | lo :: '-' :: hi :: r => if hi < lo then afterBackward r else lo :: '-' :: hi :: r
  | cs => cs

/-- Whether what is left takes a character. A `!` that leads it excludes what is listed; if it begins a
range, the hyphen and the end of the range are listed. -/
def AdmitsRest (c : Char) : List Char → Prop
  | '!' :: '-' :: hi :: r => ¬ (c = '-' ∨ c = hi ∨ Lists c r)
  | '!' :: r => ¬ Lists c r
  | r => Lists c r

/-- Whether a set takes a character. A leading `!` excludes what is listed. -/
def Admits (c : Char) : List Char → Prop
  | '!' :: r => ¬ Lists c r
  | cs => AdmitsRest c (afterBackward cs)

theorem any_members {c : Char} {cs : List Char} : (members cs).any (Member.holds c) ↔ Lists c cs := by
  fun_induction members cs with
  | case1 lo hi r ih => simp [Lists, Member.holds, ← ih]
  | case2 d r hr ih =>
    rw [Lists]
    · simp [Member.holds, ← ih]
    · exact hr
  | case3 => simp [Lists]

theorem not_holds_of_isBackward {c : Char} {m : Member} (h : m.isBackward) : m.holds c = false := by
  cases m with
  | char d => cases h
  | range lo hi =>
    have hlt : hi < lo := by simpa [Member.isBackward] using h
    have hout : lo ≤ c → ¬ c ≤ hi := fun hlo hhi => Char.not_le.mpr hlt (Char.le_trans hlo hhi)
    simpa [Member.holds] using hout

theorem any_forward (c : Char) (ms : List Member) :
    (forward ms).any (Member.holds c) = ms.any (Member.holds c) := by
  induction ms with
  | nil => rfl
  | cons m ms ih =>
    by_cases hm : m.isBackward
    · rw [forward, List.filter_cons_of_neg (by simp [hm]), ← forward, ih, List.any_cons,
        not_holds_of_isBackward hm, Bool.false_or]
    · rw [forward, List.filter_cons_of_pos (by simp [hm]), ← forward, List.any_cons, ih, List.any_cons]

theorem any_forward_members {c : Char} {cs : List Char} :
    (forward (members cs)).any (Member.holds c) ↔ Lists c cs := by
  rw [any_forward, any_members]

theorem forward_members_afterBackward (cs : List Char) :
    forward (members (afterBackward cs)) = forward (members cs) := by
  fun_induction afterBackward cs with
  | case1 lo hi r h ih =>
    rw [ih, members, forward, forward, List.filter_cons_of_neg (by simpa [Member.isBackward] using h)]
  | case2 lo hi r h => rfl
  | case3 cs h => rfl

theorem afterBackward_cases (cs : List Char) :
    (∃ lo hi r, afterBackward cs = lo :: '-' :: hi :: r ∧ ¬ hi < lo) ∨
      (∃ d r, afterBackward cs = d :: r ∧ ∀ hi more, r ≠ '-' :: hi :: more) ∨ afterBackward cs = [] := by
  fun_induction afterBackward cs with
  | case1 lo hi r h ih => exact ih
  | case2 lo hi r h => exact Or.inl ⟨lo, hi, r, rfl, h⟩
  | case3 cs h =>
    cases cs with
    | nil => exact Or.inr (Or.inr rfl)
    | cons d r => exact Or.inr (Or.inl ⟨d, r, rfl, fun hi more hr => h d hi more (by rw [hr])⟩)

theorem admitsRest_of_ne {c : Char} {cs : List Char} (h : ∀ r, cs ≠ '!' :: r) :
    AdmitsRest c cs ↔ Lists c cs := by
  rw [AdmitsRest]
  · intro hi r hcs
    exact h _ hcs
  · exact h

theorem takes_excluding {c : Char} {ms : List Member} :
    (Token.set true ms).takes c ↔ ¬ ms.any (Member.holds c) := by
  simp [Token.takes]

theorem takes_listing {c : Char} {ms : List Member} :
    (Token.set false ms).takes c ↔ ms.any (Member.holds c) := by
  simp [Token.takes]

section Leading
variable {inside : List Char} (hplain : ∀ r, inside ≠ '!' :: r)
include hplain

theorem setToken_of_char {ms : List Member} (h : forward (members inside) = .char '!' :: ms) :
    setToken inside = .set true ms := by
  rw [setToken, h]
  · rfl
  · exact hplain

theorem setToken_of_range {hi : Char} {ms : List Member}
    (h : forward (members inside) = .range '!' hi :: ms) :
    setToken inside = .set true (.char '-' :: .char hi :: ms) := by
  rw [setToken, h]
  · rfl
  · exact hplain

theorem setToken_of_other (hchar : ∀ ms, forward (members inside) ≠ .char '!' :: ms)
    (hrange : ∀ hi ms, forward (members inside) ≠ .range '!' hi :: ms) :
    setToken inside = .set false (forward (members inside)) := by
  rw [setToken]
  · split
    · next ms h => exact absurd h (hchar ms)
    · next hi ms h => exact absurd h (hrange hi ms)
    · rfl
  · exact hplain

theorem takes_setToken_of_plain {c : Char} :
    (setToken inside).takes c ↔ AdmitsRest c (afterBackward inside) := by
  have hforward := forward_members_afterBackward inside
  obtain ⟨lo, hi, r, hcs, hle⟩ | ⟨d, r, hcs, hr⟩ | hcs := afterBackward_cases inside
  · have hfront : forward (members inside) = .range lo hi :: forward (members r) := by
      rw [← hforward, hcs, members, forward,
        List.filter_cons_of_pos (by simpa [Member.isBackward] using hle), forward]
    rw [hcs]
    by_cases hlo : lo = '!'
    · subst hlo
      rw [setToken_of_range hplain hfront, takes_excluding, AdmitsRest]
      simp only [List.any_cons, Bool.or_eq_true, any_forward_members, Member.holds, beq_iff_eq]
    · rw [setToken_of_other hplain (by simp [hfront]) (by simp [hfront, hlo]), takes_listing,
        ← hforward, any_forward_members, hcs, admitsRest_of_ne (by simp [hlo])]
  · have hfront : forward (members inside) = .char d :: forward (members r) := by
      rw [← hforward, hcs, members, forward,
        List.filter_cons_of_pos (by simp [Member.isBackward]), forward]
      exact hr
    rw [hcs]
    by_cases hd : d = '!'
    · subst hd
      rw [setToken_of_char hplain hfront, takes_excluding, any_forward_members, AdmitsRest]
      exact hr
    · rw [setToken_of_other hplain (by simp [hfront, hd]) (by simp [hfront]), takes_listing,
        ← hforward, any_forward_members, hcs, admitsRest_of_ne (by simp [hd])]
  · have hfront : forward (members inside) = [] := by
      rw [← hforward, hcs]
      rfl
    rw [setToken_of_other hplain (by simp [hfront]) (by simp [hfront]), takes_listing, ← hforward,
      any_forward_members, hcs, admitsRest_of_ne (by simp)]

end Leading

theorem takes_setToken {c : Char} {inside : List Char} :
    (setToken inside).takes c ↔ Admits c inside := by
  by_cases hlead : ∃ r, inside = '!' :: r
  · obtain ⟨r, rfl⟩ := hlead
    rw [setToken, takes_excluding, any_forward_members, Admits]
  · have hplain : ∀ r, inside ≠ '!' :: r := fun r h => hlead ⟨r, h⟩
    rw [takes_setToken_of_plain hplain, Admits]
    exact hplain

end Sets

section Brackets

/-- What may stand between two brackets. A closing bracket may come first in it, or right after a
leading `!`, and nowhere else. -/
inductive IsSet : List Char → Prop
  | plain {first : Char} {rest : List Char} : first ≠ '!' → ']' ∉ rest → IsSet (first :: rest)
  | negated {first : Char} {rest : List Char} : ']' ∉ rest → IsSet ('!' :: first :: rest)

def Unclosed (p : List Char) : Prop := ∀ inside after, IsSet inside → p ≠ inside ++ ']' :: after

def cut (lead r : List Char) : Option (List Char × List Char) :=
  match r.dropWhile (· != ']') with
  | [] => none
  | _ :: after => some (lead ++ r.takeWhile (· != ']'), after)

theorem cut_of_not_mem {inner : List Char} (h : ']' ∉ inner) (lead after : List Char) :
    cut lead (inner ++ ']' :: after) = some (lead ++ inner, after) := by
  have hpass : ∀ c ∈ inner, (c != ']') = true := by
    intro c hc
    rw [bne_iff_ne]
    rintro rfl
    exact h hc
  rw [cut, List.dropWhile_append_of_pos hpass, List.takeWhile_append_of_pos hpass]
  simp

theorem cut_eq_none {r : List Char} (h : ']' ∉ r) (lead : List Char) : cut lead r = none := by
  have hdrop : r.dropWhile (· != ']') = [] := by
    rw [List.dropWhile_eq_nil_iff]
    intro c hc
    rw [bne_iff_ne]
    rintro rfl
    exact h hc
  rw [cut, hdrop]

theorem cut_append_cons {c : Char} (hc : c ≠ ']') (lead r : List Char) :
    cut (lead ++ [c]) r = cut lead (c :: r) := by
  have hpass : (c != ']') = true := by rwa [bne_iff_ne]
  simp [cut, hpass]

theorem splitSet_plain {first : Char} (h : first ≠ '!') (r : List Char) :
    splitSet (first :: r) = cut [first] r := by
  by_cases hfirst : first = ']'
  · subst hfirst
    rfl
  · rw [← List.nil_append [first], cut_append_cons hfirst]
    unfold splitSet
    split
    · next heq => exact absurd (List.cons.inj heq).1 h
    · next heq => exact absurd (List.cons.inj heq).1 h
    · next heq => exact absurd (List.cons.inj heq).1 hfirst
    · rfl

theorem splitSet_negated (first : Char) (r : List Char) :
    splitSet ('!' :: first :: r) = cut ['!', first] r := by
  by_cases hfirst : first = ']'
  · subst hfirst
    rfl
  · change _ = cut (['!'] ++ [first]) r
    rw [cut_append_cons hfirst]
    unfold splitSet
    split
    · next heq => exact absurd (List.cons.inj (List.cons.inj heq).2).1 hfirst
    · rfl
    · next heq => exact absurd (List.cons.inj heq).1 (by decide)
    · next _ hother _ => exact absurd rfl (hother (first :: r))

theorem splitSet_of_isSet {inside : List Char} (h : IsSet inside) (after : List Char) :
    splitSet (inside ++ ']' :: after) = some (inside, after) := by
  cases h with
  | plain hfirst hrest =>
    rw [List.cons_append, splitSet_plain hfirst, cut_of_not_mem hrest, List.singleton_append]
  | negated hrest =>
    rw [List.cons_append, List.cons_append, splitSet_negated, cut_of_not_mem hrest]
    rfl

theorem splitSet_of_unclosed {p : List Char} (h : Unclosed p) : splitSet p = none := by
  rcases p with _ | ⟨first, r⟩
  · rfl
  · by_cases hfirst : first = '!'
    · subst hfirst
      rcases r with _ | ⟨first, r⟩
      · rfl
      · rw [splitSet_negated, cut_eq_none]
        intro hmem
        obtain ⟨rest, after, rfl, hrest⟩ := List.eq_append_cons_of_mem hmem
        exact h _ after (.negated hrest) rfl
    · rw [splitSet_plain hfirst, cut_eq_none]
      intro hmem
      obtain ⟨rest, after, rfl, hrest⟩ := List.eq_append_cons_of_mem hmem
      exact h _ after (.plain hfirst hrest) rfl

end Brackets

/-- What a glob covers. A star covers any run of characters, slashes and newlines included, and a
bracket that nothing closes covers itself. -/
inductive Fits : List Char → List Char → Prop
  | nil : Fits [] []
  | star {p s : List Char} (run : List Char) : Fits p s → Fits ('*' :: p) (run ++ s)
  | one {p s : List Char} (c : Char) : Fits p s → Fits ('?' :: p) (c :: s)
  | set {inside p s : List Char} {c : Char} :
    IsSet inside → Admits c inside → Fits p s → Fits ('[' :: (inside ++ ']' :: p)) (c :: s)
  | bracket {p s : List Char} : Unclosed p → Fits p s → Fits ('[' :: p) ('[' :: s)
  | char {p s : List Char} {c : Char} : c ∉ ['*', '?', '['] → Fits p s → Fits (c :: p) (c :: s)

section Tokens

theorem tokensFrom_append (taken r : List Char) : tokensFrom taken.length (taken ++ r) = tokens r := by
  induction taken with
  | nil => rfl
  | cons c taken ih => exact ih

theorem tokens_set {inside : List Char} (h : IsSet inside) (p : List Char) :
    tokens ('[' :: (inside ++ ']' :: p)) = setToken inside :: tokens p := by
  have hrest : tokensFrom (inside.length + 1) (inside ++ ']' :: p) = tokens p := by
    rw [← List.concat_append, ← List.length_concat, tokensFrom_append]
  rw [tokens, tokensFrom, splitSet_of_isSet h]
  exact congrArg _ hrest

theorem tokens_bracket {p : List Char} (h : Unclosed p) : tokens ('[' :: p) = .char '[' :: tokens p := by
  rw [tokens, tokensFrom, splitSet_of_unclosed h]
  rfl

theorem tokens_char {c : Char} (h : c ∉ ['*', '?', '[']) (p : List Char) :
    tokens (c :: p) = .char c :: tokens p := by
  simp only [List.mem_cons, List.not_mem_nil, or_false, not_or] at h
  rw [tokens, tokensFrom]
  · rfl
  · exact h.1
  · exact h.2.1
  · exact h.2.2

end Tokens

section Acceptance

theorem anySuffix_iff {f : List Char → Bool} {s : List Char} :
    anySuffix f s ↔ ∃ rest, rest <:+ s ∧ f rest := by
  induction s with
  | nil => simp [anySuffix]
  | cons c s ih =>
    rw [anySuffix, Bool.or_eq_true, ih]
    simp only [List.suffix_cons_iff, or_and_right, exists_or, exists_eq_left]

theorem accepts_star {ts : List Token} {s : List Char} :
    accepts (.star :: ts) s ↔ ∃ rest, rest <:+ s ∧ accepts ts rest := by
  rw [accepts, anySuffix_iff]

theorem setToken_ne_star (inside : List Char) : setToken inside ≠ .star := by
  unfold setToken
  split
  · simp
  · split <;> simp

theorem accepts_cons {t : Token} (ht : t ≠ .star) {ts : List Token} {s : List Char} :
    accepts (t :: ts) s ↔ ∃ c rest, s = c :: rest ∧ t.takes c ∧ accepts ts rest := by
  cases s with
  | nil =>
    rw [accepts]
    · simp
    · exact ht
  | cons c s =>
    rw [accepts, Bool.and_eq_true]
    · constructor
      · exact fun h => ⟨c, s, rfl, h⟩
      · rintro ⟨_, _, heq, h⟩
        obtain ⟨rfl, rfl⟩ := List.cons.inj heq
        exact h
    · exact ht

theorem covers_of_fits {p s : List Char} (h : Fits p s) : covers p s := by
  induction h with
  | nil => rfl
  | star run _ ih => exact accepts_star.mpr ⟨_, List.suffix_append run _, ih⟩
  | one c _ ih => exact (accepts_cons (by simp)).mpr ⟨c, _, rfl, rfl, ih⟩
  | set hset hc _ ih =>
    rw [covers, tokens_set hset, accepts_cons (setToken_ne_star _)]
    exact ⟨_, _, rfl, takes_setToken.mpr hc, ih⟩
  | bracket hp _ ih =>
    rw [covers, tokens_bracket hp, accepts_cons (by simp)]
    exact ⟨_, _, rfl, rfl, ih⟩
  | char hc _ ih =>
    rw [covers, tokens_char hc, accepts_cons (by simp)]
    exact ⟨_, _, rfl, beq_self_eq_true _, ih⟩

/-- A glob is nothing, or begins with one of these five and a glob after it. -/
theorem glob_induction {motive : List Char → Prop} (nil : motive [])
    (star : ∀ p, motive p → motive ('*' :: p)) (one : ∀ p, motive p → motive ('?' :: p))
    (set : ∀ inside p, IsSet inside → motive p → motive ('[' :: (inside ++ ']' :: p)))
    (bracket : ∀ p, Unclosed p → motive p → motive ('[' :: p))
    (char : ∀ c p, c ∉ ['*', '?', '['] → motive p → motive (c :: p)) (p : List Char) : motive p := by
  induction hn : p.length using Nat.strong_induction_on generalizing p with
  | _ n ih =>
    subst hn
    cases p with
    | nil => exact nil
    | cons c p =>
      have hp : motive p := ih _ (by simp) p rfl
      by_cases hc : c ∈ ['*', '?', '[']
      · obtain rfl | rfl | rfl : c = '*' ∨ c = '?' ∨ c = '[' := by simpa using hc
        · exact star p hp
        · exact one p hp
        · by_cases hclosed : ∃ inside after, IsSet inside ∧ p = inside ++ ']' :: after
          · obtain ⟨inside, after, hset, rfl⟩ := hclosed
            exact set inside after hset (ih _ (by simp; omega) after rfl)
          · exact bracket p (fun inside after hset heq => hclosed ⟨inside, after, hset, heq⟩) hp
      · exact char c p hc hp

theorem fits_of_covers {p s : List Char} (h : covers p s) : Fits p s := by
  induction p using glob_induction generalizing s with
  | nil =>
    obtain rfl : s = [] := List.isEmpty_iff.mp h
    exact .nil
  | star p ih =>
    obtain ⟨rest, ⟨run, rfl⟩, hrest⟩ := accepts_star.mp h
    exact .star run (ih hrest)
  | one p ih =>
    obtain ⟨c, rest, rfl, -, hrest⟩ := (accepts_cons (by simp)).mp h
    exact .one c (ih hrest)
  | set inside p hset ih =>
    rw [covers, tokens_set hset, accepts_cons (setToken_ne_star inside)] at h
    obtain ⟨c, rest, rfl, hc, hrest⟩ := h
    exact .set hset (takes_setToken.mp hc) (ih hrest)
  | bracket p hp ih =>
    rw [covers, tokens_bracket hp, accepts_cons (by simp)] at h
    obtain ⟨c, rest, rfl, hc, hrest⟩ := h
    obtain rfl : c = '[' := eq_of_beq hc
    exact .bracket hp (ih hrest)
  | char c p hc ih =>
    rw [covers, tokens_char hc, accepts_cons (by simp)] at h
    obtain ⟨d, rest, rfl, hd, hrest⟩ := h
    obtain rfl : d = c := eq_of_beq hd
    exact .char hc (ih hrest)

theorem covers_iff_fits {p s : List Char} : covers p s ↔ Fits p s := ⟨fits_of_covers, covers_of_fits⟩

end Acceptance

section Depth

theorem covers_below_iff {p path : List Char} :
    covers ('*' :: '*' :: '/' :: p) path ↔ ∃ dir rest, path = dir ++ '/' :: rest ∧ covers p rest := by
  -- The tokens of `p` are the same behind the stars, which together cover one run.
  have htokens : tokens ('*' :: '*' :: '/' :: p) = .star :: .star :: .char '/' :: tokens p := rfl
  rw [covers, htokens, accepts_star]
  constructor
  · rintro ⟨_, ⟨first, rfl⟩, hstar⟩
    obtain ⟨_, ⟨second, rfl⟩, hslash⟩ := accepts_star.mp hstar
    obtain ⟨c, rest, rfl, hc, hrest⟩ := (accepts_cons (by simp)).mp hslash
    obtain rfl : c = '/' := eq_of_beq hc
    exact ⟨first ++ second, rest, by rw [List.append_assoc], hrest⟩
  · rintro ⟨dir, rest, rfl, hrest⟩
    refine ⟨_, List.suffix_append dir _, accepts_star.mpr ⟨_, List.suffix_rfl, ?_⟩⟩
    exact (accepts_cons (by simp)).mpr ⟨'/', rest, rfl, rfl, hrest⟩

/-- A glob behind `**/` matches a path iff the glob covers the path or what stands after one of its
slashes; and what it covers is what fits its text. -/
theorem matchesPath_anyDepth_iff (path p : List Char) :
    (matchesPath path ('*' :: '*' :: '/' :: p) ↔
      covers p path ∨ ∃ dir rest, path = dir ++ '/' :: rest ∧ covers p rest) ∧
      ∀ text, covers p text ↔ Fits p text := by
  rw [matchesPath, Bool.or_eq_true, covers_below_iff]
  exact ⟨Iff.rfl, fun text => covers_iff_fits⟩

end Depth

end GroupLint.Glob
