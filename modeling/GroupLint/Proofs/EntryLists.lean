import GroupLint.Entries
import Mathlib.Data.List.Nodup

/-! Lists of entries. What an insertion changes is told by the keys and by what stands under each; where
the keys are distinct, these two make up the list. -/
namespace GroupLint.Entries
variable {α : Type}

theorem keys_cons (e : String × α) (t : Entries α) : keys (e :: t) = e.1 :: keys t := rfl

section Insert
variable (t : Entries α) (key : String) (v : α)

theorem get?_cons (e : String × α) (k : String) :
    get? (e :: t) k = if e.1 = k then some e.2 else get? t k := by
  rw [get?, List.lookup_cons]
  by_cases hk : e.1 = k
  · rw [if_pos hk, beq_iff_eq.mpr hk.symm]
  · rw [if_neg hk, beq_eq_false_iff_ne.mpr (Ne.symm hk)]
    rfl

theorem get?_insert (k : String) : (t.insert key v).get? k = if key = k then some v else t.get? k := by
  induction t with
  | nil => rw [insert, get?_cons]
  | cons e t ih =>
    rw [insert, get?_cons]
    by_cases hk : e.1 = key
    · rw [if_pos hk, get?_cons, hk]
      split <;> rfl
    · rw [if_neg hk, get?_cons, ih]
      by_cases hek : e.1 = k
      · rw [if_pos hek, if_pos hek, if_neg fun h => hk (hek.trans h.symm)]
      · rw [if_neg hek, if_neg hek]

theorem keys_insert : (t.insert key v).keys = if key ∈ t.keys then t.keys else t.keys ++ [key] := by
  induction t with
  | nil => rfl
  | cons e t ih =>
    rw [insert]
    by_cases hk : e.1 = key
    · rw [if_pos hk, if_pos (by simp [keys_cons, hk])]
      rfl
    · have hmem : key ∈ keys (e :: t) ↔ key ∈ keys t := by
        rw [keys_cons, List.mem_cons, or_iff_right (Ne.symm hk)]
      rw [if_neg hk, keys_cons, ih]
      simp only [hmem]
      split <;> rfl

end Insert

section Ext
variable {t u : Entries α}

theorem get?_eq_none_of_not_mem {k : String} (h : k ∉ t.keys) : t.get? k = none := by
  induction t with
  | nil => rfl
  | cons e t ih =>
    rw [keys_cons, List.mem_cons, not_or] at h
    rw [get?_cons, if_neg (Ne.symm h.1), ih h.2]

theorem ext_of_distinct (hdistinct : t.keys.Nodup) (hkeys : t.keys = u.keys)
    (hget : ∀ k, t.get? k = u.get? k) : t = u := by
  induction t generalizing u with
  | nil => exact (List.map_eq_nil_iff.mp hkeys.symm).symm
  | cons e t ih =>
    cases u with
    | nil => cases hkeys
    | cons e' u =>
      obtain ⟨hfirst, hrest⟩ : e.1 = e'.1 ∧ keys t = keys u := List.cons.inj hkeys
      obtain ⟨hnew, hdistinct⟩ : e.1 ∉ keys t ∧ (keys t).Nodup := List.nodup_cons.mp hdistinct
      have hvalue : e.2 = e'.2 := by
        have h := hget e.1
        rw [get?_cons, get?_cons, if_pos rfl, if_pos hfirst.symm] at h
        exact Option.some.inj h
      have htail : t = u := by
        apply ih hdistinct hrest
        intro k
        by_cases hk : e.1 = k
        · subst hk
          rw [get?_eq_none_of_not_mem hnew, get?_eq_none_of_not_mem (hrest ▸ hnew)]
        · have h := hget k
          rwa [get?_cons, get?_cons, if_neg hk, if_neg (hfirst ▸ hk)] at h
      rw [htail, Prod.ext hfirst hvalue]

end Ext

end GroupLint.Entries
