import GroupLint.Proofs.EntryLists
import GroupLint.Settings

/-! Settings in layers. A table whose keys are distinct is known by the order of its keys and by what it
holds under each, and so is the outcome of laying one table over another. Sections and the keys in a
section are layered alike; only what becomes of two values under one key differs. -/
namespace GroupLint

namespace Table
open Entries

/-- Lays every entry of `new` in turn over what there is under its key. -/
def overlay (lay : Option Value → Value → Value) (t new : Table) : Table :=
  new.foldl (fun acc e => acc.insert e.1 (lay (acc.get? e.1) e.2)) t

section Overlay
variable {lay : Option Value → Value → Value} {t new : Table}

theorem keys_overlay (t : Table) (hnew : new.keys.Nodup) :
    (overlay lay t new).keys = t.keys ++ new.keys.filter (· ∉ t.keys) := by
  induction new generalizing t with
  | nil => simp [overlay, keys]
  | cons e new ih =>
    obtain ⟨hfresh, hnew⟩ : e.1 ∉ keys new ∧ (keys new).Nodup := List.nodup_cons.mp hnew
    change (overlay lay (t.insert e.1 (lay (t.get? e.1) e.2)) new).keys =
      t.keys ++ (e.1 :: keys new).filter (· ∉ t.keys)
    rw [ih _ hnew, keys_insert]
    by_cases he : e.1 ∈ t.keys
    · rw [if_pos he, List.filter_cons_of_neg (by simpa using he)]
    · have hsame : (keys new).filter (· ∉ t.keys ++ [e.1]) = (keys new).filter (· ∉ t.keys) := by
        apply List.filter_congr
        intro k hk
        have hne : k ≠ e.1 := fun heq => hfresh (heq ▸ hk)
        simp [hne]
      rw [if_neg he, hsame, List.filter_cons_of_pos (by simpa using he), List.append_assoc]
      rfl

theorem get?_overlay (t : Table) (hnew : new.keys.Nodup) (k : String) :
    (overlay lay t new).get? k = ((new.get? k).map (lay (t.get? k))).or (t.get? k) := by
  induction new generalizing t with
  | nil => rfl
  | cons e new ih =>
    obtain ⟨hfresh, hnew⟩ : e.1 ∉ keys new ∧ (keys new).Nodup := List.nodup_cons.mp hnew
    change (overlay lay (t.insert e.1 (lay (t.get? e.1) e.2)) new).get? k = _
    rw [ih _ hnew, get?_insert, get?_cons]
    by_cases hk : e.1 = k
    · subst hk
      rw [get?_eq_none_of_not_mem hfresh, if_pos rfl, if_pos rfl]
      rfl
    · rw [if_neg hk, if_neg hk]

theorem nodup_overlay (ht : t.keys.Nodup) (hnew : new.keys.Nodup) : (overlay lay t new).keys.Nodup := by
  rw [keys_overlay t hnew]
  refine ht.append (hnew.filter _) ?_
  intro k hk hk'
  exact of_decide_eq_true (List.mem_filter.mp hk').2 hk

theorem nil_overlay (hlay : ∀ v, lay none v = v) (hnew : new.keys.Nodup) :
    overlay lay [] new = new := by
  have hkeys : (overlay lay [] new).keys = new.keys := by
    rw [keys_overlay [] hnew]
    simp [keys]
  apply ext_of_distinct (hkeys ▸ hnew) hkeys
  intro k
  rw [get?_overlay [] hnew]
  cases new.get? k with
  | none => rfl
  | some v => exact congrArg some (hlay v)

theorem overlay_overlay_self (ht : t.keys.Nodup) (hnew : new.keys.Nodup)
    (hlay : ∀ k v, new.get? k = some v → lay (some (lay (t.get? k) v)) v = lay (t.get? k) v) :
    overlay lay (overlay lay t new) new = overlay lay t new := by
  have hkeys : (overlay lay (overlay lay t new) new).keys = (overlay lay t new).keys := by
    rw [keys_overlay _ hnew, keys_overlay t hnew, List.append_right_eq_self, List.filter_eq_nil_iff]
    intro k hk
    simp [hk, em]
  apply ext_of_distinct (hkeys ▸ nodup_overlay ht hnew) hkeys
  intro k
  rw [get?_overlay _ hnew, get?_overlay t hnew]
  cases hv : new.get? k with
  | none => rfl
  | some v => exact congrArg some (hlay k v hv)

theorem overlay_assoc {mid : Table} (ht : t.keys.Nodup) (hmid : mid.keys.Nodup)
    (hnew : new.keys.Nodup) (hnone : ∀ v, lay none v = v)
    (hlay : ∀ k v v', mid.get? k = some v → new.get? k = some v' →
      lay (some (lay (t.get? k) v)) v' = lay (t.get? k) (lay (some v) v')) :
    overlay lay (overlay lay t mid) new = overlay lay t (overlay lay mid new) := by
  have hright : (overlay lay mid new).keys.Nodup := nodup_overlay hmid hnew
  have hkeys : (overlay lay (overlay lay t mid) new).keys =
      (overlay lay t (overlay lay mid new)).keys := by
    rw [keys_overlay _ hnew, keys_overlay t hmid, keys_overlay t hright, keys_overlay mid hnew,
      List.filter_append, List.filter_filter, List.append_assoc]
    congr 2
    apply List.filter_congr
    intro k _
    by_cases hk : k ∈ t.keys <;> simp [hk]
  apply ext_of_distinct (nodup_overlay (nodup_overlay ht hmid) hnew) hkeys
  intro k
  rw [get?_overlay _ hnew, get?_overlay t hmid, get?_overlay t hright, get?_overlay mid hnew]
  cases hv' : new.get? k with
  | none => rfl
  | some v' =>
    cases hv : mid.get? k with
    | none => exact congrArg (fun u => some (lay (t.get? k) u)) (hnone v').symm
    | some v => exact congrArg some (hlay k v v' hv hv')

end Overlay

section Update
variable {t mid new : Table}

theorem update_eq_overlay (t new : Table) : t.update new = overlay (fun _ v => v) t new := rfl

theorem get?_update (t : Table) (hnew : new.keys.Nodup) (k : String) :
    (t.update new).get? k = (new.get? k).or (t.get? k) := by
  rw [update_eq_overlay, get?_overlay t hnew, Option.map_id']

theorem nil_update (hnew : new.keys.Nodup) : update [] new = new := by
  rw [update_eq_overlay, nil_overlay (fun _ => rfl) hnew]

theorem update_update_self (ht : t.keys.Nodup) (hnew : new.keys.Nodup) :
    (t.update new).update new = t.update new := by
  simp only [update_eq_overlay]
  exact overlay_overlay_self ht hnew fun _ _ _ => rfl

theorem update_self (hnew : new.keys.Nodup) : new.update new = new := by
  have h := update_update_self (t := []) List.nodup_nil hnew
  rwa [nil_update hnew] at h

theorem update_assoc (ht : t.keys.Nodup) (hmid : mid.keys.Nodup) (hnew : new.keys.Nodup) :
    (t.update mid).update new = t.update (mid.update new) := by
  simp only [update_eq_overlay]
  exact overlay_assoc ht hmid hnew (fun _ => rfl) fun _ _ _ _ _ => rfl

end Update
end Table

/-- A table that has every key once; what its entries hold is not looked at. -/
def Value.IsDistinct : Value → Prop
  | .table t => (Entries.keys t).Nodup
  | _ => True

instance : (v : Value) → Decidable v.IsDistinct
  | .table t => inferInstanceAs (Decidable (Entries.keys t).Nodup)
  | .null | .bool _ | .int _ | .real _ | .text _ | .moment _ | .list _ => .isTrue trivial

namespace Settings

structure Distinct (t : Table) : Prop where
  names : t.keys.Nodup
  keys : ∀ e ∈ t, e.2.IsDistinct

instance (t : Table) : Decidable (Distinct t) :=
  decidable_of_iff (t.keys.Nodup ∧ ∀ e ∈ t, e.2.IsDistinct)
    ⟨fun ⟨h1, h2⟩ => ⟨h1, h2⟩, fun ⟨h1, h2⟩ => ⟨h1, h2⟩⟩

theorem Distinct.of_get? {t : Table} (h : Distinct t) {name : String} {v : Value}
    (hv : t.get? name = some v) : v.IsDistinct := by
  obtain ⟨before, after, rfl, -⟩ := List.lookup_eq_some_iff.mp hv
  exact h.keys (name, v) (by simp)

/-- What becomes of a section over what there is under its name. -/
def laidOver : Option Value → Value → Value
  | some (.table old), .table new => .table (Table.update old new)
  | _, v => v

section Laws
variable {x : Option Value} {v v' : Value}

theorem laidOver_of_base (h : ∀ old, x ≠ some (.table old)) (v : Value) : laidOver x v = v := by
  unfold laidOver
  split
  · exact absurd rfl (h _)
  · rfl

theorem laidOver_of_section (x : Option Value) (h : ∀ new, v ≠ .table new) : laidOver x v = v := by
  unfold laidOver
  split
  · exact absurd rfl (h _)
  · rfl

theorem laidOver_self (hv : v.IsDistinct) : laidOver (some v) v = v := by
  cases v with
  | table new => exact congrArg Value.table (Table.update_self hv)
  | _ => rfl

theorem laidOver_laidOver_self (hx : ∀ u, x = some u → u.IsDistinct) (hv : v.IsDistinct) :
    laidOver (some (laidOver x v)) v = laidOver x v := by
  by_cases htable : ∃ old, x = some (.table old)
  · obtain ⟨old, rfl⟩ := htable
    cases v with
    | table new => exact congrArg Value.table (Table.update_update_self (hx _ rfl) hv)
    | _ => rfl
  · rw [laidOver_of_base (not_exists.mp htable), laidOver_self hv]

theorem laidOver_assoc {mid : Table} (hx : ∀ u, x = some u → u.IsDistinct) (hmid : mid.keys.Nodup)
    (hv' : v'.IsDistinct) :
    laidOver (some (laidOver x (.table mid))) v' = laidOver x (laidOver (some (.table mid)) v') := by
  by_cases hnew : ∃ new, v' = .table new
  · obtain ⟨new, rfl⟩ := hnew
    by_cases htable : ∃ old, x = some (.table old)
    · obtain ⟨old, rfl⟩ := htable
      exact congrArg Value.table (Table.update_assoc (hx _ rfl) hmid hv')
    · rw [laidOver_of_base (not_exists.mp htable), laidOver_of_base (not_exists.mp htable)]
  · have hscalar := not_exists.mp hnew
    rw [laidOver_of_section _ hscalar, laidOver_of_section _ hscalar, laidOver_of_section _ hscalar]

end Laws

theorem mergeSection_eq (base : Table) (e : String × Value) :
    mergeSection base e = base.insert e.1 (laidOver (base.get? e.1) e.2) := by
  rw [mergeSection]
  split
  · next new old hnew hold =>
    rw [hnew, hold]
    rfl
  · next hnot =>
    by_cases hbase : ∃ old, base.get? e.1 = some (.table old)
    · obtain ⟨old, hold⟩ := hbase
      rw [laidOver_of_section _ fun new hnew => hnot new old hnew hold]
    · rw [laidOver_of_base (not_exists.mp hbase)]

theorem merge_eq_overlay (base override : Table) :
    merge base override = Table.overlay laidOver base override := by
  rw [merge, Table.overlay]
  congr
  funext acc e
  exact mergeSection_eq acc e

section Sections
variable {t : Table} {name : String}

theorem sectionOf_of_table {u : Table} (h : t.get? name = some (.table u)) : sectionOf name t = u := by
  rw [sectionOf, h]
  rfl

theorem sectionOf_of_not_table (h : ∀ u, t.get? name ≠ some (.table u)) : sectionOf name t = [] := by
  rw [sectionOf]
  cases hv : t.get? name with
  | none => rfl
  | some v =>
    cases v with
    | table u => exact absurd hv (h u)
    | _ => rfl

theorem keys_merge {o : Table} (ho : o.keys.Nodup) (b : Table) :
    (merge b o).keys = b.keys ++ o.keys.filter (· ∉ b.keys) := by
  rw [merge_eq_overlay, Table.keys_overlay b ho]

theorem get?_merge {o : Table} (ho : o.keys.Nodup) (b : Table) (name : String) :
    (merge b o).get? name = ((o.get? name).map (laidOver (b.get? name))).or (b.get? name) := by
  rw [merge_eq_overlay, Table.get?_overlay b ho]

/-- Under a key stands what the upper layer has there, else what the lower one has. -/
theorem get?_of_merge_table {b o : Table} (ho : Distinct o)
    (h : (merge b o).get? name = some (.table t)) (key : String) :
    t.get? key = ((sectionOf name o).get? key).or ((sectionOf name b).get? key) := by
  rw [get?_merge ho.names] at h
  cases hsection : o.get? name with
  | none =>
    rw [hsection] at h
    rw [sectionOf_of_not_table (t := o) (by simp [hsection]), sectionOf_of_table h]
    rfl
  | some v =>
    rw [hsection] at h
    have hlaid : laidOver (b.get? name) v = .table t := Option.some.inj h
    cases v with
    | table new =>
      rw [sectionOf_of_table hsection]
      by_cases htable : ∃ old, b.get? name = some (.table old)
      · obtain ⟨old, hold⟩ := htable
        rw [hold] at hlaid
        rw [sectionOf_of_table hold, ← Value.table.inj hlaid]
        exact Table.get?_update old (ho.of_get? hsection) key
      · have hbase := not_exists.mp htable
        rw [laidOver_of_base hbase] at hlaid
        rw [sectionOf_of_not_table hbase, ← Value.table.inj hlaid]
        exact (Option.or_none).symm
    | _ => cases (laidOver_of_section _ (by simp)).symm.trans hlaid

end Sections

section Merge
variable {a b o : Table}

theorem nil_merge (ho : Distinct o) : merge [] o = o := by
  rw [merge_eq_overlay]
  exact Table.nil_overlay (laidOver_of_base (by simp)) ho.names

theorem merge_merge_self (hb : Distinct b) (ho : Distinct o) : merge (merge b o) o = merge b o := by
  simp only [merge_eq_overlay]
  apply Table.overlay_overlay_self hb.names ho.names
  intro name v hv
  exact laidOver_laidOver_self (fun u => hb.of_get?) (ho.of_get? hv)

theorem merge_assoc_of_tables (ha : Distinct a) (hb : Distinct b) (ho : Distinct o)
    (htables : ∀ e ∈ b, ∃ u, e.2 = .table u) : merge (merge a b) o = merge a (merge b o) := by
  simp only [merge_eq_overlay]
  apply Table.overlay_assoc ha.names hb.names ho.names (laidOver_of_base (by simp))
  intro name v v' hv hv'
  obtain ⟨before, after, hsplit, -⟩ := List.lookup_eq_some_iff.mp hv
  obtain ⟨mid, rfl⟩ := htables (name, v) (by simp [hsplit])
  exact laidOver_assoc (fun u => ha.of_get?) (hb.of_get? hv) (ho.of_get? hv')

end Merge

/-- An empty layer changes nothing below or above it, and a layer laid a second time changes nothing.
Sections stay in their order with new ones behind them; a section is laid over the one below it, and
under each of its keys stands one value, the upper one if there is one there. Where the sections in the
middle are tables, layers may be put together from either end. -/
theorem merge_idempotent_override :
    (∀ b o, Distinct b → Distinct o →
      merge b [] = b ∧ merge [] o = o ∧ merge (merge b o) o = merge b o ∧
      (merge b o).keys = b.keys ++ o.keys.filter (· ∉ b.keys) ∧
      (∀ name, (merge b o).get? name =
        ((o.get? name).map (laidOver (b.get? name))).or (b.get? name)) ∧
      ∀ name (t : Table), (merge b o).get? name = some (.table t) → ∀ key,
        t.get? key = ((sectionOf name o).get? key).or ((sectionOf name b).get? key)) ∧
    ∀ a b c, Distinct a → Distinct b → Distinct c → (∀ e ∈ b, ∃ u, e.2 = .table u) →
      merge (merge a b) c = merge a (merge b c) := by
  refine ⟨fun b o hb ho => ⟨rfl, nil_merge ho, merge_merge_self hb ho, keys_merge ho.names b,
    get?_merge ho.names b, ?_⟩, ?_⟩
  · intro name t h
    exact get?_of_merge_table ho h
  · intro a b c
    exact merge_assoc_of_tables

/-- Sections over the defaults: one that is there, one that is new, and one that is no table. -/
def mixedSections : Table :=
  [("AllCops", .table [("Exclude", .list []), ("Style", .bool true)]), ("Language", .int 3),
   ("Extra", .table [("Include", .null)])]

theorem merge_mixedSections :
    let upper : Table := [("Extra", .int 1), ("AllCops", .table [("Include", .list [])])]
    let all : Table := [("Include", .list (defaultIncludes.map .text)), ("Exclude", .list []),
      ("Style", .bool true)]
    Distinct defaults ∧ Distinct mixedSections ∧ Distinct upper ∧
      merge [] mixedSections = mixedSections ∧
      merge (merge defaults mixedSections) mixedSections = merge defaults mixedSections ∧
      (merge defaults mixedSections).keys = ["AllCops", "DescribeClass", "Language", "Extra"] ∧
      (merge defaults mixedSections).get? "Language" = some (.int 3) ∧
      (merge defaults mixedSections).get? "AllCops" = some (.table all) ∧
      Entries.get? all "Include" = ((sectionOf "AllCops" mixedSections).get? "Include").or
        ((sectionOf "AllCops" defaults).get? "Include") ∧
      (∀ e ∈ defaults, ∃ u, e.2 = .table u) ∧
      merge (merge mixedSections defaults) upper = merge mixedSections (merge defaults upper) := by
  intro upper all
  have hdefaults : Distinct defaults := by decide +kernel
  have hmixed : Distinct mixedSections := by decide +kernel
  have hupper : Distinct upper := by decide +kernel
  have htables : ∀ e ∈ defaults, ∃ u, e.2 = .table u := by simp [defaults]
  obtain ⟨hlayers, hassoc⟩ := merge_idempotent_override
  obtain ⟨-, hnil, hself, hnames, hsections, hkeys⟩ := hlayers defaults mixedSections hdefaults hmixed
  have hall : (merge defaults mixedSections).get? "AllCops" = some (.table all) := rfl
  exact ⟨hdefaults, hmixed, hupper, hnil, hself, hnames, hsections "Language", hall,
    hkeys "AllCops" all hall "Include", htables,
    hassoc mixedSections defaults upper hmixed hdefaults hupper htables⟩

/-- A section that is no table takes the place of what is below it only if it is laid there first. -/
example :
    let lower : Table := [("Language", .table [("SharedGroups", .list [])])]
    let middle : Table := [("Language", .null)]
    let upper : Table := [("Language", .table [])]
    merge (merge lower middle) upper = [("Language", .table [])] ∧
      merge lower (merge middle upper) = lower :=
  ⟨rfl, rfl⟩

end Settings
end GroupLint
