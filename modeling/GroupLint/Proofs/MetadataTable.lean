import GroupLint.Proofs.EntryLists
import GroupLint.Proofs.PatternMeaning
import Mathlib.Data.List.Induction

/-! What a settings table says about ignored metadata. Entries are read in turn, and an entry whose key
came before takes its place; so under every key stands what the last entry for it lists. An entry that
lists nothing is told about and otherwise passed over. -/
namespace GroupLint

namespace Value

def isScalar : Value → Bool
  | .bool _ | .int _ | .real _ | .text _ => true
  | _ => false

def isList : Value → Bool
  | .list _ => true
  | _ => false

/-- A scalar is read as a list of itself. -/
def Lists (v x : Value) : Prop := v.isScalar ∧ x = v ∨ ∃ items, v = .list items ∧ x ∈ items

end Value

namespace IgnoredMetadata

def isValid (e : String × Value) : Bool := e.2.isScalar || e.2.isList

def lastFor (t : Table) (key : String) : Option (String × Value) :=
  (t.filter fun e => isValid e && normalizeSymbol e.1 == key).getLast?

def texts (e : String × Value) : List String :=
  ((listed e.2).getD []).map fun v => normalizeSymbol v.shown

section Entry
variable {e : String × Value}

theorem isSome_listed (e : String × Value) : (listed e.2).isSome = isValid e := by
  obtain ⟨k, v⟩ := e
  cases v <;> rfl

theorem mem_listed_iff {v x : Value} : x ∈ (listed v).getD [] ↔ v.Lists x := by
  cases v <;> simp [listed, Value.Lists, Value.isScalar]

theorem mem_texts_iff {text : String} :
    text ∈ texts e ↔ ∃ x, e.2.Lists x ∧ normalizeSymbol x.shown = text := by
  simp [texts, mem_listed_iff]

theorem addEntry_of_valid (he : isValid e) (acc : Entries (List String)) :
    addEntry acc e = acc.insert (normalizeSymbol e.1) (texts e) := by
  rw [← isSome_listed] at he
  obtain ⟨vs, hvs⟩ := Option.isSome_iff_exists.mp he
  rw [addEntry, texts, hvs]
  rfl

theorem addEntry_of_invalid (he : ¬ isValid e) (acc : Entries (List String)) :
    addEntry acc e = acc := by
  rw [← isSome_listed, Option.not_isSome_iff_eq_none] at he
  rw [addEntry, he]

end Entry

section Read
variable (t : Table) (e : String × Value)

theorem ofTable_concat : (ofTable (t ++ [e])).entries = addEntry (ofTable t).entries e := by
  rw [ofTable, List.foldl_concat, ofTable]

theorem ofTable_filter : ofTable (t.filter isValid) = ofTable t := by
  have hstep : (fun acc e => if isValid e then addEntry acc e else acc) = addEntry := by
    funext acc e
    split
    · rfl
    · exact (addEntry_of_invalid ‹_› acc).symm
  rw [ofTable, List.foldl_filter, hstep, ofTable]

theorem eraseDups_concat (ks : List String) (k : String) :
    (ks ++ [k]).eraseDups = if k ∈ ks then ks.eraseDups else ks.eraseDups ++ [k] := by
  rw [List.eraseDups_append, List.cons_removeAll]
  by_cases hk : k ∈ ks
  · simp [hk]
  · simp [hk, List.eraseDups_cons]

theorem keys_ofTable :
    (ofTable t).keys = ((t.filter isValid).map fun e => normalizeSymbol e.1).eraseDups := by
  induction t using List.reverseRecOn with
  | nil => rfl
  | append_singleton t e ih =>
    rw [keys, ofTable_concat, List.filter_append]
    by_cases he : isValid e
    · rw [addEntry_of_valid he, Entries.keys_insert, ← keys, ih, List.filter_singleton, cond_eq_ite, if_pos he,
        List.map_append, List.map_singleton, eraseDups_concat]
      simp only [List.mem_eraseDups]
    · rw [addEntry_of_invalid he, ← keys, ih, List.filter_singleton, cond_eq_ite, if_neg he,
        List.append_nil]

theorem lastFor_concat (key : String) : lastFor (t ++ [e]) key =
    if isValid e && normalizeSymbol e.1 == key then some e else lastFor t key := by
  rw [lastFor, List.filter_append, List.filter_singleton, cond_eq_ite]
  split
  · rw [List.getLast?_concat]
  · rw [List.append_nil, lastFor]

theorem get_ofTable (key : String) : (ofTable t).get? key = (lastFor t key).map texts := by
  induction t using List.reverseRecOn with
  | nil => rfl
  | append_singleton t e ih =>
    rw [get?, ofTable_concat, lastFor_concat]
    by_cases he : isValid e
    · rw [addEntry_of_valid he, Entries.get?_insert, ← get?, ih]
      simp only [he, Bool.true_and, beq_iff_eq]
      split <;> rfl
    · rw [addEntry_of_invalid he, ← get?, ih]
      simp [he]

theorem allows_ofTable_iff (key value : String) : (ofTable t).allows key value ↔
    ∃ e, lastFor t key = some e ∧ ∃ x, e.2.Lists x ∧ normalizeSymbol x.shown = value := by
  rw [allows, get_ofTable, List.contains_iff_mem]
  cases lastFor t key with
  | none => simp
  | some e => simp [mem_texts_iff]

theorem tableNotices_eq : tableNotices t =
    (t.filter fun e => !isValid e).map fun e => .metadataEntrySkipped e.1 := by
  have hnone : (fun e : String × Value => (listed e.2).isNone) = fun e => !isValid e := by
    funext e
    rw [← isSome_listed, Option.not_isSome]
  rw [tableNotices, hnone]

end Read

section Pairs
open Pattern

theorem satisfies_symbolPair_iff {s : Slot} : symbolPair.Satisfies s ↔
    ∃ n key value, s = some n ∧ n.kind = "pair" ∧ n.children = [some key, some value] ∧
      key.kind = "sym" ∧ value.kind = "sym" := by
  have hrow : symbolPair.Satisfies s ↔ ∃ n, s = some n ∧ n.kind = "pair" ∧
      ∃ value key, n.children = [some key, some value] ∧ key.kind = "sym" ∧ value.kind = "sym" := by
    simp [symbolPair, Satisfies, SatisfiesRow]
  rw [hrow]
  constructor
  · intro h
    obtain ⟨n, hs, hn, value, key, h⟩ := h
    exact ⟨n, key, value, hs, hn, h⟩
  · intro h
    obtain ⟨n, key, value, hs, hn, h⟩ := h
    exact ⟨n, hs, hn, value, key, h⟩

theorem match_symbolPair (s : Slot) : symbolPair.match? s = .ok none ∨
    ∃ key value : Node, symbolPair.match? s = .ok (some [some key, some value]) := by
  cases match_cases (p := symbolPair) rfl s with
  | inl hmiss => exact Or.inl hmiss.1
  | inr hhit =>
    obtain ⟨cs, -, hs⟩ := hhit
    obtain ⟨n, key, value, rfl, hn, hc, hkey, hvalue⟩ := satisfies_symbolPair_iff.mp hs
    refine Or.inr ⟨key, value, ?_⟩
    simp [match?, symbolPair, collect, collectRow, coversLength, isRest, hn, hc, hkey, hvalue]

end Pairs

theorem outcome_ofSection {t sec : Table} (h : sec.get? "IgnoredMetadata" = some (.table t))
    (v : Vocabulary) :
    (Rule.ofSection v (.table sec)).outcome = ⟨tableNotices t, .ok ⟨v, ofTable t⟩⟩ := by
  have hsection : Vocabulary.section? (.table sec) = .ok sec := by
    cases sec with
    | nil => simp [Entries.get?] at h
    | cons e sec => rfl
  rw [Rule.ofSection, hsection]
  change Logged.mk (notices (sec.get? "IgnoredMetadata") ++ [] ++ [])
    (Except.ok (Rule.mk v (ofValue (sec.get? "IgnoredMetadata")))) = _
  rw [h, List.append_nil, List.append_nil]
  rfl

/-- A table has the keys of its valid entries in the order in which they first come, and under each
what the last valid entry for it lists. Other entries are told about, each once, and change nothing
else. The pairs that it ignores are those of two symbols that it allows, and looking for one never
fails. -/
theorem ofValue_last_valid_entry_wins (t : Table) :
    let m := ofValue (some (.table t))
    let skipped := (t.filter fun e => !isValid e).map fun e => Notice.metadataEntrySkipped e.1
    m.keys = ((t.filter isValid).map fun e => normalizeSymbol e.1).eraseDups ∧
    (∀ key value, m.allows key value ↔
      ∃ e, lastFor t key = some e ∧ ∃ x, e.2.Lists x ∧ normalizeSymbol x.shown = value) ∧
    (∀ v sec, Entries.get? sec "IgnoredMetadata" = some (.table t) →
      (Rule.ofSection v (.table sec)).outcome = ⟨skipped, .ok ⟨v, m⟩⟩) ∧
    (∀ n ∈ skipped, n.level = .warning) ∧
    m = ofValue (some (.table (t.filter isValid))) ∧
    (∀ s, m.ignoresPair s ↔ IsIgnoredPair m s) ∧
    ∀ s, symbolPair.match? s = .ok none ∨
      ∃ key value : Node, symbolPair.match? s = .ok (some [some key, some value]) := by
  intro m skipped
  refine ⟨keys_ofTable t, allows_ofTable_iff t, fun v sec h => ?_, fun n hn => ?_,
    (ofTable_filter t).symm, fun s => ignoresPair_iff, match_symbolPair⟩
  · rw [outcome_ofSection h, tableNotices_eq]
    rfl
  · obtain ⟨e, -, rfl⟩ := List.mem_map.mp hn
    rfl

/-- Entries for three keys, two of which come with and without a colon. -/
def mixedEntries : Table :=
  [(":type", .list [.text "request"]), (":skip", .null), ("js", .bool true),
   ("type", .list [.text ":feature", .text "view"]), ("skip", .table [])]

theorem ofValue_mixedEntries :
    let sec : Table := [("IgnoredMetadata", .table mixedEntries)]
    let m : IgnoredMetadata := ⟨[("type", ["feature", "view"]), ("js", ["True"])]⟩
    sec.get? "IgnoredMetadata" = some (.table mixedEntries) ∧
      (Rule.ofSection .standard (.table sec)).outcome =
        ⟨[.metadataEntrySkipped ":skip", .metadataEntrySkipped "skip"], .ok ⟨.standard, m⟩⟩ ∧
      ∃ e, lastFor mixedEntries "type" = some e ∧
        ∃ x, e.2.Lists x ∧ normalizeSymbol x.shown = "feature" := by
  intro sec m
  obtain ⟨-, hallows, hsection, -⟩ := ofValue_last_valid_entry_wins mixedEntries
  have hm : ofValue (some (.table mixedEntries)) = m := rfl
  have hget : sec.get? "IgnoredMetadata" = some (.table mixedEntries) := rfl
  refine ⟨hget, ?_, (hallows "type" "feature").mp (by rw [hm]; decide)⟩
  rw [hsection .standard sec hget, hm]
  rfl

end IgnoredMetadata
end GroupLint
