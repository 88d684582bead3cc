import GroupLint.Proofs.FileTree
import GroupLint.Proofs.Linting
import Mathlib.Data.List.Lex
import Mathlib.Data.String.Basic

/-! What a search of a directory finds: every entry below it that the settings select, each once and in
the order of names. Only names below the directory count, so a directory gives the same wherever it
stands. -/
namespace GroupLint

section Order

theorem namesLE_iff {a b : List String} : namesLE a b ↔ ¬ b < a := by
  fun_induction namesLE a b with
  | case1 b => simp
  | case2 a r => simp
  | case3 r a s ih => simp [ih]
  | case4 a r b s h =>
    have hne : b ≠ a := fun heq => h heq.symm
    rw [List.cons_lt_cons_iff, decide_eq_true_iff]
    simp only [hne, false_and, or_false]
    constructor
    · exact String.lt_asymm
    · intro hlt
      by_contra hge
      exact h (String.le_antisymm hlt hge)

theorem sorted_mergeSort (ls : List (List String)) :
    (ls.mergeSort namesLE).Pairwise (fun a b => ¬ b < a) := by
  have htrans : ∀ a b c, namesLE a b → namesLE b c → namesLE a c := by
    intro a b c hab hbc
    rw [namesLE_iff, List.not_lt] at *
    exact List.le_trans hab hbc
  have htotal : ∀ a b, (namesLE a b || namesLE b a) = true := by
    intro a b
    rw [Bool.or_eq_true, namesLE_iff, namesLE_iff, List.not_lt, List.not_lt]
    exact List.le_total a b
  exact (List.pairwise_mergeSort htrans htotal ls).imp namesLE_iff.mp

end Order

namespace FileTree

/-- The listing of a directory comes to an entry below it. Every directory on the way is listed, and
those on the way to another one are searched for it. -/
structure Listed (t : FileTree) (dir : Location) (names : List String) : Prop where
  present : t.entryAt? (dir ++ names) ≠ none
  listable : ∀ between rest, names = between ++ rest → rest ≠ [] → t.CanList (dir ++ between)
  searchable : ∀ between rest, names = between ++ rest → 1 < rest.length → t.CanSearch (dir ++ between)

variable {t : FileTree} {dir : Location} {names : List String}

theorem lists_cons_iff {name : String} : t.lists dir (name :: names) ↔
    t.CanList dir ∧ (names ≠ [] → t.CanSearch dir) ∧ t.lists (dir ++ [name]) names := by
  rw [lists]
  split
  · next canList canSearch h =>
    cases names <;> simp [CanList, CanSearch, h, and_assoc]
  · next h =>
    simp only [Bool.false_eq_true, false_iff, not_and]
    rintro ⟨canSearch, hdir⟩
    exact absurd hdir (h _ _)

theorem lists_iff : t.lists dir names ↔
    (∀ between rest, names = between ++ rest → rest ≠ [] → t.CanList (dir ++ between)) ∧
      ∀ between rest, names = between ++ rest → 1 < rest.length → t.CanSearch (dir ++ between) := by
  induction names generalizing dir with
  | nil =>
    simp only [lists, true_iff, List.nil_eq_append_iff]
    refine ⟨?_, ?_⟩
    · rintro between rest ⟨-, rfl⟩ hne
      exact absurd rfl hne
    · rintro between rest ⟨-, rfl⟩ hlength
      simp at hlength
  | cons name names ih =>
    -- A split of the names is before the first of them, or one of the others.
    rw [lists_cons_iff, ih]
    simp only [List.append_assoc, List.singleton_append]
    constructor
    · rintro ⟨hlist, hsearch, hlists, hsearches⟩
      refine ⟨?_, ?_⟩
      · rintro (_ | ⟨first, between⟩) rest heq hne
        · rwa [List.append_nil]
        · obtain ⟨rfl, hrest⟩ := List.cons.inj heq
          exact hlists between rest hrest hne
      · rintro (_ | ⟨first, between⟩) rest heq hlength
        · rw [List.nil_append] at heq
          rw [List.append_nil]
          apply hsearch
          rintro rfl
          simp [← heq] at hlength
        · obtain ⟨rfl, hrest⟩ := List.cons.inj heq
          exact hsearches between rest hrest hlength
    · rintro ⟨hlists, hsearches⟩
      refine ⟨?_, ?_, ?_, ?_⟩
      · simpa using hlists [] (name :: names) rfl (by simp)
      · intro hne
        have hlength := List.length_pos_iff.mpr hne
        simpa using hsearches [] (name :: names) rfl (by simpa using hlength)
      · intro between rest heq hne
        exact hlists (name :: between) rest (by rw [heq]; rfl) hne
      · intro between rest heq hlength
        exact hsearches (name :: between) rest (by rw [heq]; rfl) hlength

theorem listed_iff : t.Listed dir names ↔ t.entryAt? (dir ++ names) ≠ none ∧ t.lists dir names := by
  rw [lists_iff]
  exact ⟨fun ⟨h1, h2, h3⟩ => ⟨h1, h2, h3⟩, fun ⟨h1, h2, h3⟩ => ⟨h1, h2, h3⟩⟩

instance (t : FileTree) (dir : Location) (names : List String) : Decidable (t.Listed dir names) :=
  decidable_of_iff _ listed_iff.symm

theorem namesBelow_eq_some_iff {l : Location} :
    (if dir.isPrefixOf l then some (l.drop dir.length) else none) = some names ↔ l = dir ++ names := by
  constructor
  · intro h
    split at h
    · next hprefix =>
      obtain ⟨rest, rfl⟩ := List.isPrefixOf_iff_prefix.mp hprefix
      rw [List.drop_left] at h
      rw [Option.some.inj h]
    · cases h
  · rintro rfl
    rw [if_pos (List.isPrefixOf_iff_prefix.mpr (List.prefix_append dir names)), List.drop_left]

theorem mem_rubyEntries_iff :
    names ∈ t.rubyEntries dir ↔
      (∃ name, names.getLast? = some name ∧ name.endsWith ".rb") ∧ t.Listed dir names := by
  rw [rubyEntries, List.mem_mergeSort, List.mem_filter, List.mem_filterMap, Bool.and_eq_true,
    Option.any_eq_true, and_left_comm, listed_iff]
  refine and_congr_right ?_
  rintro ⟨name, hlast, -⟩
  have hne : names ≠ [] := by
    rintro rfl
    cases hlast
  refine and_congr_left' ?_
  rw [entryAt?_ne_none_iff hne]
  constructor
  · rintro ⟨⟨l, e⟩, hmem, hbelow⟩
    obtain rfl := namesBelow_eq_some_iff.mp hbelow
    exact ⟨e, hmem⟩
  · rintro ⟨e, hmem⟩
    exact ⟨_, hmem, namesBelow_eq_some_iff.mpr rfl⟩

theorem nodup_rubyEntries (ht : t.WellFormed) : (t.rubyEntries dir).Nodup := by
  let below (l : Location) := if dir.isPrefixOf l then some (l.drop dir.length) else none
  have hbelow : ((t.entries.map Prod.fst).filterMap below).Nodup := by
    apply ht.distinct.filterMap
    intro a b names ha hb
    rw [namesBelow_eq_some_iff.mp ha, namesBelow_eq_some_iff.mp hb]
  rw [List.filterMap_map] at hbelow
  rw [rubyEntries, (List.mergeSort_perm _ _).nodup_iff]
  exact hbelow.filter _

theorem rubyEntries_pairwise_lt (ht : t.WellFormed) : (t.rubyEntries dir).Pairwise (· < ·) :=
  ((sorted_mergeSort _).and (nodup_rubyEntries ht)).imp fun h => lt_of_le_of_ne (not_lt.mp h.1) h.2

end FileTree

namespace Linter

/-- Whether an entry below a directory, by the names that lead to it from there, is one to check. -/
structure Picks (l : Linter) (t : FileTree) (dir : Location) (names : List String) : Prop where
  listed : t.Listed dir names
  ruby : ∃ name, names.getLast? = some name ∧ name.endsWith ".rb"
  notSkipped : ∀ name ∈ names.dropLast, name ∉ skippedDirectories
  notExcluded : ∀ g ∈ l.excludes, ¬ Glob.matchesPath (Path.posix names).toList g.toList
  included : ∃ g ∈ l.includes, Glob.matchesPath (Path.posix names).toList g.toList

variable {l : Linter} {t : FileTree} {w : Workspace} {dir : Location} {p : Path}

theorem Picks.ne_nil {names : List String} (h : l.Picks t dir names) : names ≠ [] := by
  obtain ⟨name, hlast, -⟩ := h.ruby
  rintro rfl
  cases hlast

theorem mem_search_iff {names : List String} : names ∈ l.search t dir ↔ l.Picks t dir names := by
  rw [search, List.mem_filter, FileTree.mem_rubyEntries_iff]
  simp only [inSkippedDirectory, selects, Bool.and_eq_true, Bool.not_eq_true', List.any_eq_false,
    List.any_eq_true, List.contains_iff_mem]
  constructor
  · rintro ⟨⟨hruby, hlisted⟩, hskipped, hexcluded, hincluded⟩
    exact ⟨hlisted, hruby, hskipped, hexcluded, hincluded⟩
  · intro h
    exact ⟨⟨h.ruby, h.listed⟩, h.notSkipped, h.notExcluded, h.included⟩

theorem nodup_search (ht : t.WellFormed) : (l.search t dir).Nodup :=
  (FileTree.nodup_rubyEntries ht).filter _

theorem search_pairwise_lt (ht : t.WellFormed) : (l.search t dir).Pairwise (· < ·) :=
  (FileTree.rubyEntries_pairwise_lt ht).filter _

/-- What is found depends on what is listed below the directory, and on nothing else. -/
theorem search_eq_search {t' : FileTree} {dir' : Location} (ht : t.WellFormed) (ht' : t'.WellFormed)
    (hsame : ∀ names, names ≠ [] → (t.Listed dir names ↔ t'.Listed dir' names)) :
    l.search t dir = l.search t' dir' := by
  have hsorted : (l.search t dir).Pairwise (· < ·) := search_pairwise_lt ht
  have hsorted' : (l.search t' dir').Pairwise (· < ·) := search_pairwise_lt ht'
  have hmem : ∀ names, names ∈ l.search t dir ↔ names ∈ l.search t' dir' := by
    intro names
    rw [mem_search_iff, mem_search_iff]
    constructor
    · intro h
      exact ⟨(hsame names h.ne_nil).mp h.listed, h.ruby, h.notSkipped, h.notExcluded, h.included⟩
    · intro h
      exact ⟨(hsame names h.ne_nil).mpr h.listed, h.ruby, h.notSkipped, h.notExcluded, h.included⟩
  have hperm : (l.search t dir).Perm (l.search t' dir') :=
    (List.perm_ext_iff_of_nodup (nodup_search ht) (nodup_search ht')).mpr hmem
  exact hperm.eq_of_pairwise (fun a b _ _ hab hba => absurd hba (List.lt_asymm hab)) hsorted hsorted'

section Expand

theorem value_expand_of_directory (h : w.directory? p = .ok (some dir)) :
    (l.expand w p).outcome.value = .ok ((l.search w.files dir).map p.append) := by
  obtain ⟨canList, canSearch, hfollow⟩ := Workspace.directory?_eq_some_iff.mp h
  rw [expand, Workspace.look_eq_some_iff.mpr hfollow]
  rfl

theorem value_expand_of_isFile (h : w.isFile p = .ok true) : (l.expand w p).outcome.value = .ok [p] := by
  obtain ⟨place, canRead, content, hfollow⟩ := Workspace.isFile_eq_true_iff.mp h
  rw [expand, Workspace.look_eq_some_iff.mpr hfollow]
  rfl

theorem value_expand_of_error {e : FileFault} (h : w.follow p = .error e) :
    (l.expand w p).outcome.value = if e = .denied then .error (.file .denied) else .ok [] := by
  by_cases he : e = .denied
  · subst he
    rw [expand, Workspace.look_eq_error_iff.mpr ⟨rfl, h⟩]
    rfl
  · rw [expand, Workspace.look_eq_none_iff.mpr ⟨e, h, he⟩, if_neg he]
    rfl

end Expand

section Discover

theorem value_discover_cons (l : Linter) (w : Workspace) (p : Path) (ps : List Path) :
    (l.discover w (p :: ps)).outcome.value = (l.expand w p).outcome.value >>= fun here =>
      (l.discover w ps).outcome.value.map (here ++ ·) := by
  rw [discover, Run.value_bind]
  congr 1
  funext here
  rw [Run.value_bind]
  cases (l.discover w ps).outcome.value <;> rfl

theorem value_discover (l : Linter) (w : Workspace) (paths : List Path) :
    (l.discover w paths).outcome.value =
      (paths.mapM fun p => (l.expand w p).outcome.value).map List.flatten := by
  induction paths with
  | nil => rfl
  | cons p ps ih =>
    rw [value_discover_cons, ih, List.mapM_cons]
    cases (l.expand w p).outcome.value with
    | error e => rfl
    | ok here => cases ps.mapM fun p => (l.expand w p).outcome.value <;> rfl

theorem value_discover_append (l : Linter) (w : Workspace) (ps qs : List Path) :
    (l.discover w (ps ++ qs)).outcome.value = (l.discover w ps).outcome.value >>= fun a =>
      (l.discover w qs).outcome.value.map (a ++ ·) := by
  simp only [value_discover, List.mapM_append]
  cases ps.mapM fun p => (l.expand w p).outcome.value with
  | error e => rfl
  | ok a =>
    cases qs.mapM fun p => (l.expand w p).outcome.value with
    | error e => rfl
    | ok b => exact congrArg Except.ok List.flatten_append

theorem value_discover_singleton (l : Linter) (w : Workspace) (p : Path) :
    (l.discover w [p]).outcome.value = (l.expand w p).outcome.value := by
  rw [value_discover_cons]
  cases (l.expand w p).outcome.value with
  | error e => rfl
  | ok here => exact congrArg Except.ok (List.append_nil here)

end Discover

/-- A search of a directory gives the entries to check below it, in the order of names, and the same
wherever the directory stands. Of several paths each adds what it gives alone: a file itself, a path
that leads nowhere nothing, and a path that is denied stops the search. -/
theorem discover_picks_in_order (l : Linter) (w : Workspace) (hw : w.files.WellFormed) :
    (∀ p dir, w.directory? p = .ok (some dir) →
      ∃ found, (l.discover w [p]).outcome.value = .ok found ∧
        found.Pairwise (fun a b => a.slashes = b.slashes ∧ a.names < b.names) ∧
        (∀ q, q ∈ found ↔ ∃ names, q = p.append names ∧ l.Picks w.files dir names) ∧
        ∀ w' p' dir', w'.files.WellFormed → w'.directory? p' = .ok (some dir') →
          (∀ names, names ≠ [] → (w.files.Listed dir names ↔ w'.files.Listed dir' names)) →
          ∃ below : List (List String), found = below.map p.append ∧
            (l.discover w' [p']).outcome.value = .ok (below.map p'.append)) ∧
      (∀ paths, (l.discover w paths).outcome.value =
        (paths.mapM fun p => (l.discover w [p]).outcome.value).map List.flatten) ∧
      (∀ p, w.isFile p = .ok true → (l.discover w [p]).outcome.value = .ok [p]) ∧
      ∀ p e, w.follow p = .error e →
        (l.discover w [p]).outcome.value = if e = .denied then .error (.file .denied) else .ok [] := by
  simp only [value_discover_singleton]
  refine ⟨?_, value_discover l w, fun p => value_expand_of_isFile, fun p e => value_expand_of_error⟩
  intro p dir hdir
  refine ⟨_, value_expand_of_directory hdir, ?_, ?_, ?_⟩
  · rw [List.pairwise_map]
    exact (search_pairwise_lt hw).imp fun h => ⟨rfl, List.append_left_lt h⟩
  · intro q
    simp only [List.mem_map, mem_search_iff, eq_comm, and_comm]
  · intro w' p' dir' hw' hdir' hsame
    refine ⟨l.search w.files dir, rfl, ?_⟩
    rw [value_expand_of_directory hdir', search_eq_search hw hw' hsame]

def standard : Linter := ⟨⟨.standard, .standard⟩, Settings.defaultIncludes, Settings.defaultExcludes⟩

/-- An application below `vendor`: a name that sorts before a slash, an entry in `tmp`, one in a directory
that may not be listed, and a link that leads nowhere. -/
def vendored : Workspace where
  files := ⟨[(["vendor"], .directory), (["vendor", "app"], .directory),
    (["vendor", "app", "a-c_spec.rb"], .file []), (["vendor", "app", "a"], .directory),
    (["vendor", "app", "a", "b_spec.rb"], .file []), (["vendor", "app", "tmp"], .directory),
    (["vendor", "app", "tmp", "d_spec.rb"], .file []),
    (["vendor", "app", "kept"], .item (.directory false true)),
    (["vendor", "app", "kept", "e_spec.rb"], .file []),
    (["vendor", "app", "f_spec.rb"], .link ⟨0, ["nowhere"]⟩)]⟩
  current := ["vendor"]
  globalSettings := []
  grammar _ := none
  readTable _ := .error .malformed
  console := .plain

theorem discover_vendored :
    let p : Path := ⟨0, ["app"]⟩
    let full : Path := ⟨1, ["vendor", "app"]⟩
    let dir := ["vendor", "app"]
    vendored.files.WellFormed ∧ vendored.directory? p = .ok (some dir) ∧
      vendored.directory? full = .ok (some dir) ∧
      ∃ found, (standard.discover vendored [p]).outcome.value = .ok found ∧
        found.Pairwise (fun a b => a.slashes = b.slashes ∧ a.names < b.names) ∧
        p.append ["a", "b_spec.rb"] ∈ found ∧ p.append ["f_spec.rb"] ∈ found ∧
        p.append ["tmp", "d_spec.rb"] ∉ found ∧ p.append ["kept", "e_spec.rb"] ∉ found ∧
        ∃ below : List (List String), found = below.map p.append ∧
          (standard.discover vendored [full]).outcome.value = .ok (below.map full.append) := by
  intro p full dir
  have hw : vendored.files.WellFormed := by decide +kernel
  have hp : vendored.directory? p = .ok (some dir) := by decide +kernel
  have hfull : vendored.directory? full = .ok (some dir) := by decide +kernel
  obtain ⟨found, hfound, hsorted, hmem, hplace⟩ := (discover_picks_in_order standard vendored hw).1 p dir hp
  have hnested : standard.Picks vendored.files dir ["a", "b_spec.rb"] :=
    ⟨by decide +kernel, ⟨"b_spec.rb", rfl, by decide +kernel⟩, by decide +kernel, by decide +kernel,
      by decide +kernel⟩
  have hlink : standard.Picks vendored.files dir ["f_spec.rb"] :=
    ⟨by decide +kernel, ⟨"f_spec.rb", rfl, by decide +kernel⟩, by decide +kernel, by decide +kernel,
      by decide +kernel⟩
  have hout : ∀ names, ¬ standard.Picks vendored.files dir names → p.append names ∉ found := by
    intro names hnot h
    obtain ⟨names', heq, hpicks⟩ := (hmem _).mp h
    obtain rfl : names = names' := by simpa [Path.append] using heq
    exact hnot hpicks
  refine ⟨hw, hp, hfull, found, hfound, hsorted, (hmem _).mpr ⟨_, rfl, hnested⟩,
    (hmem _).mpr ⟨_, rfl, hlink⟩, hout _ ?_, hout _ ?_, hplace vendored full dir hw hfull fun _ _ => Iff.rfl⟩
  · intro h
    exact h.notSkipped "tmp" (by simp) (by decide)
  · intro h
    have hlisted : ¬ vendored.files.Listed dir ["kept", "e_spec.rb"] := by decide +kernel
    exact hlisted h.listed

end Linter
end GroupLint
