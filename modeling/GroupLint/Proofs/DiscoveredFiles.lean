import GroupLint.Proofs.Accounting
import GroupLint.Proofs.Discovery

/-! What stands at the paths that a search gives. Entries below a directory are picked by their names, so
that a directory, a link that leads to no file or an entry that cannot be reached is given like a file. A
run stops when it comes to read one. -/
namespace GroupLint

namespace FileTree
variable {t : FileTree} {here : Location} {i : Item} {names : List String}

theorem Listed.follow_parent (ht : t.WellFormed) (h : t.Listed here names) (hne : names ≠ [])
    (links : Nat) : t.follow links here names =
      t.follow links (here ++ names.dropLast) [names.getLast hne] := by
  have hsplit : names.dropLast ++ [names.getLast hne] = names := List.dropLast_append_getLast hne
  have hpresent : t.entryAt? (here ++ (names.dropLast ++ [names.getLast hne])) ≠ none := by
    rw [hsplit]
    exact h.present
  have hsearch : ∀ a b, names.dropLast = a ++ b → b ≠ [] → t.CanSearch (here ++ a) := by
    intro a b hab hb
    refine h.searchable a (b ++ [names.getLast hne]) ?_ ?_
    · rw [← List.append_assoc, ← hab, hsplit]
    · simpa using List.length_pos_iff.mpr hb
  have hfollow := ht.follow_through links here (by simp) hpresent hsearch
  rwa [hsplit] at hfollow

theorem Listed.follow_of_not_canSearch (ht : t.WellFormed) (h : t.Listed here names) (hne : names ≠ [])
    (hsearch : ¬ t.CanSearch (here ++ names.dropLast)) (links : Nat) :
    t.follow links here names = .error .denied := by
  have hdir : t.IsDirectory (here ++ names.dropLast) := by
    apply ht.directory_above (List.cons_ne_nil (names.getLast hne) [])
    rw [List.append_assoc, List.dropLast_append_getLast]
    exact h.present
  rw [h.follow_parent ht hne, follow_cons, enter_of_not_canSearch _ hdir hsearch]
  rfl

theorem Listed.follow_of_item (ht : t.WellFormed) (h : t.Listed here names) (hne : names ≠ [])
    (hsearch : t.CanSearch (here ++ names.dropLast)) (hitem : t.entryAt? (here ++ names) = some (.item i))
    (links : Nat) : t.follow links here names = .ok (here ++ names, i) := by
  have hname := ht.isName_of_entryAt? h.present (names.getLast hne) (List.getLast_mem hne)
  have hplace : here ++ names.dropLast ++ [names.getLast hne] = here ++ names := by
    rw [List.append_assoc, List.dropLast_append_getLast]
  rw [h.follow_parent ht hne, follow_cons, enter_of_canSearch hsearch hname, hplace]
  simp only [Except.bind, hitem]
  rw [follow_nil, hitem]

end FileTree

theorem Workspace.follow_below {w : Workspace} {p : Path} {dir : Location} {names : List String}
    (hw : w.files.WellFormed) (hdir : w.directory? p = .ok (some dir)) (h : w.files.Listed dir names) :
    ∃ left, w.follow (p.append names) = w.files.follow left dir names := by
  obtain ⟨canList, canSearch, hp⟩ := directory?_eq_some_iff.mp hdir
  exact follow_append hp (hw.isName_of_entryAt? h.present)

/-- What can stand below a directory where a file is looked for. -/
inductive NoFile (w : Workspace) (q : Path) (dir : Location) (names : List String) : Prop
  | hidden (h : ¬ w.files.CanSearch (dir ++ names.dropLast))
  | directory (h : w.files.IsDirectory (dir ++ names))
  | link (target : Path) (h : w.files.entryAt? (dir ++ names) = some (.link target))
    (hq : w.isFile q ≠ .ok true)

namespace Linter

/-- A path that stands for an entry picked below a directory that was given. -/
structure PicksBelow (l : Linter) (w : Workspace) (paths : List Path) (q : Path) (dir : Location)
    (names : List String) : Prop where
  given : ∃ p ∈ paths, w.directory? p = .ok (some dir) ∧ q = p.append names
  picks : l.Picks w.files dir names

variable {l : Linter} {w : Workspace} {paths found : List Path} {p q : Path} {dir : Location}
  {names : List String} {f : FileFault}

section Entries

theorem PicksBelow.follow_of_not_canSearch (hw : w.files.WellFormed) (h : l.PicksBelow w paths q dir names)
    (hsearch : ¬ w.files.CanSearch (dir ++ names.dropLast)) : w.follow q = .error .denied := by
  obtain ⟨⟨p, -, hdir, rfl⟩, hpicks⟩ := h
  obtain ⟨left, hleft⟩ := Workspace.follow_below hw hdir hpicks.listed
  rw [hleft, hpicks.listed.follow_of_not_canSearch hw hpicks.ne_nil hsearch]

theorem PicksBelow.follow_of_item (hw : w.files.WellFormed) (h : l.PicksBelow w paths q dir names)
    (hsearch : w.files.CanSearch (dir ++ names.dropLast)) {i : Item}
    (hitem : w.files.entryAt? (dir ++ names) = some (.item i)) : w.follow q = .ok (dir ++ names, i) := by
  obtain ⟨⟨p, -, hdir, rfl⟩, hpicks⟩ := h
  obtain ⟨left, hleft⟩ := Workspace.follow_below hw hdir hpicks.listed
  rw [hleft, hpicks.listed.follow_of_item hw hpicks.ne_nil hsearch hitem]

theorem PicksBelow.isFile_iff (hw : w.files.WellFormed) (h : l.PicksBelow w paths q dir names) :
    w.isFile q = .ok true ↔ ¬ NoFile w q dir names := by
  rw [Workspace.isFile_eq_true_iff]
  by_cases hsearch : w.files.CanSearch (dir ++ names.dropLast)
  · constructor
    · rintro ⟨place, canRead, content, hfile⟩ (hnot | ⟨canList, canSearch, hentry⟩ | ⟨target, -, hq⟩)
      · exact hnot hsearch
      · simp [h.follow_of_item hw hsearch hentry] at hfile
      · exact hq (Workspace.isFile_eq_true_iff.mpr ⟨place, canRead, content, hfile⟩)
    · intro hnot
      obtain ⟨e, he⟩ := Option.ne_none_iff_exists'.mp h.picks.listed.present
      rcases e with ⟨canList, canSearch⟩ | target
      · exact absurd (.directory ⟨_, _, he⟩) hnot
      · exact ⟨_, _, _, h.follow_of_item hw hsearch he⟩
      · by_contra hfile
        exact hnot (.link _ he (mt Workspace.isFile_eq_true_iff.mp hfile))
  · rw [h.follow_of_not_canSearch hw hsearch]
    simp [NoFile.hidden hsearch]

/-- A walk to a picked entry is denied or comes to it, unless it is a link. -/
theorem PicksBelow.link_of_follow (hw : w.files.WellFormed) (h : l.PicksBelow w paths q dir names)
    (hfollow : w.follow q = .error f) (hf : f ≠ .denied) :
    (f = .missing ∨ f = .notDirectory ∨ f = .linkLoop) ∧
      ∃ target, w.files.entryAt? (dir ++ names) = some (.link target) := by
  have hsearch : w.files.CanSearch (dir ++ names.dropLast) := by
    by_contra hnot
    rw [h.follow_of_not_canSearch hw hnot] at hfollow
    exact hf (Except.error.inj hfollow).symm
  refine ⟨?_, ?_⟩
  · obtain ⟨⟨p, -, hdir, rfl⟩, hpicks⟩ := h
    obtain ⟨left, hleft⟩ := Workspace.follow_below hw hdir hpicks.listed
    rw [hleft] at hfollow
    exact (FileTree.fault_of_follow hfollow).resolve_left hf
  · obtain ⟨e, he⟩ := Option.ne_none_iff_exists'.mp h.picks.listed.present
    cases e with
    | item i => simp [h.follow_of_item hw hsearch he] at hfollow
    | link target => exact ⟨target, he⟩

end Entries

section Found

theorem value_expand (l : Linter) (w : Workspace) (p : Path) : (l.expand w p).outcome.value =
    match w.follow p with
    | .ok (_, .file _ _) => .ok [p]
    | .ok (dir, .directory _ _) => .ok ((l.search w.files dir).map p.append)
    | .error e => if e = .denied then .error (.file .denied) else .ok [] := by
  rcases hfollow : w.follow p with e | ⟨dir, canList | canRead⟩
  · exact value_expand_of_error hfollow
  · exact value_expand_of_directory (Workspace.directory?_eq_some_iff.mpr ⟨_, _, hfollow⟩)
  · exact value_expand_of_isFile (Workspace.isFile_eq_true_iff.mpr ⟨_, _, _, hfollow⟩)

theorem value_expand_eq_error_iff {e : Fault} : (l.expand w p).outcome.value = .error e ↔
    e = .file .denied ∧ w.follow p = .error .denied := by
  rw [value_expand]
  rcases w.follow p with f | ⟨dir, canList | canRead⟩
  · by_cases hf : f = .denied <;> simp [hf, eq_comm]
  · simp
  · simp

theorem mem_of_value_expand {here : List Path} (h : (l.expand w p).outcome.value = .ok here) :
    q ∈ here ↔ w.isFile p = .ok true ∧ q = p ∨
      ∃ dir names, w.directory? p = .ok (some dir) ∧ q = p.append names ∧ l.Picks w.files dir names := by
  simp only [Workspace.isFile_eq_true_iff, Workspace.directory?_eq_some_iff]
  rw [value_expand] at h
  rcases hfollow : w.follow p with e | ⟨dir, canList | canRead⟩
  · rw [hfollow] at h
    by_cases he : e = .denied
    · simp [he] at h
    · obtain rfl : [] = here := by simpa [he] using h
      simp
  · obtain rfl : (l.search w.files dir).map p.append = here := by simpa [hfollow] using h
    simp [mem_search_iff, eq_comm, and_comm]
  · obtain rfl : [p] = here := by simpa [hfollow] using h
    simp

theorem value_discover_eq_error_iff {e : Fault} : (l.discover w paths).outcome.value = .error e ↔
    e = .file .denied ∧ ∃ p ∈ paths, w.follow p = .error .denied := by
  induction paths with
  | nil => simp [discover, Run.outcome]
  | cons p ps ih =>
    rw [value_discover_cons]
    simp only [List.mem_cons, exists_eq_or_imp, and_or_left]
    rw [← ih, ← value_expand_eq_error_iff (l := l)]
    cases hhere : (l.expand w p).outcome.value with
    | error e' =>
      obtain ⟨rfl, -⟩ := value_expand_eq_error_iff.mp hhere
      constructor
      · exact Or.inl
      · rintro (h | h)
        · exact h
        · rw [(ih.mp h).1]
          rfl
    | ok here => cases (l.discover w ps).outcome.value <;> simp [bind, Except.bind, Except.map]

theorem picksBelow_cons_iff : l.PicksBelow w (p :: paths) q dir names ↔
    (w.directory? p = .ok (some dir) ∧ q = p.append names ∧ l.Picks w.files dir names) ∨
      l.PicksBelow w paths q dir names := by
  constructor
  · rintro ⟨⟨p', hp', hdir, rfl⟩, hpicks⟩
    rcases List.mem_cons.mp hp' with rfl | hp'
    · exact Or.inl ⟨hdir, rfl, hpicks⟩
    · exact Or.inr ⟨⟨p', hp', hdir, rfl⟩, hpicks⟩
  · rintro (⟨hdir, rfl, hpicks⟩ | ⟨⟨p', hp', hdir, rfl⟩, hpicks⟩)
    · exact ⟨⟨p, List.mem_cons_self, hdir, rfl⟩, hpicks⟩
    · exact ⟨⟨p', List.mem_cons_of_mem p hp', hdir, rfl⟩, hpicks⟩

theorem mem_of_value_discover (h : (l.discover w paths).outcome.value = .ok found) :
    q ∈ found ↔ q ∈ paths ∧ w.isFile q = .ok true ∨ ∃ dir names, l.PicksBelow w paths q dir names := by
  induction paths generalizing found with
  | nil =>
    obtain rfl : [] = found := Except.ok.inj h
    have hnone : ∀ dir names, ¬ l.PicksBelow w [] q dir names := by
      rintro dir names ⟨⟨p, hp, -⟩, -⟩
      cases hp
    simp [hnone]
  | cons p ps ih =>
    rw [value_discover_cons] at h
    cases hhere : (l.expand w p).outcome.value with
    | error e => simp [hhere, bind, Except.bind] at h
    | ok here =>
      cases hothers : (l.discover w ps).outcome.value with
      | error e => simp [hhere, hothers, bind, Except.bind, Except.map] at h
      | ok others =>
        obtain rfl : here ++ others = found := by
          simpa [hhere, hothers, bind, Except.bind, Except.map] using h
        rw [List.mem_append, mem_of_value_expand hhere, ih hothers]
        simp only [picksBelow_cons_iff, exists_or, List.mem_cons]
        constructor
        · rintro ((⟨hfile, rfl⟩ | hpicked) | ⟨hq, hfile⟩ | hpicked)
          · exact Or.inl ⟨Or.inl rfl, hfile⟩
          · exact Or.inr (Or.inl hpicked)
          · exact Or.inl ⟨Or.inr hq, hfile⟩
          · exact Or.inr (Or.inr hpicked)
        · rintro (⟨rfl | hq, hfile⟩ | hpicked | hpicked)
          · exact Or.inl (Or.inl ⟨hfile, rfl⟩)
          · exact Or.inr (Or.inl ⟨hq, hfile⟩)
          · exact Or.inl (Or.inr hpicked)
          · exact Or.inr (Or.inr hpicked)

end Found

section Faults

theorem parseSource_ne_file (w : Workspace) (path : Option String) (cs : List Char) (f : FileFault) :
    parseSource w path cs ≠ .error (.file f) := by
  intro h
  rw [parseSource] at h
  split at h
  · cases h
  · split at h <;> cases h

theorem value_lintFile_eq_file_iff {p : Path} {f : FileFault} :
    (l.lintFile w p).outcome.value = .error (.file f) ↔ w.read p = .error f := by
  rw [value_lintFile]
  cases hread : w.read p with
  | error e => simp
  | ok bytes =>
    simp only [reduceCtorEq, iff_false]
    -- Once the bytes are there, only the grammar and the rule can fail.
    cases hparse : parseSource w (some p.toString) (sourceText bytes) with
    | error e =>
      intro h
      obtain rfl : e = .file f := Except.error.inj h
      exact parseSource_ne_file w _ _ f hparse
    | ok root =>
      intro h
      rcases Rule.fault_of_investigate h with h | ⟨c, h⟩ <;> cases h

theorem read_ne_error_of_concludes {p : Path} (h : l.Concludes w p) (f : FileFault) :
    w.read p ≠ .error f := by
  intro hread
  have hvalue : (l.lintFile w p).outcome.value = .error (.file f) := value_lintFile_eq_file_iff.mpr hread
  rcases h with ⟨offenses, h⟩ | ⟨e, h⟩
  · simp [h] at hvalue
  · simp [h] at hvalue

theorem value_reportFile_of_concludes {p : Path} (h : l.Concludes w p) :
    ∃ first, (l.reportFile w p).outcome.value = .ok first := by
  rw [value_reportFile]
  rcases h with ⟨offenses, h⟩ | ⟨e, h⟩
  · exact ⟨_, by rw [h]⟩
  · exact ⟨_, by rw [h]⟩

theorem value_reportFile_of_not_concludes {p : Path} (h : ¬ l.Concludes w p) :
    ∃ e, (l.lintFile w p).outcome.value = .error e ∧ (l.reportFile w p).outcome.value = .error e := by
  rw [value_reportFile]
  cases hvalue : (l.lintFile w p).outcome.value with
  | ok offenses => exact absurd (Or.inl ⟨offenses, hvalue⟩) h
  | error e =>
    refine ⟨e, rfl, ?_⟩
    cases e with
    | parse e => exact absurd (Or.inr ⟨e, hvalue⟩) h
    | _ => rfl

/-- One file at a time: a run fails to read a file here, or goes on and fails later. -/
theorem value_reportFiles_cons_eq_file_iff {p : Path} {ps : List Path} {f : FileFault} :
    (l.reportFiles w (p :: ps)).outcome.value = .error (.file f) ↔
      w.read p = .error f ∨
        l.Concludes w p ∧ (l.reportFiles w ps).outcome.value = .error (.file f) := by
  rw [value_reportFiles_cons]
  by_cases hp : l.Concludes w p
  · obtain ⟨first, hfirst⟩ := value_reportFile_of_concludes hp
    rw [hfirst]
    simp only [read_ne_error_of_concludes hp f, hp, true_and, false_or]
    cases (l.reportFiles w ps).outcome.value <;> simp [bind, Except.bind, Except.map]
  · obtain ⟨e, hlint, hreport⟩ := value_reportFile_of_not_concludes hp
    rw [hreport, ← value_lintFile_eq_file_iff, hlint]
    simp [hp, bind, Except.bind]

theorem value_reportFiles_eq_file_iff {ps : List Path} {f : FileFault} :
    (l.reportFiles w ps).outcome.value = .error (.file f) ↔
      ∃ before q after, ps = before ++ q :: after ∧ (∀ p ∈ before, l.Concludes w p) ∧
        w.read q = .error f := by
  induction ps with
  | nil => simp [reportFiles, Run.outcome]
  | cons p ps ih =>
    rw [value_reportFiles_cons_eq_file_iff, ih]
    constructor
    · rintro (hread | ⟨hp, before, q, after, rfl, hbefore, hread⟩)
      · exact ⟨[], p, ps, rfl, by simp, hread⟩
      · exact ⟨p :: before, q, after, rfl, List.forall_mem_cons.mpr ⟨hp, hbefore⟩, hread⟩
    · rintro ⟨before, q, after, heq, hbefore, hread⟩
      cases before with
      | nil =>
        obtain ⟨rfl, -⟩ := List.cons.inj heq
        exact Or.inl hread
      | cons p' before =>
        obtain ⟨rfl, hps⟩ := List.cons.inj heq
        obtain ⟨hp, hbefore⟩ := List.forall_mem_cons.mp hbefore
        exact Or.inr ⟨hp, before, q, after, hps, hbefore, hread⟩

end Faults

/-- The paths found are files, but for entries below a given directory that are picked by their names and
stand for no file. A run over them stops at the first whose text it cannot have: the text of a file only for
want of permission, and none of the others has one. -/
theorem lintPaths_stops_iff_unreadable (l : Linter) (w : Workspace) (paths : List Path)
    (hw : w.files.WellFormed) :
    (∀ e, (l.discover w paths).outcome.value = .error e ↔
      e = .file .denied ∧ ∃ p ∈ paths, w.follow p = .error .denied) ∧
      ∀ found, (l.discover w paths).outcome.value = .ok found →
        (∀ q ∈ found, w.isFile q = .ok true ∨
          ∃ dir names, l.PicksBelow w paths q dir names ∧ NoFile w q dir names) ∧
        (∀ q dir names, l.PicksBelow w paths q dir names →
          q ∈ found ∧ (w.isFile q = .ok true ↔ ¬ NoFile w q dir names)) ∧
        (∀ f, (l.lintPaths w paths).outcome.value = .error (.file f) ↔
          ∃ before q after, found = before ++ q :: after ∧ (∀ p ∈ before, l.Concludes w p) ∧
            w.read q = .error f) ∧
        (∀ q, w.isFile q = .ok true → ∀ f, w.read q = .error f → f = .denied) ∧
        ∀ q ∈ found, w.isFile q ≠ .ok true → ∃ f, w.read q = .error f ∧
          (f = .denied ∨ (f = .isDirectory ∧ ∃ place, w.directory? q = .ok (some place)) ∨
            ((f = .missing ∨ f = .notDirectory ∨ f = .linkLoop) ∧
              ∃ dir names target, l.PicksBelow w paths q dir names ∧
                w.files.entryAt? (dir ++ names) = some (.link target))) := by
  refine ⟨fun e => value_discover_eq_error_iff, ?_⟩
  intro found hfound
  have hpicked : ∀ q ∈ found, w.isFile q ≠ .ok true → ∃ dir names, l.PicksBelow w paths q dir names := by
    intro q hq hfile
    rcases (mem_of_value_discover hfound).mp hq with ⟨-, hgiven⟩ | hpicked
    · exact absurd hgiven hfile
    · exact hpicked
  refine ⟨?_, ?_, ?_, fun q hfile f => Workspace.read_of_isFile hfile, ?_⟩
  · intro q hq
    refine or_iff_not_imp_left.mpr fun hfile => ?_
    obtain ⟨dir, names, hbelow⟩ := hpicked q hq hfile
    exact ⟨dir, names, hbelow, not_not.mp (mt (hbelow.isFile_iff hw).mpr hfile)⟩
  · intro q dir names hbelow
    exact ⟨(mem_of_value_discover hfound).mpr (Or.inr ⟨dir, names, hbelow⟩), hbelow.isFile_iff hw⟩
  · intro f
    rw [value_lintPaths_of_found hfound, value_reportFiles_eq_file_iff]
  · intro q hq hfile
    obtain ⟨f, hread⟩ := Workspace.read_of_not_isFile hfile
    refine ⟨f, hread, ?_⟩
    rcases Workspace.fault_of_read hread with hf | hdir | hfollow
    · exact Or.inl hf
    · exact Or.inr (Or.inl hdir)
    · by_cases hf : f = .denied
      · exact Or.inl hf
      · obtain ⟨dir, names, hbelow⟩ := hpicked q hq hfile
        obtain ⟨hwalk, target, hlink⟩ := hbelow.link_of_follow hw hfollow hf
        exact Or.inr (Or.inr ⟨hwalk, dir, names, target, hbelow, hlink⟩)

/-- An empty file `c`, a directory in `d` that is named like a spec file, and in `e` a link that leads
nowhere. -/
def namedLikeFile : Workspace where
  files := ⟨[(["c"], .file []), (["d"], .directory), (["d", "a_spec.rb"], .directory),
    (["d", "a_spec.rb", "x"], .file []), (["e"], .directory),
    (["e", "b_spec.rb"], .link ⟨0, ["nowhere"]⟩)]⟩
  current := []
  globalSettings := []
  grammar _ := some (.mk "program" true none ⟨0, 0, 0, 0⟩ false false [])
  readTable _ := .error .malformed
  console := .plain

theorem value_expand_namedLikeFile :
    (standard.expand namedLikeFile ⟨0, ["d"]⟩).outcome.value = .ok [⟨0, ["d", "a_spec.rb"]⟩] ∧
      (standard.expand namedLikeFile ⟨0, ["e"]⟩).outcome.value = .ok [⟨0, ["e", "b_spec.rb"]⟩] := by
  have hd : namedLikeFile.files.rubyEntries ["d"] = [["a_spec.rb"]] := by
    rw [FileTree.rubyEntries]
    refine (congrArg (List.mergeSort · namesLE) ?_).trans (List.mergeSort_singleton _)
    decide +kernel
  have he : namedLikeFile.files.rubyEntries ["e"] = [["b_spec.rb"]] := by
    rw [FileTree.rubyEntries]
    refine (congrArg (List.mergeSort · namesLE) ?_).trans (List.mergeSort_singleton _)
    decide +kernel
  have hd' : namedLikeFile.directory? ⟨0, ["d"]⟩ = .ok (some ["d"]) := by decide +kernel
  have he' : namedLikeFile.directory? ⟨0, ["e"]⟩ = .ok (some ["e"]) := by decide +kernel
  rw [value_expand_of_directory hd', value_expand_of_directory he', search, search, hd, he]
  decide +kernel

theorem value_discover_namedLikeFile (p q : Path)
    (h : (standard.expand namedLikeFile p).outcome.value = .ok [q]) :
    (standard.discover namedLikeFile [⟨0, ["c"]⟩, p]).outcome.value = .ok [⟨0, ["c"]⟩, q] := by
  have hc : namedLikeFile.isFile ⟨0, ["c"]⟩ = .ok true := by decide +kernel
  rw [value_discover_cons, value_expand_of_isFile hc, value_discover_singleton, h]
  rfl

theorem lintPaths_namedLikeFile :
    let c : Path := ⟨0, ["c"]⟩
    let d : Path := ⟨0, ["d"]⟩
    let e : Path := ⟨0, ["e"]⟩
    namedLikeFile.files.WellFormed ∧ standard.Concludes namedLikeFile c ∧
      (standard.discover namedLikeFile [c, d]).outcome.value = .ok [c, d.append ["a_spec.rb"]] ∧
      (standard.lintPaths namedLikeFile [c, d]).outcome.value = .error (.file .isDirectory) ∧
      (standard.discover namedLikeFile [c, e]).outcome.value = .ok [c, e.append ["b_spec.rb"]] ∧
      (standard.lintPaths namedLikeFile [c, e]).outcome.value = .error (.file .missing) := by
  intro c d e
  have hw : namedLikeFile.files.WellFormed := by decide +kernel
  have hvalue : (standard.lintFile namedLikeFile c).outcome.value = .ok [] := by decide +kernel
  have hc : standard.Concludes namedLikeFile c := Or.inl ⟨[], hvalue⟩
  have hd := value_discover_namedLikeFile d _ value_expand_namedLikeFile.1
  have he := value_discover_namedLikeFile e _ value_expand_namedLikeFile.2
  obtain ⟨-, hd'⟩ := lintPaths_stops_iff_unreadable standard namedLikeFile [c, d] hw
  obtain ⟨-, he'⟩ := lintPaths_stops_iff_unreadable standard namedLikeFile [c, e] hw
  obtain ⟨-, -, hdstops, -⟩ := hd' _ hd
  obtain ⟨-, -, hestops, -⟩ := he' _ he
  refine ⟨hw, hc, hd, (hdstops .isDirectory).mpr ?_, he, (hestops .missing).mpr ?_⟩
  · exact ⟨[c], _, [], rfl, by simpa using hc, by decide +kernel⟩
  · exact ⟨[c], _, [], rfl, by simpa using hc, by decide +kernel⟩

theorem discover_namedLikeFile :
    let q : Path := ⟨0, ["d", "a_spec.rb"]⟩
    namedLikeFile.files.WellFormed ∧
      (standard.discover namedLikeFile [⟨0, ["d"]⟩]).outcome.value = .ok [q] ∧
      namedLikeFile.directory? q = .ok (some ["d", "a_spec.rb"]) ∧ namedLikeFile.isFile q = .ok false ∧
      (standard.lintPaths namedLikeFile [⟨0, ["d"]⟩]).outcome.value = .error (.file .isDirectory) := by
  intro q
  have hfound := (value_discover_singleton standard namedLikeFile _).trans value_expand_namedLikeFile.1
  have hread : namedLikeFile.read q = .error .isDirectory := by decide +kernel
  refine ⟨by decide +kernel, hfound, by decide +kernel, by decide +kernel, ?_⟩
  rw [value_lintPaths_of_found hfound, value_reportFiles_eq_file_iff]
  exact ⟨[], q, [], rfl, by simp, hread⟩

end Linter
end GroupLint
