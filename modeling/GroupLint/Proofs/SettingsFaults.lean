import GroupLint.PlainConsole
import GroupLint.Proofs.FileTree
import GroupLint.Proofs.Utf8
import GroupLint.Settings

/-! Which settings files stop a run. A file that is missing, that cannot be read or whose text is
malformed is refused as a settings file, and passed over if nobody asked for it. A file that is no text
at all stops the run in either case, and so does a text at which the reader itself gives up. -/
namespace GroupLint

namespace Workspace
variable {w : Workspace} {p : Path} {f : FileFault}

theorem follow_eq_nullInPath_iff : w.follow p = .error .nullInPath ↔ p.hasNull := by
  by_cases hn : p.hasNull
  · simp [follow, hn]
  · refine iff_of_false ?_ hn
    intro h
    rw [follow, if_neg hn] at h
    simpa using FileTree.fault_of_follow h

theorem read_eq_nullInPath_iff : w.read p = .error .nullInPath ↔ p.hasNull := by
  rw [← follow_eq_nullInPath_iff (w := w)]
  constructor
  · intro h
    rcases fault_of_read h with h | ⟨h, -⟩ | h
    · cases h
    · cases h
    · exact h
  · intro h
    rw [read, h]

theorem resolve_eq_error_iff : w.resolve p = .error f ↔ (f = .nullInPath ∧ p.hasNull) ∨
    (f = .linkLoop ∧ w.resolve p = .error .linkLoop) := by
  by_cases hn : p.hasNull
  · simp [resolve, hn, eq_comm]
  · simp only [resolve, hn, Bool.false_eq_true, if_false, and_false, false_or]
    split <;> simp [eq_comm]

end Workspace

namespace Settings
open Text

inductive Refused (w : Workspace) (p : Path) : SettingsFault → Prop
  | missing : w.read p = .error .missing → Refused w p (.notFound p.toString)
  | unreadable {why : FileFault} : w.read p = .error why → why ≠ .missing → why ≠ .nullInPath →
    Refused w p (.unreadable p.toString why)
  | malformed {cs : List Char} : w.read p = .ok (Utf8.encode cs) →
    w.readTable (unifyNewlines cs) = .error .malformed → Refused w p (.malformed p.toString)

inductive Stops (w : Workspace) (p : Path) : Fault → Prop
  | illFormed {bytes : List UInt8} : w.read p = .ok bytes → (∀ cs, bytes ≠ Utf8.encode cs) →
    Stops w p .illFormedText
  | reader {cs : List Char} {why : Toml.Fault} : w.read p = .ok (Utf8.encode cs) →
    w.readTable (unifyNewlines cs) = .error why → why ≠ .malformed → Stops w p (.settingsText why)

section OneFile
variable {w : Workspace} {p : Path} {f : Fault}

theorem tableAt_of_table {cs : List Char} {t : Table} (hr : w.read p = .ok (Utf8.encode cs))
    (ht : w.readTable (unifyNewlines cs) = .ok t) : tableAt w p = .ok t := by
  have hd : Utf8.decode? (Utf8.encode cs) = some cs := Utf8.decode?_eq_some_iff.mpr rfl
  simp only [tableAt, hr, hd, ht]

theorem tableAt_of_reader {cs : List Char} {why : Toml.Fault} (hr : w.read p = .ok (Utf8.encode cs))
    (ht : w.readTable (unifyNewlines cs) = .error why) :
    tableAt w p =
      .error (if why = .malformed then .settings (.malformed p.toString) else .settingsText why) := by
  have hd : Utf8.decode? (Utf8.encode cs) = some cs := Utf8.decode?_eq_some_iff.mpr rfl
  simp only [tableAt, hr, hd, ht]
  cases why <;> rfl

theorem tableAt_of_refused {why : SettingsFault} (h : Refused w p why) :
    tableAt w p = .error (.settings why) := by
  cases h with
  | missing hr => simp [tableAt, hr]
  | @unreadable why hr hm hn => cases why <;> simp_all [tableAt]
  | malformed hr ht => rw [tableAt_of_reader hr ht, if_pos rfl]

theorem tableAt_of_stops (h : Stops w p f) : tableAt w p = .error f := by
  cases h with
  | illFormed hr hbytes => simp only [tableAt, hr, Utf8.decode?_eq_none_iff.mpr hbytes]
  | reader hr ht hm => rw [tableAt_of_reader hr ht, if_neg hm]

theorem faults_of_tableAt (h : tableAt w p = .error f) :
    (∃ why, f = .settings why ∧ Refused w p why) ∨ (f = .file .nullInPath ∧ p.hasNull) ∨
      Stops w p f := by
  cases hr : w.read p with
  | error why =>
    by_cases hm : why = .missing
    · subst hm
      obtain rfl : .settings (.notFound p.toString) = f := by simpa [tableAt, hr] using h
      exact Or.inl ⟨_, rfl, .missing hr⟩
    · by_cases hn : why = .nullInPath
      · subst hn
        obtain rfl : .file .nullInPath = f := by simpa [tableAt, hr] using h
        exact Or.inr (Or.inl ⟨rfl, Workspace.read_eq_nullInPath_iff.mp hr⟩)
      · have hrefused : Refused w p (.unreadable p.toString why) := .unreadable hr hm hn
        rw [tableAt_of_refused hrefused] at h
        exact Or.inl ⟨_, (Except.error.inj h).symm, hrefused⟩
  | ok bytes =>
    cases hd : Utf8.decode? bytes with
    | none =>
      have hstops : Stops w p .illFormedText := .illFormed hr (Utf8.decode?_eq_none_iff.mp hd)
      obtain rfl := Except.error.inj ((tableAt_of_stops hstops).symm.trans h)
      exact Or.inr (Or.inr hstops)
    | some cs =>
      rw [Utf8.decode?_eq_some_iff.mp hd] at hr
      cases ht : w.readTable (unifyNewlines cs) with
      | ok t => simp [tableAt_of_table hr ht] at h
      | error why =>
        by_cases hm : why = .malformed
        · subst hm
          have hrefused : Refused w p (.malformed p.toString) := .malformed hr ht
          rw [tableAt_of_refused hrefused] at h
          exact Or.inl ⟨_, (Except.error.inj h).symm, hrefused⟩
        · have hstops : Stops w p (.settingsText why) := .reader hr ht hm
          obtain rfl := Except.error.inj ((tableAt_of_stops hstops).symm.trans h)
          exact Or.inr (Or.inr hstops)

theorem tableAt_eq_error_iff :
    tableAt w p = .error f ↔
      (∃ why, f = .settings why ∧ Refused w p why) ∨ (f = .file .nullInPath ∧ p.hasNull) ∨
        Stops w p f := by
  constructor
  · exact faults_of_tableAt
  · rintro (⟨why, rfl, h⟩ | ⟨rfl, h⟩ | h)
    · exact tableAt_of_refused h
    · simp [tableAt, Workspace.read_eq_nullInPath_iff.mpr h]
    · exact tableAt_of_stops h

end OneFile

/-- Of several files the first that is neither absent nor refused stops the run. Whether a file is there
cannot be told where the way to it is denied. -/
inductive StopsFirst (w : Workspace) : List Path → Fault → Prop
  | denied {p : Path} {ps : List Path} : w.follow p = .error .denied →
    StopsFirst w (p :: ps) (.file .denied)
  | here {p : Path} {ps : List Path} {f : Fault} : w.isFile p = .ok true → Stops w p f →
    StopsFirst w (p :: ps) f
  | absent {p : Path} {ps : List Path} {f : Fault} : w.isFile p = .ok false → StopsFirst w ps f →
    StopsFirst w (p :: ps) f
  | refused {p : Path} {ps : List Path} {why : SettingsFault} {f : Fault} : w.isFile p = .ok true →
    Refused w p why → StopsFirst w ps f → StopsFirst w (p :: ps) f

section Files
variable {w : Workspace} {p : Path} {ps : List Path} {f : Fault}

theorem loadFirst_of_denied (h : w.follow p = .error .denied) :
    loadFirst w (p :: ps) = throw (.file .denied) := by
  rw [loadFirst, Workspace.isFile_eq_error_iff.mpr ⟨rfl, h⟩]

theorem loadFirst_of_absent (h : w.isFile p = .ok false) : loadFirst w (p :: ps) = loadFirst w ps := by
  rw [loadFirst, h]

theorem outcome_loadFirst_of_table (hp : w.isFile p = .ok true) {t : Table} (h : tableAt w p = .ok t) :
    (loadFirst w (p :: ps)).outcome = ⟨[.settingsLoaded p.toString], .ok (merge defaults t)⟩ := by
  rw [loadFirst, hp, h]
  rfl

theorem outcome_loadFirst_of_refused (hp : w.isFile p = .ok true) {why : SettingsFault}
    (h : Refused w p why) : (loadFirst w (p :: ps)).outcome =
      ⟨.settingsIgnored why.message :: (loadFirst w ps).outcome.notices,
        (loadFirst w ps).outcome.value⟩ := by
  rw [loadFirst, hp, tableAt_of_refused h]
  rfl

theorem value_loadFirst_of_stops (hp : w.isFile p = .ok true) (h : Stops w p f) :
    (loadFirst w (p :: ps)).outcome.value = .error f := by
  rw [loadFirst, hp, tableAt_of_stops h]
  cases h <;> rfl

theorem value_loadFirst_of_stopsFirst (h : StopsFirst w ps f) :
    (loadFirst w ps).outcome.value = .error f := by
  induction h with
  | denied hdenied =>
    rw [loadFirst_of_denied hdenied]
    rfl
  | here hp hstops => exact value_loadFirst_of_stops hp hstops
  | absent hp _ ih => rwa [loadFirst_of_absent hp]
  | refused hp hrefused _ ih => rwa [outcome_loadFirst_of_refused hp hrefused]

theorem stopsFirst_of_value_loadFirst (h : (loadFirst w ps).outcome.value = .error f) :
    StopsFirst w ps f := by
  induction ps with
  | nil => cases h
  | cons p ps ih =>
    cases hp : w.isFile p with
    | error e =>
      obtain ⟨-, hdenied⟩ := Workspace.isFile_eq_error_iff.mp hp
      rw [loadFirst_of_denied hdenied] at h
      obtain rfl := Except.error.inj h
      exact .denied hdenied
    | ok there =>
      cases there with
      | false =>
        rw [loadFirst_of_absent hp] at h
        exact .absent hp (ih h)
      | true =>
        cases ht : tableAt w p with
        | ok t => simp [outcome_loadFirst_of_table hp ht] at h
        | error g =>
          rcases faults_of_tableAt ht with ⟨why, -, hrefused⟩ | ⟨-, hnull⟩ | hstops
          · rw [outcome_loadFirst_of_refused hp hrefused] at h
            exact .refused hp hrefused (ih h)
          · obtain ⟨l, canRead, content, hfollow⟩ := Workspace.isFile_eq_true_iff.mp hp
            simp [Workspace.follow_eq_nullInPath_iff.mpr hnull] at hfollow
          · rw [value_loadFirst_of_stops hp hstops] at h
            obtain rfl := Except.error.inj h
            exact .here hp hstops

end Files

section Project
variable {w : Workspace} {start : Path} {ps : List Path} {f : Fault}

/-- A search for a file stops where the way to one is denied before any is found. -/
theorem firstFile_eq_error_iff {e : FileFault} : firstFile w ps = .error e ↔ e = .denied ∧
    ∃ before p after, ps = before ++ p :: after ∧ (∀ q ∈ before, w.isFile q = .ok false) ∧
      w.follow p = .error .denied := by
  induction ps with
  | nil => simp [firstFile]
  | cons p ps ih =>
    cases hp : w.isFile p with
    | error e' =>
      obtain ⟨rfl, hdenied⟩ := Workspace.isFile_eq_error_iff.mp hp
      rw [firstFile, hp]
      constructor
      · intro h
        exact ⟨(Except.error.inj h).symm, [], p, ps, rfl, by simp, hdenied⟩
      · rintro ⟨rfl, -⟩
        rfl
    | ok there =>
      have hnot : w.follow p ≠ .error .denied := by
        intro h
        simp [Workspace.isFile_eq_error_iff.mpr ⟨rfl, h⟩] at hp
      cases there with
      | true =>
        rw [firstFile, hp]
        refine iff_of_false (by simp) ?_
        rintro ⟨-, _ | ⟨p', before⟩, q, after, heq, hbefore, hdenied⟩
        · obtain ⟨rfl, -⟩ := List.cons.inj heq
          exact hnot hdenied
        · obtain ⟨rfl, -⟩ := List.cons.inj heq
          simp [hbefore p List.mem_cons_self] at hp
      | false =>
        rw [firstFile, hp, ih]
        refine and_congr_right fun _ => ?_
        constructor
        · rintro ⟨before, q, after, rfl, hbefore, hdenied⟩
          exact ⟨p :: before, q, after, rfl, List.forall_mem_cons.mpr ⟨hp, hbefore⟩, hdenied⟩
        · rintro ⟨_ | ⟨p', before⟩, q, after, heq, hbefore, hdenied⟩
          · obtain ⟨rfl, -⟩ := List.cons.inj heq
            exact absurd hdenied hnot
          · obtain ⟨rfl, rfl⟩ := List.cons.inj heq
            exact ⟨before, q, after, rfl, (List.forall_mem_cons.mp hbefore).2, hdenied⟩

/-- The nearest settings file cannot be looked for from a start. -/
inductive SearchFails (w : Workspace) (start : Path) : Fault → Prop
  | null : start.hasNull → SearchFails w start (.file .nullInPath)
  | circular : w.resolve start = .error .linkLoop → SearchFails w start .circularPath
  | denied {dir : Location} {before after : List Path} {p : Path} : w.resolve start = .ok dir →
    (ancestors dir).map settingsPath = before ++ p :: after → (∀ q ∈ before, w.isFile q = .ok false) →
    w.follow p = .error .denied → SearchFails w start (.file .denied)

theorem findProject_of_searchFails (h : SearchFails w start f) : findProject w start = .error f := by
  cases h with
  | null hnull => rw [findProject, Workspace.resolve_eq_error_iff.mpr (Or.inl ⟨rfl, hnull⟩)]
  | circular hloop => rw [findProject, hloop]
  | denied hdir hsplit hbefore hdenied =>
    rw [findProject, hdir]
    exact congrArg (Except.mapError Fault.file)
      (firstFile_eq_error_iff.mpr ⟨rfl, _, _, _, hsplit, hbefore, hdenied⟩)

theorem searchFails_of_findProject (h : findProject w start = .error f) : SearchFails w start f := by
  cases hresolve : w.resolve start with
  | error e =>
    rcases Workspace.resolve_eq_error_iff.mp hresolve with ⟨rfl, hnull⟩ | ⟨rfl, hloop⟩
    · rw [findProject, hresolve] at h
      obtain rfl := Except.error.inj h
      exact .null hnull
    · rw [findProject, hresolve] at h
      obtain rfl := Except.error.inj h
      exact .circular hloop
  | ok dir =>
    rw [findProject, hresolve] at h
    cases hfirst : firstFile w ((ancestors dir).map settingsPath) with
    | ok found => simp [hfirst, Except.mapError] at h
    | error e =>
      obtain ⟨rfl, before, p, after, hsplit, hbefore, hdenied⟩ := firstFile_eq_error_iff.mp hfirst
      obtain rfl : .file .denied = f := by simpa [hfirst, Except.mapError] using h
      exact .denied hresolve hsplit hbefore hdenied

theorem findProject_eq_error_iff : findProject w start = .error f ↔ SearchFails w start f :=
  ⟨searchFails_of_findProject, findProject_of_searchFails⟩

theorem value_load_none (w : Workspace) (start : Path) :
    (load w none start).outcome.value = findProject w start >>= fun project =>
      (loadFirst w (project.toList ++ [Path.ofLocation w.globalSettings])).outcome.value := by
  rw [load]
  cases findProject w start <;> rfl

theorem value_load_some (w : Workspace) (p start : Path) :
    (load w (some p) start).outcome.value = (tableAt w p).map (merge defaults) := rfl

end Project

/-- Settings that nobody asked for fail to load iff the nearest file cannot be looked for, or the first file
that is neither absent nor refused stops the run. Those of a given file fail iff it is refused or stops
the run. -/
theorem load_fails_iff_content_stops (w : Workspace) (start : Path) :
    (∀ f, (load w none start).outcome.value = .error f ↔ SearchFails w start f ∨
      ∃ project, findProject w start = .ok project ∧
        StopsFirst w (project.toList ++ [Path.ofLocation w.globalSettings]) f) ∧
    ∀ p f, (load w (some p) start).outcome.value = .error f ↔
      (∃ why, f = .settings why ∧ Refused w p why) ∨ (f = .file .nullInPath ∧ p.hasNull) ∨
        Stops w p f := by
  refine ⟨fun f => ?_, fun p f => ?_⟩
  · rw [value_load_none, ← findProject_eq_error_iff]
    cases hproject : findProject w start with
    | error e => simp [bind, Except.bind]
    | ok project =>
      simp only [bind, Except.bind, reduceCtorEq, false_or, Except.ok.injEq, exists_eq_left']
      exact ⟨stopsFirst_of_value_loadFirst, value_loadFirst_of_stopsFirst⟩
  · rw [value_load_some, ← tableAt_eq_error_iff]
    cases tableAt w p <;> simp [Except.map]

/-- A project whose settings file is the single byte 255, with a reader that takes every text. -/
def illFormedProject : Workspace where
  files := ⟨[([fileName], .file [255])]⟩
  current := []
  globalSettings := ["home", "config.toml"]
  grammar _ := none
  readTable _ := .ok []
  console := .plain

theorem load_illFormedProject :
    (load illFormedProject none currentDirectory).outcome.value = .error .illFormedText ∧
      (load illFormedProject (some ⟨0, [fileName]⟩) currentDirectory).outcome.value =
        .error .illFormedText :=
  ⟨rfl, rfl⟩

end Settings
end GroupLint
