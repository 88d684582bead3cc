import GroupLint.CommandLine.Execution
import GroupLint.Proofs.Discovery
import GroupLint.Proofs.LoweredOffenses

/-! The account that a run gives of its files. Each file is entered once and in its turn: one whose
tree is flagged with its mistake, any other with its offenses. So runs add up, and the exit code is
that of the worst file. -/
namespace GroupLint

theorem Run.value_bind_ok {x : Run α} {a : α} (h : x.outcome.value = .ok a) (f : α → Run β) :
    (x >>= f).outcome.value = (f a).outcome.value := by
  rw [value_bind, h]
  rfl

namespace Report

theorem append_assoc (a b c : Report) : (a.append b).append c = a.append (b.append c) := by
  simp [append]

theorem nil_append (a : Report) : append ⟨[], [], []⟩ a = a := by
  simp [append]

theorem exitCode_append (a b : Report) : (a.append b).exitCode = max a.exitCode b.exitCode := by
  obtain ⟨fs, os, es⟩ := a
  obtain ⟨gs, ps, ds⟩ := b
  cases es <;> cases ds <;> cases os <;> cases ps <;> simp [append, exitCode]

end Report

namespace Rule
variable {r : Rule} {path : Option String}

theorem fault_of_inspectGroups {after : Option Fault} {cs : List Call} {f : Fault}
    (h : (r.inspectGroups path after cs).fault = some f) : f = .emptySlot ∨ after = some f := by
  induction cs with
  | nil => exact Or.inr h
  | cons c cs ih =>
    cases hj : r.judge path c with
    | ok finding =>
      simp only [inspectGroups, hj] at h
      exact ih h
    | error e =>
      simp only [inspectGroups, hj, Option.some.injEq] at h
      subst h
      rw [judge_eq] at hj
      split at hj
      · exact Or.inl (Except.error.inj hj).symm
      · cases hj

/-- The rule looks at trees, so that it fails on what a tree lacks and on nothing else. -/
theorem fault_of_investigate {root : Slot} {f : Fault} (h : r.investigate path root = .error f) :
    f = .emptySlot ∨ ∃ c, f = .call c := by
  rw [investigate] at h
  cases hf : (r.inspect path root).fault with
  | none => simp [hf] at h
  | some g =>
    simp only [hf, Except.error.injEq] at h
    subst h
    rcases fault_of_inspectGroups hf with h | h
    · exact Or.inl h
    · cases hw : (Walk.ofRoot root).fault with
      | none => simp [hw] at h
      | some c =>
        rw [hw] at h
        exact Or.inr ⟨c, (Option.some.inj h).symm⟩

theorem investigate_ne_parse {root : Slot} (e : SyntaxFault) :
    r.investigate path root ≠ .error (.parse e) := by
  intro h
  rcases fault_of_investigate h with h | ⟨c, h⟩ <;> cases h

theorem path_of_investigate {root : Slot} {offenses : List Offense}
    (h : r.investigate path root = .ok offenses) : ∀ o ∈ offenses, o.path = path := by
  intro o ho
  rw [(offenses_of_investigate h).2] at ho
  obtain ⟨p, -, hp⟩ := List.mem_filterMap.mp ho
  obtain ⟨send, d, -, -, rfl⟩ := offenseAt_eq_some_iff.mp hp
  rfl

end Rule

namespace Linter

def treeOf (w : Workspace) (p : Path) : Option Concrete :=
  match w.read p with
  | .ok bytes => w.grammar (String.ofList (sourceText bytes))
  | .error _ => none

def isFlagged (w : Workspace) (p : Path) : Bool := (treeOf w p).any Concrete.hasError

def Finds (l : Linter) (w : Workspace) (p : Path) (offenses : List Offense) : Prop :=
  (l.lintFile w p).outcome.value = .ok offenses ∧ ∀ o ∈ offenses, o.path = some p.toString

def FailsWith (l : Linter) (w : Workspace) (p : Path) (e : SyntaxFault) : Prop :=
  (l.lintFile w p).outcome.value = .error (.parse e) ∧ e.path = some p.toString

def Concludes (l : Linter) (w : Workspace) (p : Path) : Prop :=
  (∃ offenses, (l.lintFile w p).outcome.value = .ok offenses) ∨
    ∃ e, (l.lintFile w p).outcome.value = .error (.parse e)

/-- 2 for a file that does not parse, 1 for one with offenses, 0 for a clean one. -/
def severity (l : Linter) (w : Workspace) (p : Path) : Nat :=
  if isFlagged w p then 2
  else
    match (l.lintFile w p).outcome.value with
    | .ok [] => 0
    | _ => 1

variable {l : Linter} {w : Workspace}

theorem value_lintFile (l : Linter) (w : Workspace) (p : Path) :
    (l.lintFile w p).outcome.value =
      match w.read p with
      | .error e => .error (.file e)
      | .ok bytes =>
        parseSource w (some p.toString) (sourceText bytes) >>= l.rule.investigate (some p.toString) := by
  rw [lintFile]
  cases w.read p with
  | error e => rfl
  | ok bytes => exact value_lintSource l w _ _

theorem parse_error {bytes : List UInt8} {path : Option String} {c : Concrete} {e : SyntaxFault}
    (h : c.parse bytes path = .error e) : c.hasError ∧ e.path = path := by
  rw [Concrete.parse] at h
  split at h
  · next hc =>
    refine ⟨hc, ?_⟩
    -- The place differs with what is found below, the path does not.
    split at h
    · exact congrArg SyntaxFault.path (Except.error.inj h).symm
    · exact congrArg SyntaxFault.path (Except.error.inj h).symm
  · cases h

theorem parse_ok {bytes : List UInt8} {path : Option String} {c : Concrete} {root : Slot}
    (h : c.parse bytes path = .ok root) : ¬ c.hasError := by
  intro hc
  rw [Concrete.parse, if_pos hc] at h
  cases hm : c.firstMistake <;> simp [hm] at h

/-- A check that concludes fails on flagged files and on no others. -/
theorem concludes_cases {p : Path} (h : l.Concludes w p) :
    (isFlagged w p ∧ ∃ e, l.FailsWith w p e) ∨ (¬ isFlagged w p ∧ ∃ offenses, l.Finds w p offenses) := by
  rw [Concludes] at h
  simp only [isFlagged, treeOf, FailsWith, Finds]
  rw [value_lintFile] at h ⊢
  cases hr : w.read p with
  | error e => simp [hr] at h
  | ok bytes =>
    simp only [hr, parseSource] at h ⊢
    cases ht : w.grammar (String.ofList (sourceText bytes)) with
    | none => simp [ht, bind, Except.bind] at h
    | some tree =>
      simp only [ht] at h ⊢
      cases hp : tree.parse (Text.Utf8.encode (sourceText bytes)) (some p.toString) with
      | error e =>
        obtain ⟨hflag, hpath⟩ := parse_error hp
        exact Or.inl ⟨hflag, e, rfl, hpath⟩
      | ok root =>
        rw [hp] at h
        refine Or.inr ⟨by simpa using parse_ok hp, ?_⟩
        -- No mistake is left for the rule to fail on, so that it has come to its end.
        rcases h with ⟨offenses, h⟩ | ⟨e, h⟩
        · exact ⟨offenses, h, Rule.path_of_investigate h⟩
        · exact absurd h (Rule.investigate_ne_parse e)

/-- What a report says of the files that it is on, in their order. -/
structure Accounts (l : Linter) (w : Workspace) (ps : List Path) (r : Report) : Prop where
  files : r.files = ps.map Path.toString
  offenses : ∃ found, List.Forall₂ (l.Finds w) (ps.filter fun p => !isFlagged w p) found ∧
    r.offenses = found.flatten
  errors : List.Forall₂ (l.FailsWith w) (ps.filter (isFlagged w)) r.errors
  worst : r.exitCode = (ps.map (l.severity w)).foldr max 0

theorem accounts_nil : l.Accounts w [] ⟨[], [], []⟩ := ⟨rfl, ⟨[], .nil, rfl⟩, .nil, rfl⟩

theorem accounts_flagged {p : Path} {e : SyntaxFault} (hp : isFlagged w p) (he : l.FailsWith w p e)
    {ps : List Path} {r : Report} (h : l.Accounts w ps r) :
    l.Accounts w (p :: ps) (Report.append ⟨[p.toString], [], [e]⟩ r) := by
  obtain ⟨found, hfound, hr⟩ := h.offenses
  refine ⟨?_, ⟨found, ?_, ?_⟩, ?_, ?_⟩
  · simp [Report.append, h.files]
  · simpa [hp] using hfound
  · simpa [Report.append] using hr
  · rw [List.filter_cons_of_pos hp]
    exact .cons he h.errors
  · rw [Report.exitCode_append, h.worst, List.map_cons, List.foldr_cons, severity, if_pos hp]
    rfl

theorem accounts_found {p : Path} {offenses : List Offense} (hp : ¬ isFlagged w p)
    (ho : l.Finds w p offenses) {ps : List Path} {r : Report} (h : l.Accounts w ps r) :
    l.Accounts w (p :: ps) (Report.append ⟨[p.toString], offenses, []⟩ r) := by
  obtain ⟨found, hfound, hr⟩ := h.offenses
  refine ⟨?_, ⟨offenses :: found, ?_, ?_⟩, ?_, ?_⟩
  · simp [Report.append, h.files]
  · simpa [List.filter_cons, hp] using ⟨ho, hfound⟩
  · simp [Report.append, hr]
  · rw [List.filter_cons_of_neg hp]
    exact h.errors
  · rw [Report.exitCode_append, h.worst, List.map_cons, List.foldr_cons, severity, if_neg hp, ho.1]
    cases offenses <;> rfl

theorem value_reportFile (l : Linter) (w : Workspace) (p : Path) :
    (l.reportFile w p).outcome.value =
      match (l.lintFile w p).outcome.value with
      | .ok offenses => .ok ⟨[p.toString], offenses, []⟩
      | .error (.parse e) => .ok ⟨[p.toString], [], [e]⟩
      | .error e => .error e := by
  rw [reportFile]
  generalize (l.lintFile w p).outcome = result
  obtain ⟨notices, f | offenses⟩ := result
  · cases f <;> rfl
  · rfl

theorem value_reportFiles_cons (l : Linter) (w : Workspace) (p : Path) (ps : List Path) :
    (l.reportFiles w (p :: ps)).outcome.value =
      (l.reportFile w p).outcome.value >>= fun first =>
        (l.reportFiles w ps).outcome.value.map first.append := by
  rw [reportFiles, Run.value_bind]
  congr 1
  funext first
  rw [Run.value_bind]
  cases (l.reportFiles w ps).outcome.value <;> rfl

theorem reportFiles_accounts {ps : List Path} (h : ∀ p ∈ ps, l.Concludes w p) :
    ∃ r, (l.reportFiles w ps).outcome.value = .ok r ∧ l.Accounts w ps r := by
  induction ps with
  | nil => exact ⟨_, rfl, accounts_nil⟩
  | cons p ps ih =>
    obtain ⟨hp, hps⟩ := List.forall_mem_cons.mp h
    obtain ⟨r, hr, haccounts⟩ := ih hps
    rw [value_reportFiles_cons, value_reportFile, hr]
    rcases concludes_cases hp with ⟨hflag, e, he⟩ | ⟨hflag, offenses, ho⟩
    · rw [he.1]
      exact ⟨_, rfl, accounts_flagged hflag he haccounts⟩
    · rw [ho.1]
      exact ⟨_, rfl, accounts_found hflag ho haccounts⟩

theorem value_reportFiles_append (l : Linter) (w : Workspace) (ps qs : List Path) :
    (l.reportFiles w (ps ++ qs)).outcome.value =
      (l.reportFiles w ps).outcome.value >>= fun a =>
        (l.reportFiles w qs).outcome.value.map a.append := by
  induction ps with
  | nil =>
    change _ = (l.reportFiles w qs).outcome.value.map (Report.append ⟨[], [], []⟩)
    cases h : (l.reportFiles w qs).outcome.value <;> simp [h, Except.map, Report.nil_append]
  | cons p ps ih =>
    rw [List.cons_append, value_reportFiles_cons, ih, value_reportFiles_cons]
    cases (l.reportFile w p).outcome.value with
    | error e => rfl
    | ok first =>
      cases (l.reportFiles w ps).outcome.value with
      | error e => rfl
      | ok a =>
        cases (l.reportFiles w qs).outcome.value with
        | error e => rfl
        | ok b => exact congrArg Except.ok (Report.append_assoc first a b).symm

theorem value_lintPaths (l : Linter) (w : Workspace) (paths : List Path) :
    (l.lintPaths w paths).outcome.value = (l.discover w paths).outcome.value >>= fun found =>
      (l.reportFiles w found).outcome.value := by
  rw [lintPaths, Run.value_bind]

theorem value_lintPaths_of_found {paths found : List Path}
    (h : (l.discover w paths).outcome.value = .ok found) :
    (l.lintPaths w paths).outcome.value = (l.reportFiles w found).outcome.value := by
  rw [value_lintPaths, h]
  rfl

theorem found_append {ps qs found : List Path} (h : (l.discover w (ps ++ qs)).outcome.value = .ok found) :
    ∃ a b, (l.discover w ps).outcome.value = .ok a ∧ (l.discover w qs).outcome.value = .ok b ∧
      found = a ++ b := by
  rw [value_discover_append] at h
  cases ha : (l.discover w ps).outcome.value with
  | error e => simp [ha, bind, Except.bind] at h
  | ok a =>
    cases hb : (l.discover w qs).outcome.value with
    | error e => simp [ha, hb, bind, Except.bind, Except.map] at h
    | ok b =>
      rw [ha, hb] at h
      exact ⟨a, b, rfl, rfl, (Except.ok.inj h).symm⟩

end Linter

namespace CommandLine

theorem value_execute_check {w : Workspace} {names : List String} {settings : Option String}
    {format : String} {t : Table} {l : Linter} {r : Report} {printed : Printer.Printed}
    (ht : (Settings.load w (settings.map Path.ofString) Settings.currentDirectory).outcome.value = .ok t)
    (hl : (Linter.ofSettings (.table t)).outcome.value = .ok l)
    (hr : (l.lintPaths w (names.map Path.ofString)).outcome.value = .ok r)
    (hp : printReport w format r = .ok printed) :
    (execute w (.check names settings format)).outcome.value =
      .ok ⟨r.exitCode, printed.out, printed.err⟩ := by
  have hcheck : (runCheck w names format t).outcome.value =
      .ok ⟨r.exitCode, printed.out, printed.err⟩ := by
    have hprint : (Run.outcome (ExceptT.mk (pure (printReport w format r)))).value = .ok printed := hp
    rw [runCheck, Run.value_bind_ok hl, Run.value_bind_ok hr, Run.value_bind_ok hprint]
    rfl
  rw [execute, withSettings]
  simp only [ht]
  rw [Run.value_bind]
  exact hcheck

theorem value_run {w : Workspace} {args : List String} {i : Invocation} (hi : parse args = .ok i)
    (hv : validate w i.command = .ok ()) : (run w args).value = (execute w i.command).outcome.value := by
  simp only [run, hi, hv]
  rfl

end CommandLine

namespace Linter

/-- A run whose checks all conclude returns a report that accounts for every file found. It adds up
over the paths given, and the command ends with the exit code of the worst file. -/
theorem lintPaths_accounts (l : Linter) (w : Workspace) (paths found : List Path)
    (hfound : (l.discover w paths).outcome.value = .ok found) (h : ∀ p ∈ found, l.Concludes w p) :
    ∃ r, (l.lintPaths w paths).outcome.value = .ok r ∧ l.Accounts w found r ∧
      (∀ ps qs, paths = ps ++ qs → ∃ a b, (l.lintPaths w ps).outcome.value = .ok a ∧
        (l.lintPaths w qs).outcome.value = .ok b ∧ r = a.append b) ∧
      ∀ args i names settings format t printed, CommandLine.parse args = .ok i →
        i.command = .check names settings format → CommandLine.validate w i.command = .ok () →
        (Settings.load w (settings.map Path.ofString) Settings.currentDirectory).outcome.value = .ok t →
        (ofSettings (.table t)).outcome.value = .ok l → paths = names.map Path.ofString →
        CommandLine.printReport w format r = .ok printed →
        (CommandLine.run w args).value = .ok
          ⟨(found.map (l.severity w)).foldr max 0, printed.out, printed.err⟩ := by
  obtain ⟨r, hr, haccounts⟩ := reportFiles_accounts h
  have hrun := value_lintPaths_of_found hfound
  refine ⟨r, hrun.trans hr, haccounts, ?_, ?_⟩
  · intro ps qs hsplit
    subst hsplit
    obtain ⟨fs, gs, hfs, hgs, rfl⟩ := found_append hfound
    rw [List.forall_mem_append] at h
    obtain ⟨a, ha, -⟩ := reportFiles_accounts h.1
    obtain ⟨b, hb, -⟩ := reportFiles_accounts h.2
    refine ⟨a, b, (value_lintPaths_of_found hfs).trans ha, (value_lintPaths_of_found hgs).trans hb, ?_⟩
    rw [value_reportFiles_append, ha, hb] at hr
    exact (Except.ok.inj hr).symm
  · intro args i names settings format t printed hi hc hv ht hl hpaths hp
    subst hpaths
    rw [CommandLine.value_run hi hv, hc, CommandLine.value_execute_check ht hl (hrun.trans hr) hp,
      haccounts.worst]

/-- An empty file, one that reads `describe 'adding'`, and one that opens a parenthesis only. -/
def mixedFiles : Workspace where
  files := ⟨[(["a"], .file []), (["b"], .file (Text.Utf8.encode "describe 'adding'".toList)),
    (["c"], .file (Text.Utf8.encode "(".toList))]⟩
  current := []
  globalSettings := []
  grammar source :=
    if source = "" then some (.mk "program" true none ⟨0, 0, 0, 0⟩ false false [])
    else if source = "(" then some (.mk "program" true none ⟨0, 1, 0, 0⟩ true false [])
    else some Rule.describedText
  readTable _ := .error .malformed
  console := .plain

theorem ofString_letters :
    ["a", "b", "c"].map Path.ofString = [⟨0, ["a"]⟩, ⟨0, ["b"]⟩, ⟨0, ["c"]⟩] := by
  have hsplit : ∀ s ∈ ["a", "b", "c"], s.splitOn "/" = [s] := by
    intro s hs
    obtain ⟨hstart, hletter, hstop, hall⟩ : ¬ String.Pos.Raw.atEnd s 0 ∧
        ¬ (String.Pos.Raw.get s 0 == String.Pos.Raw.get "/" 0) ∧
        String.Pos.Raw.atEnd s (String.Pos.Raw.next s 0) ∧
        String.Pos.Raw.extract s 0 (String.Pos.Raw.next s 0) = s := by
      revert s
      decide +kernel
    have hback : String.Pos.Raw.unoffsetBy 0 0 = 0 := rfl
    rw [String.splitOn, if_neg (by decide), String.splitOnAux, if_neg hstart, if_neg hletter, hback,
      String.splitOnAux, if_pos hstop, hall]
    rfl
  simp only [List.map_cons, List.map_nil, Path.ofString, hsplit "a" (by simp),
    hsplit "b" (by simp), hsplit "c" (by simp)]
  decide

theorem lintPaths_mixedFiles :
    let l : Linter := ⟨⟨.standard, .standard⟩, Settings.defaultIncludes, Settings.defaultExcludes⟩
    let paths : List Path := [⟨0, ["a"]⟩, ⟨0, ["b"]⟩, ⟨0, ["c"]⟩]
    (l.discover mixedFiles paths).outcome.value = .ok paths ∧ (∀ p ∈ paths, l.Concludes mixedFiles p) ∧
      (∃ r, (l.lintPaths mixedFiles paths).outcome.value = .ok r ∧ l.Accounts mixedFiles paths r) ∧
      ∃ out err, (CommandLine.run mixedFiles ["check", "a", "b", "c", "-fjson"]).value =
        .ok ⟨2, out, err⟩ := by
  intro l paths
  have hfound : (l.discover mixedFiles paths).outcome.value = .ok paths := by decide +kernel
  have ha : (l.lintFile mixedFiles ⟨0, ["a"]⟩).outcome.value = .ok [] := by decide +kernel
  have hb : (l.lintFile mixedFiles ⟨0, ["b"]⟩).outcome.value =
      .ok [⟨⟨9, 17, 1, 9⟩, Rule.message, Rule.name, some "b"⟩] := by decide +kernel
  have hc : (l.lintFile mixedFiles ⟨0, ["c"]⟩).outcome.value = .error (.parse ⟨some "c", 1, 0⟩) := by
    decide +kernel
  have hall : ∀ p ∈ paths, l.Concludes mixedFiles p := by
    simp only [paths, List.forall_mem_cons]
    exact ⟨Or.inl ⟨_, ha⟩, Or.inl ⟨_, hb⟩, Or.inr ⟨_, hc⟩, by simp⟩
  obtain ⟨r, hr, haccounts, -, hrun⟩ := lintPaths_accounts l mixedFiles paths paths hfound hall
  have hworst : (paths.map (l.severity mixedFiles)).foldr max 0 = 2 := by decide +kernel
  have hparse : CommandLine.parse ["check", "a", "b", "c", "-fjson"] =
      .ok ⟨false, .check ["a", "b", "c"] none "json"⟩ := by decide +kernel
  have hvalid : CommandLine.validate mixedFiles (.check ["a", "b", "c"] none "json") =
      .ok () := by
    obtain ⟨ha, hb, hc⟩ : Path.ofString "a" = ⟨0, ["a"]⟩ ∧ Path.ofString "b" = ⟨0, ["b"]⟩ ∧
        Path.ofString "c" = ⟨0, ["c"]⟩ := by simpa using ofString_letters
    simp only [CommandLine.validate, CommandLine.checkPaths, ha, hb, hc]
    rfl
  have hexit := hrun _ _ _ _ "json" Settings.defaults (Printer.reportJson r) hparse rfl hvalid rfl
    value_ofSettings_defaults ofString_letters.symm rfl
  rw [hworst] at hexit
  exact ⟨hfound, hall, ⟨r, hr, haccounts⟩, _, _, hexit⟩

end Linter
end GroupLint
