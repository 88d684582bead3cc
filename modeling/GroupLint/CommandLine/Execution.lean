import GroupLint.CommandLine.Arguments
import GroupLint.Printer

/-!
What each command does: its exit code and what it prints. The exit code is 2 for a usage or settings
error and for a file that does not parse, else 1 if there are offenses.
-/
namespace GroupLint

/-- Files that do not parse weigh more than offenses. -/
def Report.exitCode (r : Report) : Nat :=
  if !r.errors.isEmpty then 2 else if !r.offenses.isEmpty then 1 else 0

namespace CommandLine

structure Outcome where
  exit : Nat
  out : String
  err : String
deriving DecidableEq, Repr, Inhabited

def versionText : String := "rspec-lint v0.1.0\n"

def usageOutcome : Outcome := ⟨2, "", ""⟩

def checkPaths (w : Workspace) : List String → Except UsageFault Unit
  | [] => .ok ()
  | p :: ps =>
    match w.follow (Path.ofString p) with
    | .ok (_, i) => if i.isReadable then checkPaths w ps else .error (.unreadablePath p)
    | .error _ => .error (.noSuchPath p)

def checkSettingsPath (w : Workspace) : Option String → Except UsageFault Unit
  | none => .ok ()
  | some p =>
    match w.follow (Path.ofString p) with
    | .ok (_, .directory _ _) => .error (.settingsIsDirectory p)
    | .ok (_, .file canRead _) => if canRead then .ok () else .error (.unreadablePath p)
    | .error _ => .ok ()

def checkFormat (format : String) : Except UsageFault Unit :=
  if format == "text" || format == "json" then .ok () else .error (.unknownFormat format)

def validate (w : Workspace) : Command → Except UsageFault Unit
  | .check paths settings format => do
    checkPaths w paths
    checkSettingsPath w settings
    checkFormat format
  | .showSettings settings => checkSettingsPath w settings
  | _ => .ok ()

def withSettings (w : Workspace) (path : Option String) (go : Table → Run Outcome) : Run Outcome :=
  let loaded := (Settings.load w (path.map Path.ofString) Settings.currentDirectory).outcome
  match loaded.value with
  | .ok t => do
    Run.tell loaded.notices
    go t
  | .error (.settings e) => do
    Run.tell loaded.notices
    let err ← ExceptT.mk (pure (Printer.problem w.console e.message))
    return ⟨2, "", err⟩
  | .error e => do
    Run.tell loaded.notices
    throw e

def printReport (w : Workspace) (format : String) (r : Report) : Except Fault Printer.Printed :=
  if format == "json" then .ok (Printer.reportJson r) else Printer.report w r

def runCheck (w : Workspace) (paths : List String) (format : String) (settings : Table) : Run Outcome := do
  let linter ← Linter.ofSettings (.table settings)
  let report ← linter.lintPaths w (paths.map Path.ofString)
  let printed ← ExceptT.mk (pure (printReport w format report))
  return ⟨report.exitCode, printed.out, printed.err⟩

def runShow (w : Workspace) (settings : Table) : Run Outcome := do
  let raw := (Settings.ruleSection settings).get? "IgnoredMetadata"
  Run.tell (IgnoredMetadata.notices raw)
  let vocabulary ← Vocabulary.ofSection (.table (Settings.languageSection settings))
  let (includes, excludes) ← ExceptT.mk (pure (Settings.globs settings))
  let linter : Linter := ⟨⟨vocabulary, IgnoredMetadata.ofValue raw⟩, includes, excludes⟩
  let out ← ExceptT.mk (pure (Printer.settings w.console linter))
  return ⟨0, out, ""⟩

def execute (w : Workspace) : Command → Run Outcome
  | .version => return ⟨0, versionText, ""⟩
  | .help => return ⟨0, "", ""⟩
  | .check paths settings format => withSettings w settings (runCheck w paths format)
  | .showSettings settings => withSettings w settings (runShow w)

/-- A whole run. Debug notices are given only to a verbose one. -/
def run (w : Workspace) (args : List String) : Logged (Except Fault Outcome) :=
  match parse args with
  | .error _ => pure (.ok usageOutcome)
  | .ok i =>
    match validate w i.command with
    | .error _ => pure (.ok usageOutcome)
    | .ok () => (execute w i.command).outcome.atLevel i.verbose

end CommandLine
end GroupLint
