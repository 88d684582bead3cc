import GroupLint.Glob
import GroupLint.Rule
import GroupLint.Settings
import GroupLint.Syntax.Lowering

/-!
Checking files. Directories are searched for spec files; files that are named are kept as they are.
A file that does not parse is reported and the run goes on.
-/
namespace GroupLint

structure Linter where
  rule : Rule
  includes : List String
  excludes : List String
deriving Inhabited

structure Report where
  files : List String
  offenses : List Offense
  errors : List SyntaxFault
deriving Inhabited

namespace Report

def ok (r : Report) : Bool := r.offenses.isEmpty && r.errors.isEmpty

def append (a b : Report) : Report := ⟨a.files ++ b.files, a.offenses ++ b.offenses, a.errors ++ b.errors⟩

end Report

namespace Linter

def ofSettings (settings : Value) : Run Linter := do
  Run.tell [.grammarReady]
  let t ← ExceptT.mk (pure (Settings.tableOf settings))
  let vocabulary ← Vocabulary.ofSection (.table (Settings.languageSection t))
  let rule ← Rule.ofSection vocabulary (.table (Settings.ruleSection t))
  let (includes, excludes) ← ExceptT.mk (pure (Settings.globs t))
  return ⟨rule, includes, excludes⟩

def selects (l : Linter) (path : String) : Bool :=
  !l.excludes.any (fun g => Glob.matchesPath path.toList g.toList) &&
    l.includes.any fun g => Glob.matchesPath path.toList g.toList

def skippedDirectories : List String :=
  [".git", "node_modules", "vendor", "tmp", "log", "coverage", ".bundle", ".rspec-lint"]

def inSkippedDirectory (names : List String) : Bool := names.dropLast.any skippedDirectories.contains

def search (l : Linter) (files : FileTree) (dir : Location) : List (List String) :=
  (files.rubyEntries dir).filter fun names => !inSkippedDirectory names && l.selects (Path.posix names)

def expand (l : Linter) (w : Workspace) (p : Path) : Run (List Path) :=
  match w.look p with
  | .error e => throw (.file e)
  | .ok (some (_, .file _ _)) => return [p]
  | .ok (some (dir, .directory _ _)) => return (l.search w.files dir).map p.append
  | .ok none => do
    Run.tell [.noSuchPath p.toString]
    return []

def discover (l : Linter) (w : Workspace) : List Path → Run (List Path)
  | [] => return []
  | p :: ps => do
    let here ← l.expand w p
    let others ← l.discover w ps
    return here ++ others

/-- The text of a file: ill-formed bytes read as U+FFFD, line ends as newlines. -/
def sourceText (bytes : List UInt8) : List Char := Text.unifyNewlines (Text.Utf8.decodeLossy bytes)

def parseSource (w : Workspace) (path : Option String) (cs : List Char) : Except Fault Slot :=
  match w.grammar (String.ofList cs) with
  | none => .error .noTree
  | some tree =>
    match tree.parse (Text.Utf8.encode cs) path with
    | .error e => .error (.parse e)
    | .ok root => .ok root

def parseFile (w : Workspace) (p : Path) : Except Fault Slot :=
  match w.read p with
  | .error e => .error (.file e)
  | .ok bytes => parseSource w (some p.toString) (sourceText bytes)

def lintSource (l : Linter) (w : Workspace) (path : Option String) (cs : List Char) :
    Run (List Offense) := do
  let root ← ExceptT.mk (pure (parseSource w path cs))
  l.rule.check path root

def lintFile (l : Linter) (w : Workspace) (p : Path) : Run (List Offense) :=
  match w.read p with
  | .error e => throw (.file e)
  | .ok bytes => l.lintSource w (some p.toString) (sourceText bytes)

/-- The report on one file; only a file that does not parse is let pass. -/
def reportFile (l : Linter) (w : Workspace) (p : Path) : Run Report :=
  let result := (l.lintFile w p).outcome
  match result.value with
  | .ok offenses => do
    Run.tell (result.notices ++ [.fileChecked p.toString offenses.length])
    return ⟨[p.toString], offenses, []⟩
  | .error (.parse e) => do
    Run.tell (result.notices ++ [.unparsable e.message])
    return ⟨[p.toString], [], [e]⟩
  | .error e => do
    Run.tell result.notices
    throw e

def reportFiles (l : Linter) (w : Workspace) : List Path → Run Report
  | [] => return ⟨[], [], []⟩
  | p :: ps => do
    let first ← l.reportFile w p
    let others ← l.reportFiles w ps
    return first.append others

def lintPaths (l : Linter) (w : Workspace) (paths : List Path) : Run Report := do
  let found ← l.discover w paths
  l.reportFiles w found

end Linter
end GroupLint
