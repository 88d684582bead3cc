import GroupLint.CommandLine.Execution
import GroupLint.PlainConsole
import GroupLint.Syntax.ConcreteDocument
import GroupLint.Value.Toml.Document

/-!
The program. It takes a picture of the files it may look at, runs on that picture, and prints. The
grammar is a program of its own, which leaves the concrete tree of a file `x.rb` beside it, in
`x.rb.tree.json`.
-/
namespace GroupLint.Program

def treeSuffix : String := ".tree.json"

def record (t : FileTree) (l : Location) (e : Entry) : FileTree :=
  match t.makeDirectories [] l.dropLast with
  | .ok (t, _) => t.put l e
  | .error _ => t

def locationOf (names : List String) : Location := names.filter (· != "")

/-- Adds an entry and what is below it. A link is added with the place it leads to. -/
partial def recordEntry (t : FileTree) (l : Location) (e : IO.FS.DirEntry) : IO FileTree := do
  let here := l ++ [e.fileName]
  match (← e.path.symlinkMetadata).type with
  | .symlink =>
    try
      let real ← IO.FS.realPath e.path
      let place := locationOf real.components
      let t := record t here (.link (Path.ofLocation place))
      match t.entryAt? place, real.parent, real.fileName with
      | none, some dir, some name => recordEntry t place.dropLast ⟨dir, name⟩
      | _, _, _ => return t
    catch _ =>
      -- No entry has this name, so that the link leads nowhere.
      return record t here (.link ⟨0, ["\x00"]⟩)
  | .dir =>
    try
      let mut t := record t here .directory
      for below in ← e.path.readDir do
        t ← recordEntry t here below
      return t
    catch _ => return record t here (.item (.directory false true))
  | _ =>
    try
      return record t here (.file (← IO.FS.readBinFile e.path).toList)
    catch _ => return record t here (.item (.file false []))

def recordAround (t : FileTree) (l : Location) (below : Bool) (es : Array IO.FS.DirEntry) : IO FileTree := do
  let mut t := t
  for e in es do
    if below then t ← recordEntry t l e
    else if e.fileName == Settings.fileName then t ← recordEntry t l e
  return t

def knownTrees (t : FileTree) : List (String × Concrete) :=
  t.entries.filterMap fun (l, e) =>
    match e, l.getLast? with
    | .item (.file _ content), some name =>
      match t.entryAt? (l.dropLast ++ [name ++ treeSuffix]) with
      | some (.item (.file _ tree)) =>
        (Json.read? (String.ofList (Text.Utf8.decodeLossy tree))).map fun v =>
          (String.ofList (Linter.sourceText content), Concrete.ofValue v)
      | _ => none
    | _, _ => none

def homeLocation : IO Location := do
  match ← IO.getEnv "RSPEC_LINT_HOME" with
  | some dir => return locationOf (dir.splitOn "/")
  | none => return locationOf (((← IO.getEnv "HOME").getD "").splitOn "/") ++ [".rspec-lint"]

def printNotices (ns : List Notice) : IO Unit :=
  ns.forM fun n => IO.eprintln (n.level.name ++ " " ++ n.message)

end GroupLint.Program

open GroupLint GroupLint.Program in
def main (args : List String) : IO UInt32 := do
  let current ← IO.currentDir
  let here := locationOf current.components
  let mut files := record ⟨[]⟩ here .directory
  files ← recordAround files here true (← current.readDir)
  let mut above := current
  for i in List.range here.length do
    match above.parent with
    | some dir =>
      files ← recordAround files (here.take (here.length - i - 1)) false (← dir.readDir)
      above := dir
    | none => pure ()
  let globalSettings := (← homeLocation) ++ ["config.toml"]
  let globalPath := Path.toString (Path.ofLocation globalSettings)
  if ← (current / globalPath).pathExists then
    files := record files globalSettings (.file (← IO.FS.readBinFile globalPath).toList)
  let trees := knownTrees files
  let w : Workspace := ⟨files, here, globalSettings, fun s => trees.lookup s, Toml.read, .plain⟩
  let result := CommandLine.run w args
  printNotices result.notices
  match result.value with
  | .ok o =>
    IO.print o.out
    IO.eprint o.err
    return o.exit.toUInt32
  | .error _ =>
    IO.eprintln "the run was stopped by a fault"
    return 70
