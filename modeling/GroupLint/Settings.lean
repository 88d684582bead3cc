import GroupLint.Text.Lines
import GroupLint.Text.Utf8
import GroupLint.Workspace

/-!
Settings: tables by section. What a file sets is laid over the defaults section by section. A file
that was asked for must be readable; else the nearest project file counts, then the global one, and
a broken one is passed over with a warning.
-/
namespace GroupLint.Settings

def fileName : String := ".rspec-lint.toml"

def defaultIncludes : List String := ["**/*_spec.rb"]
def defaultExcludes : List String := ["vendor/**"]

def defaults : Table :=
  [("AllCops", .table [("Include", .list (defaultIncludes.map .text)),
                       ("Exclude", .list (defaultExcludes.map .text))]),
   ("DescribeClass", .table []),
   ("Language", .table [])]

/-- A section over the one of the same name: keys replace keys if both are tables, else the section
is replaced whole. -/
def mergeSection (base : Table) (e : String × Value) : Table :=
  match e.2, base.get? e.1 with
  | .table new, some (.table old) => base.insert e.1 (.table (Table.update old new))
  | v, _ => base.insert e.1 v

def merge (base override : Table) : Table := override.foldl mergeSection base

/-- Lays any value over any other. Only a table can be laid over something, and what it is laid over
must be a table too, unless it has no sections. -/
def mergeValues (base : Value) : Value → Except Fault Value
  | .table override =>
    match base, override with
    | .table t, _ => .ok (.table (merge t override))
    | _, [] => .ok base
    | _, (_, .table _) :: _ => .error .notTable
    | _, _ :: _ => .error .noEntries
  | _ => .error .notTable

def tableOf : Value → Except Fault Table
  | .table t => .ok t
  | _ => .error .notTable

def sectionOf (name : String) (settings : Table) : Table := ((settings.get? name).bind Value.table?).getD []

def ruleSection (settings : Table) : Table := sectionOf "DescribeClass" settings
def languageSection (settings : Table) : Table := sectionOf "Language" settings

def texts : Value → Except Fault (List String)
  | .list items => .ok (items.map Value.shown)
  | .text s => .ok (s.toList.map fun c => String.ofList [c])
  | .table t => .ok (Entries.keys t)
  | _ => .error .notSequence

/-- The texts of an option, or the default where it counts as absent. -/
def textsOr (default : List String) : Option Value → Except Fault (List String)
  | some v => if v.isTruthy then texts v else .ok default
  | none => .ok default

def globs (settings : Table) : Except Fault (List String × List String) := do
  let all := sectionOf "AllCops" settings
  let includes ← textsOr defaultIncludes (all.get? "Include")
  let excludes ← textsOr [] (all.get? "Exclude")
  return (includes, excludes)

def ancestors (l : Location) : List Location :=
  (List.range (l.length + 1)).map fun i => l.take (l.length - i)

def settingsPath (dir : Location) : Path := Path.ofLocation (dir ++ [fileName])

def firstFile (w : Workspace) : List Path → Except FileFault (Option Path)
  | [] => .ok none
  | p :: ps =>
    match w.isFile p with
    | .error e => .error e
    | .ok true => .ok (some p)
    | .ok false => firstFile w ps

def findProject (w : Workspace) (start : Path) : Except Fault (Option Path) :=
  match w.resolve start with
  | .error .linkLoop => .error .circularPath
  | .error e => .error (.file e)
  | .ok l => (firstFile w ((ancestors l).map settingsPath)).mapError .file

def currentDirectory : Path := ⟨0, []⟩

def tableAt (w : Workspace) (p : Path) : Except Fault Table :=
  match w.read p with
  | .error .missing => .error (.settings (.notFound p.toString))
  | .error .nullInPath => .error (.file .nullInPath)
  | .error why => .error (.settings (.unreadable p.toString why))
  | .ok bytes =>
    match Text.Utf8.decode? bytes with
    | none => .error .illFormedText
    | some cs =>
      match w.readTable (Text.unifyNewlines cs) with
      | .ok t => .ok t
      | .error .malformed => .error (.settings (.malformed p.toString))
      | .error f => .error (.settingsText f)

def loadFirst (w : Workspace) : List Path → Run Table
  | [] => return defaults
  | p :: ps =>
    match w.isFile p with
    | .error e => throw (.file e)
    | .ok false => loadFirst w ps
    | .ok true =>
      match tableAt w p with
      | .ok t => do
        Run.tell [.settingsLoaded p.toString]
        return merge defaults t
      | .error (.settings why) => do
        Run.tell [.settingsIgnored why.message]
        loadFirst w ps
      | .error e => throw e

def load (w : Workspace) (path : Option Path) (start : Path) : Run Table :=
  match path with
  | some p => ExceptT.mk (pure ((tableAt w p).map (merge defaults)))
  | none => do
    let project ← ExceptT.mk (pure (findProject w start))
    loadFirst w (project.toList ++ [Path.ofLocation w.globalSettings])

end GroupLint.Settings
