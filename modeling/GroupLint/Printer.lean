import GroupLint.Linter
import GroupLint.Value.Json

/-!
How results are printed: offenses with the line they stand on and a row of carets under them, a
report as a JSON document, and the settings in effect.
-/
namespace GroupLint.Printer

def printed (c : Console) (markup : List Char) : Except Fault String := (c.print markup).mapError .markup

def escaped (c : Console) (s : String) : String := String.ofList (c.escape s.toList)

def pathText : Option String → String
  | some p => p
  | none => "None"

def location (o : Offense) : String :=
  pathText o.path ++ ":" ++ toString o.location.line ++ ":" ++ toString (o.location.column + 1)

def heading (c : Console) (o : Offense) : String :=
  "[bold]" ++ escaped c (location o) ++ "[/bold]: [yellow]" ++ o.rule ++ "[/yellow]: " ++
    escaped c o.message

def sourceOf (w : Workspace) (path : Option String) : Except Fault (List Char) :=
  match path with
  | none | some "" => .ok []
  | some p =>
    match w.read (Path.ofString p) with
    | .ok bytes => .ok (Linter.sourceText bytes)
    | .error .nullInPath => .error (.file .nullInPath)
    | .error _ => .ok []

/-- The line a location names, lines being those of a display. -/
def shownLine (source : List Char) (s : Span) : Option (List Char) :=
  if 0 < s.line then (Text.displayLines source)[(s.line - 1).toNat]? else none

/-- The characters before the column, which counts bytes. -/
def indentOf (line : List Char) (column : Int) : Nat :=
  (Text.Utf8.decodeSkipping (slice (Text.Utf8.encode line) 0 column)).length

def caretCount (highlighted line : List Char) (indent : Nat) : Nat :=
  max 1 (min ((Text.displayLines highlighted).head?.getD []).length (line.length - indent))

def caretLine (indent carets : Nat) : List Char :=
  List.replicate indent ' ' ++ "[red]".toList ++ List.replicate carets '^' ++ "[/red]".toList

def excerpt (c : Console) (source : List Char) (o : Offense) : Except Fault String :=
  match shownLine source o.location with
  | none => .ok ""
  | some line =>
    match o.location.text? (Text.Utf8.encode source) with
    | none => .error .illFormedText
    | some highlighted => do
      let indent := indentOf line o.location.column
      let shown ← printed c (c.escape line)
      let carets ← printed c (caretLine indent (caretCount highlighted line indent))
      return shown ++ carets

def offense (w : Workspace) (o : Offense) : Except Fault String := do
  let head ← printed w.console (heading w.console o).toList
  let source ← sourceOf w o.path
  let lines ← excerpt w.console source o
  return head ++ lines

def problem (c : Console) (message : String) : Except Fault String :=
  printed c ("[red]" ++ escaped c message ++ "[/red]").toList

def summary (r : Report) : String :=
  let unparsed :=
    if r.errors.isEmpty then "" else ", " ++ toString r.errors.length ++ " file(s) could not be parsed"
  toString r.files.length ++ " file(s) inspected, " ++ toString r.offenses.length ++
    " offense(s) detected" ++ unparsed

structure Printed where
  out : String
  err : String
deriving DecidableEq, Repr, Inhabited

def report (w : Workspace) (r : Report) : Except Fault Printed := do
  let offenses ← r.offenses.mapM (offense w)
  let problems ← r.errors.mapM fun e => problem w.console e.message
  return ⟨String.join offenses ++ "\n" ++ summary r ++ "\n", String.join problems⟩

def optionalText : Option String → Value
  | some s => .text s
  | none => .null

def offenseDocument (o : Offense) : Value :=
  .table [("path", optionalText o.path), ("rule", .text o.rule), ("message", .text o.message),
    ("line", .int o.location.line), ("column", .int (o.location.column + 1)),
    ("start", .int o.location.start), ("end", .int o.location.stop)]

def errorDocument (e : SyntaxFault) : Value :=
  .table [("path", optionalText e.path), ("line", .int e.line), ("column", .int (e.column + 1)),
    ("message", .text e.message)]

def reportDocument (r : Report) : Value :=
  .table [("files", .list (r.files.map .text)),
    ("offenses", .list (r.offenses.map offenseDocument)),
    ("errors", .list (r.errors.map errorDocument)),
    ("summary", .table [("files", .int r.files.length), ("offenses", .int r.offenses.length),
      ("errors", .int r.errors.length)])]

def reportJson (r : Report) : Printed := ⟨Json.pretty (reportDocument r) ++ "\n", ""⟩

def listed (names : List String) : String := ", ".intercalate names

def metadataRows (m : IgnoredMetadata) : List (String × String) :=
  if m.entries.isEmpty then [("-", "(none)")]
  else m.sorted.map fun (k, vs) => (k, listed vs)

def metadataGrid (c : Console) (m : IgnoredMetadata) : Except Fault String :=
  (c.grid "IgnoredMetadata" ["Key".toList, "Ignored values".toList]
    ((metadataRows m).map fun (k, v) => [k.toList, v.toList])).mapError .markup

def settings (c : Console) (l : Linter) : Except Fault String := do
  let table ← metadataGrid c l.rule.ignored
  let v := l.rule.vocabulary
  let examples ← printed c ("[bold]Example groups:[/bold] " ++ listed (sortedNames v.exampleGroups)).toList
  let shared ← printed c ("[bold]Shared groups:[/bold] " ++ listed (sortedNames v.sharedGroups)).toList
  let includes ← printed c ("[bold]Include:[/bold] " ++ listed l.includes).toList
  let excludes ← printed c ("[bold]Exclude:[/bold] " ++
    (if listed l.excludes == "" then "(none)" else listed l.excludes)).toList
  return table ++ examples ++ shared ++ includes ++ excludes

end GroupLint.Printer
