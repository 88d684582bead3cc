import GroupLint.Value.Toml.Entry

/-!
Settings texts as a whole: headers name the table that the entries after them go to. A header makes the
tables on the way to its own; those may be named by a header of their own later, others only once. Dates
and times are not read: a text that has one is found malformed.
-/
namespace GroupLint.Toml

inductive Step where
  | name (n : String)
  | last
deriving DecidableEq, Repr

def changeAt (change : Value → Except Fault (Value × α)) : List Step → Value → Except Fault (Value × α)
  | [], v => change v
  | .name n :: steps, .table t =>
    match Entries.get? t n with
    | some v => (changeAt change steps v).map fun (v, a) => (.table (Entries.insert t n v), a)
    | none => .error .noNames
  | .last :: steps, .list items =>
    match items.getLast? with
    | some v => (changeAt change steps v).map fun (v, a) => (.list (items.dropLast ++ [v]), a)
    | none => .error .cutShort
  | _ :: _, _ => .error .noNames

structure Document where
  root : Value
  level : List Step
  /-- The names of tables that were made only on the way to others. -/
  implied : List String
  block : Option Block
deriving Repr

/-- The names of a header, by the pieces between its dots; `open?` is a name in quotes that is not
closed yet. -/
def headerNames (open? : Option (List Char)) : List (List Char) → Except Fault (List String)
  | [] => if open?.isSome then .error .malformed else .ok []
  | piece :: pieces =>
    let name :=
      match open? with
      | some before => before ++ '.' :: piece
      | none => Text.trim piece
    let trimmed := Text.trim name
    match trimmed with
    | c :: r =>
      if isQuote c then
        if r.getLast? == some c then (headerNames none pieces).map (String.ofList (inner trimmed) :: ·)
        else headerNames (some name) pieces
      else if trimmed.all fun c => c.isAlphanum || c == '_' || c == '-' then
        (headerNames none pieces).map (String.ofList trimmed :: ·)
      else .error .malformed
    | [] => .error .malformed

def fresh (listed isLast : Bool) : Value := if listed && isLast then .list [.table []] else .table []

def intoLast (listed : Bool) (v : Value) : Except Fault (List Step) :=
  if !listed then .ok []
  else
    match v with
    | .table _ => .ok []
    | .list [] | .text "" => .error .cutShort
    | .list _ => .ok [.last]
    | .text _ => .ok []
    | _ => .error .noNames

/-- A table that has a name, made if need be, as a header with this name finds it. -/
def occupy (listed isLast : Bool) (name : String) (implied : List String) (t : Table) :
    Except Fault (Table × List String) :=
  match t.get? name with
  | none => .ok (t.insert name (fresh listed isLast), if isLast then implied else implied ++ [name])
  | some v =>
    if !isLast then .ok (t, implied)
    else if implied.contains name then
      if listed then .error .malformed else .ok (t, implied.erase name)
    else if listed then
      match v with
      | .list items => .ok (t.insert name (.list (items ++ [.table []])), implied)
      | _ => .error .noNames
    else .error .malformed

def reuse (listed isLast : Bool) (name : String) (t : Table) : Table :=
  if (t.get? name).isSome then t else t.insert name (fresh listed isLast)

/-- Follows the names of a header from a value: the value with what had to be made, the steps, and
the implied names. -/
def follow (listed : Bool) (implied : List String) :
    List String → Value → Except Fault (Value × List Step × List String)
  | [], v => .ok (v, [], implied)
  | name :: names, v =>
    if name == "" then .error .malformed
    else
      match v with
      | .table t => do
        let (t, implied) ← occupy listed names.isEmpty name implied t
        let w := (t.get? name).getD .null
        let steps ← intoLast listed w
        let (w, more, implied) ← changeAt (follow listed implied names) steps w
        return (.table (t.insert name w), .name name :: steps ++ more, implied)
      | .list items =>
        match items.getLast? with
        | none => .error .cutShort
        | some (.table t) => do
          let t := reuse listed names.isEmpty name t
          let w := (t.get? name).getD .null
          let steps ← intoLast listed w
          let (w, more, implied) ← changeAt (follow listed implied names) steps w
          return (.list (items.dropLast ++ [.table (t.insert name w)]),
            .last :: .name name :: steps ++ more, implied)
        | some _ => .error .noNames
      | .text "" => .error .cutShort
      | _ => .error .noNames

def header (closing line : List Char) : Except Fault (List String) :=
  let n := cuts closing line
  let pieces := Text.splitUpTo n closing line
  if pieces.length < n + 1 || !(Text.trim (lastPiece pieces)).isEmpty then .error .malformed
  else headerNames none (Text.split ['.'] (Text.join closing pieces.dropLast))

namespace Document

def empty : Document := ⟨.table [], [], [], none⟩

def enterHeader (d : Document) (listed : Bool) (names : List String) : Except Fault Document :=
  (follow listed d.implied names d.root).map fun (root, level, implied) => ⟨root, level, implied, none⟩

def closes (first : Char) (line : List Char) : Except Fault Bool :=
  if first == '[' then
    match line.getLast? with
    | none => .error .cutShort
    | some c => .ok (c == ']')
  else .ok ([first, first, first].isSuffixOf line)

def continueBlock (d : Document) (b : Block) (line : List Char) : Except Fault Document := do
  let text := b.text ++ line
  if ← closes (text.head?.getD '"') line then
    let v ← valueOf true text
    let set : Value → Except Fault (Value × Unit)
      | .table t => .ok (.table (Entries.insert t b.name v), ())
      | _ => .error .noNames
    let (root, _) ← changeAt set d.level d.root
    return { d with root, block := none }
  else return { d with block := some (Block.continued b.name text) }

def plainLine (d : Document) (line : List Char) : Except Fault Document :=
  match line with
  | '#' :: _ => .ok d
  | ['['] => .error .malformed
  | '[' :: '[' :: r => (header [']', ']'] r).bind (d.enterHeader true)
  | '[' :: r => (header [']'] r).bind (d.enterHeader false)
  | '\x7b' :: _ =>
    if line.getLast? != some '\x7d' then .error .malformed
    else
      (changeAt (fun v => (enterInlineLine v line).map fun v => (v, ())) d.level d.root).map fun (root, _) =>
        { d with root }
  | _ =>
    if line.contains '=' then
      (changeAt (fun v => enterLine v line) d.level d.root).map fun (root, block) => { d with root, block }
    else .ok d

/-- Reads a logical line. Inside a text that goes on its blanks count, once a line end has been kept. -/
def addLine (d : Document) (line : List Char) : Except Fault Document :=
  match d.block with
  | none => if (Text.trim line).isEmpty then .ok d else d.plainLine (Text.trim line)
  | some b =>
    let line := if b.spliced || !b.text.contains '\n' then Text.trim line else line
    if b.spliced && line.isEmpty then .ok d else d.continueBlock b line

end Document

def read (cs : List Char) : Except Fault Table := do
  let d ← (← logicalLines cs).foldlM Document.addLine Document.empty
  return (d.root.table?).getD []

end GroupLint.Toml
