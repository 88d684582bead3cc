import GroupLint.Value.Toml.Number

/-!
Values in a settings text, and entries, which set a name to a value. A list is cut at its commas before
its items are read, and an inline table likewise; a piece that cannot be a whole item takes in the
next one.
-/
namespace GroupLint.Toml

def isBounded : List Char → Bool
  | [] => true
  | c :: r =>
    match r.reverse with
    | [] => true
    | d :: before => d == c && !startsOdd before

def isUnfinished (item : List Char) : Bool :=
  !isBounded item ||
    match item, item.reverse with
    | a :: b :: c :: _, _ :: y :: z :: _ => a == b && b == c && y != a && z != a
    | _, _ => false

/-- Joins the pieces of a list of texts to items, `item` being the first one and `joined` whether it is
joined of several pieces. The last piece is taken as it is. -/
def joinItems (joined : Bool) (item : List Char) : List (List Char) → Except Fault (List (List Char))
  | [] => if joined && isUnfinished (Text.trim item) then .error .cutShort else .ok [item]
  | next :: rest =>
    if isUnfinished (Text.trim item) then joinItems true (item ++ ',' :: next) rest
    else (joinItems false next rest).map (item :: ·)

def splitLists (depth : Int) (item : List Char) : List Char → List (List Char)
  | [] => [item.reverse]
  | c :: r =>
    if c == ',' && depth == 0 then item.reverse :: splitLists depth [] r
    else
      splitLists (if c == '[' then depth + 1 else if c == ']' then depth - 1 else depth) (c :: item) r

inductive TablePart where
  | inside (depth : Nat) (quoted : Bool) (done : List Char)
  | ended
  | between
deriving DecidableEq, Repr

/-- Cuts out the tables of a list. One that is not closed is left out. -/
def splitTables : TablePart → List Char → List (List Char)
  | _, [] => []
  | .inside depth quoted done, c :: r =>
    let quoted := if isQuote c then !quoted || startsOdd done else quoted
    let depth := if !quoted && c == '\x7b' then depth + 1 else depth
    if quoted || c != '\x7d' then splitTables (.inside depth quoted (c :: done)) r
    else if 1 < depth then splitTables (.inside (depth - 1) quoted (c :: done)) r
    else (c :: done).reverse :: splitTables .ended r
  | .ended, _ :: r => splitTables .between r
  | .between, c :: r => splitTables (if c == '\x7b' then .inside 1 false [c] else .between) r

def itemTexts (list : List Char) : Except Fault (List (List Char)) :=
  let inside := inner list
  match Text.trimStart (list.drop 1), Text.trimStart inside, inside with
  | '[' :: _, _, _ => .ok (splitLists 0 [] inside)
  | _, '\x7b' :: _, c :: r => .ok (splitTables (.inside (if c == '\x7b' then 1 else 0) false [c]) r)
  | _, c :: _, _ =>
    match Text.split [','] inside with
    | item :: rest => if isQuote c then joinItems false item rest else .ok (item :: rest)
    | [] => .ok []
  | _, [], _ => .ok []

def addItem (read : List Char → Except Fault Value) (items : List Value) (text : List Char) :
    Except Fault (List Value) :=
  if (Text.trim text).isEmpty then .ok items
  else
    match read (Text.trim text) with
    | .error e => .error e
    | .ok v =>
      if items.head?.all fun w => w.sortName == v.sortName then .ok (items ++ [v]) else .error .malformed

def listValue (read : List Char → Except Fault Value) (text : List Char) : Except Fault Value := do
  let items ← (← itemTexts (Text.trim text)).foldlM (addItem read) []
  return .list items

/-- A text in three quotes that goes on in the next line: its name, what there is of it, and whether
the next line follows without a line end. -/
structure Block where
  name : String
  text : List Char
  spliced : Bool
deriving DecidableEq, Repr

/-- A backslash at the end of a line takes the line end with it. -/
def Block.continued (name : String) (text : List Char) : Block :=
  if endsOdd text then ⟨name, text.dropLast, true⟩ else ⟨name, text ++ ['\n'], false⟩

/-- The last text of a list of texts that is not closed: `piece` is what follows the last comma, and
`before` the pieces before it, nearest first. -/
def lastText (piece : List Char) : List (List Char) → Except Fault (List Char)
  | [] => .ok piece
  | next :: before =>
    match piece with
    | [] => .error .cutShort
    | c :: _ => if isQuote c then .ok piece else lastText (next ++ ',' :: piece) before

def isOpenTextList (cs : List Char) : Bool :=
  cs.head? == some '[' && cs.getLast? != some ']' && (Text.trimStart (inner cs)).head?.any isQuote

def openPart (cs : List Char) : Except Fault (List Char) :=
  if isOpenTextList cs then
    match (Text.split [','] (Text.trim (cs.drop 1))).reverse with
    | piece :: before => lastText piece before
    | [] => .ok []
  else .ok cs

def isOpenBlock : List Char → Except Fault Bool
  | [] => .error .cutShort
  | q :: r =>
    if !isQuote q then .ok false
    else
      match r with
      | [] => .error .cutShort
      | b :: r =>
        if b != q then .ok false
        else
          match r with
          | [] => .error .cutShort
          | c :: r => .ok (c == q && !(2 < r.length && [q, q, q].isSuffixOf r))

def goesOn (cs : List Char) : Except Fault Bool :=
  if cs.length < 3 then .ok false else (openPart cs).bind isOpenBlock

/-- Whether a text after `=` can be read: it is set off, quoted, bracketed, a truth value or a number. -/
def isReadable (cs : List Char) : Bool :=
  match cs with
  | [] => true
  | c :: _ =>
    c == ' ' || c == '\t' || isQuote c || c == '[' || c == '\x7b' || Text.trim cs == "true".toList ||
      Text.trim cs == "false".toList || (real? cs).isSome

structure Parts where
  key : List Char
  value : List Char
  strict : Bool
deriving DecidableEq, Repr

def lastPiece (pieces : List (List Char)) : List Char := pieces.getLast?.getD []

/-- Takes an entry apart at an `=` further on until what follows can be read; `value` is what follows
the `cuts`-th one. -/
def partsFrom (line : List Char) : Nat → Nat → List Char → Bool → Except Fault Parts
  | 0, _, _, _ => .error .malformed
  | fuel + 1, cuts, value, strict =>
    if isReadable value then
      .ok ⟨Text.trim (Text.join ['='] (Text.splitUpTo cuts ['='] line).dropLast), Text.trim value, strict⟩
    else
      let next := lastPiece (Text.splitUpTo (cuts + 1) ['='] line)
      if next == value then .error .malformed
      else partsFrom line fuel (cuts + 1) next (strict && isStrict next)

def parts (line : List Char) : Except Fault Parts :=
  let n := cuts ['='] line
  let value := lastPiece (Text.splitUpTo n ['='] line)
  let shown := if value.head?.any Char.isDigit then value.filter (· != '_') else value
  partsFrom line (line.length + 2) n shown (isStrict value)

/-- The names of a dotted key with quotes in it: what is in quotes is one name. -/
def namesFrom (quoted : Bool) : List (List Char) → List (List Char)
  | [] => []
  | piece :: pieces =>
    (if quoted then [piece] else (Text.split ['.'] piece).map Text.trim) ++ namesFrom (!quoted) pieces

def dottedNames (key : List Char) : List (List Char) :=
  if key.any isQuote then namesFrom false (quotePieces key) else Text.split ['.'] key

def keyNames (key : List Char) : Except Fault (List String × String) :=
  if key.contains '.' then
    match (dottedNames key).reverse.dropWhile List.isEmpty with
    | [] => .error .cutShort
    | name :: before =>
      .ok ((before.reverse.filter fun n => !n.isEmpty).map String.ofList, String.ofList (Text.trim name))
  else
    match key with
    | [] => .error .cutShort
    | c :: _ =>
      if isQuote c && key.getLast? == some c then
        (unescape (inner key)).map fun name => ([], String.ofList name)
      else .ok ([], String.ofList key)

def within (change : Value → Except Fault (Value × α)) : List String → Value → Except Fault (Value × α)
  | [], v => change v
  | name :: names, .table t =>
    (within change names ((Entries.get? t name).getD (.table []))).map fun (v, a) =>
      (.table (Entries.insert t name v), a)
  | _ :: _, _ => .error .noNames

def isFree (name : String) : Value → Bool
  | .table t => (Entries.get? t name).isNone
  | _ => false

def setName (name : String) (v : Value) : Value → Value
  | .table t => .table (Entries.insert t name v)
  | w => w

def setText (read : Bool → List Char → Except Fault Value) (name : String) (p : Parts) (level : Value) :
    Except Fault (Value × Option Block) := do
  if ← goesOn p.value then
    if !isFree name level then throw .malformed
    if name == "" then throw .namelessBlock
    return (level, some (Block.continued name p.value))
  else
    let v ← read p.strict p.value
    if !isFree name level then throw .malformed
    return (setName name v level, none)

def enter (read : Bool → List Char → Except Fault Value) (level : Value) (line : List Char) :
    Except Fault (Value × Option Block) := do
  let p ← parts line
  let (names, name) ← keyNames p.key
  within (setText read name p) names level

def isWholeEntry (piece : List Char) : Except Fault Bool :=
  match Text.splitUpTo 1 ['='] piece with
  | [_, text] =>
    match Text.trim text with
    | [] => .error .cutShort
    | c :: r =>
      let last := (c :: r).getLast?
      .ok ((isQuote c && last == some c) || c == '-' || c.isDigit || c :: r == "true".toList ||
        c :: r == "false".toList || (c == '[' && last == some ']') || (c == '\x7b' && last == some '\x7d'))
  | _ => .error .malformed

def joinEntries (piece : List Char) : List (List Char) → Except Fault (List (List Char))
  | [] => (isWholeEntry piece).bind fun whole => if whole then .ok [piece] else .error .malformed
  | next :: rest =>
    (isWholeEntry piece).bind fun whole =>
      if whole then (joinEntries next rest).map (piece :: ·) else joinEntries (piece ++ ',' :: next) rest

def entryTexts (table : List Char) : Except Fault (List (List Char)) :=
  match Text.split [','] (inner table) with
  | [] => .ok []
  | piece :: rest => if rest.isEmpty && (Text.trim piece).isEmpty then .ok [] else joinEntries piece rest

def enterAll (read : Bool → List Char → Except Fault Value) (level : Value) :
    List (List Char) → Except Fault Value
  | [] => .ok level
  | line :: rest =>
    match enter read level line with
    | .error e => .error e
    | .ok (level, some _) => .ok level
    | .ok (level, none) => enterAll read level rest

def enterInline (read : Bool → List Char → Except Fault Value) (level : Value) (table : List Char) :
    Except Fault Value :=
  (entryTexts table).bind (enterAll read level)

def readValue : Nat → Bool → List Char → Except Fault Value
  | 0, _, _ => .error .malformed
  | depth + 1, strict, cs =>
    match cs with
    | [] => .error .malformed
    | c :: _ =>
      if cs == "true".toList then .ok (.bool true)
      else if cs == "false".toList then .ok (.bool false)
      else if isQuote c then (quotedText cs).map .text
      else if c == '[' then listValue (readValue depth true) cs
      else if c == '\x7b' then enterInline (readValue depth) (.table []) cs
      else
        match if strict then number? cs else none with
        | some v => .ok v
        | none => .error .malformed

def valueOf (strict : Bool) (cs : List Char) : Except Fault Value := readValue (cs.length + 1) strict cs

def enterLine (level : Value) (line : List Char) : Except Fault (Value × Option Block) :=
  enter (readValue (line.length + 1)) level line

def enterInlineLine (level : Value) (line : List Char) : Except Fault Value :=
  enterInline (readValue (line.length + 1)) level line

end GroupLint.Toml
