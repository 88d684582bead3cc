import GroupLint.Text.Alphanumeric
import GroupLint.Text.Blank
import GroupLint.Text.Lines
import GroupLint.Value.Toml.Fault

/-!
A settings text as logical lines. Comments become spaces, a list that is still open takes in the next
line, and so does a text in three quotes right after its quotes. Keys are checked for the characters
that may stand in them, and quotes must be closed.
-/
namespace GroupLint.Toml

def isQuote (c : Char) : Bool := c == '"' || c == '\''

def startsOdd (cs : List Char) : Bool := (cs.takeWhile (· == '\\')).length % 2 == 1

def endsOdd (cs : List Char) : Bool := startsOdd cs.reverse

/-- Where a line stands: not in a key, in one, or after its name and before `=`. -/
inductive KeyPart where
  | outside
  | name
  | ended
deriving DecidableEq, Repr

inductive Header where
  | none
  | table
  | list
deriving DecidableEq, Repr

structure Scan where
  depth : Int
  quote : Option Char
  /-- Whether it is one of three. -/
  block : Bool
  header : Header
  lineStart : Bool
  key : KeyPart
  dotted : Bool
  comment : Bool
deriving DecidableEq, Repr

namespace Scan

def start : Scan := ⟨0, none, false, .none, true, .outside, false, false⟩

def afterGap (s : Scan) (rest : List Char) : Except Fault (Option Scan) :=
  match rest with
  | [] => .error .cutShort
  | c :: _ => .ok (some (if Text.isBlank c || c == '.' then s else { s with key := .name }))

def endKey (c : Char) : Except Fault (Option Scan) := if c == '=' then .ok none else .error .malformed

/-- What a character does in a key; none if it ends it. `done` is what came before, last character
first, and `rest` what follows. -/
def keyStep (s : Scan) (done : List Char) (c : Char) (rest : List Char) : Except Fault (Option Scan) :=
  if c == '\n' then .error .malformed
  else
    match s.quote with
    | some q =>
      .ok (some (if c == q && !startsOdd done then { s with key := .ended, quote := none } else s))
    | none =>
      if s.key == .name then
        if Text.isBlank c then .ok (some { s with key := .ended })
        else if c == '.' then .ok (some { s with dotted := true })
        else if Text.isAlphanumeric c || c == '_' || c == '-' then .ok (some s)
        else if s.dotted && done.head? == some '.' && isQuote c then .ok (some { s with quote := some c })
        else endKey c
      else if Text.isBlank c then if s.dotted then s.afterGap rest else .ok (some s)
      else if c == '.' then { s with dotted := true }.afterGap rest
      else endKey c

def flipQuote (s : Scan) (q : Char) : Scan := { s with quote := if s.quote.isSome then none else some q }

def flipBlock (s : Scan) (q : Char) : Scan :=
  { s with block := !s.block, quote := if s.block then none else some q }

def quoteStep (s : Scan) (before : List Char) (c : Char) : Scan :=
  let same := min 2 (before.takeWhile (· == c)).length
  if c == '\'' && s.quote != some '"' then
    if same == 2 then s.flipBlock c else s.flipQuote c
  else if c == '"' && s.quote != some '\'' then
    if same != 1 && startsOdd (before.drop same) then s
    else if same == 2 then s.flipBlock c else s.flipQuote c
  else s

def isBare (s : Scan) : Bool := s.quote.isNone && s.header == .none

def bracketStep (s : Scan) (done : List Char) (c : Char) (rest : List Char) : Scan :=
  if c == '[' && s.isBare then
    if s.lineStart then { s with header := if rest.head? == some '[' then .list else .table }
    else { s with depth := s.depth + 1 }
  else if c == ']' && s.quote.isNone then
    match s.header with
    | .table => { s with header := .none }
    | .list => if done.head? == some ']' then { s with header := .none } else s
    | .none => { s with depth := s.depth - 1 }
  else s

def lineStep (s : Scan) (c : Char) : Except Fault Scan :=
  if s.lineStart && c != ' ' && c != '\t' then
    if s.header != .none then .ok { s with lineStart := false }
    else if c == '=' then .error .malformed
    else .ok { s with lineStart := false, key := .name }
  else .ok s

/-- A block's line end after two quotes becomes a third one, in place of one that stands before them. -/
def blockLineEnd : List Char → List Char
  | a :: b :: r =>
    if isQuote a && a == b then
      a :: a :: b :: (if r.head? == some a then ' ' :: r.drop 1 else r)
    else '\n' :: a :: b :: r
  | done => '\n' :: done

def lineEnd (s : Scan) (done : List Char) : Except Fault (Scan × List Char) :=
  let s := { s with comment := false }
  if s.block then .ok (s, blockLineEnd done)
  else if s.quote.isSome then .error .malformed
  else if s.depth != 0 then .ok (s, ' ' :: done)
  else .ok ({ s with lineStart := true }, '\n' :: done)

/-- What a character outside a key does. At the very start of a text its end, `ending` from the last
character on, counts as what came before. -/
def plainStep (s : Scan) (ending done : List Char) (c : Char) (rest : List Char) :
    Except Fault (Scan × List Char) :=
  if c == '\n' then s.lineEnd done
  else if s.comment || (c == '#' && s.isBare) then .ok ({ s with comment := true }, ' ' :: done)
  else
    let s := s.quoteStep (if done.isEmpty then ending else done) c
    ((s.bracketStep done c rest).lineStep c).map fun s => (s, c :: done)

def step (s : Scan) (ending done : List Char) (c : Char) (rest : List Char) : Except Fault (Scan × List Char) :=
  if s.key == .outside then s.plainStep ending done c rest
  else
    match s.keyStep done c rest with
    | .error e => .error e
    | .ok (some s) => .ok (s, c :: done)
    | .ok none => { s with key := .outside, dotted := false }.plainStep ending done c rest

end Scan

def layOut (ending : List Char) (s : Scan) (done : List Char) : List Char → Except Fault (List Char)
  | [] => if s.key != .outside || s.quote.isSome then .error .malformed else .ok done.reverse
  | c :: rest =>
    match s.step ending done c rest with
    | .error e => .error e
    | .ok (s, done) => layOut ending s done rest

def logicalLines (cs : List Char) : Except Fault (List (List Char)) :=
  (layOut cs.reverse .start [] cs).map Text.newlineLines

end GroupLint.Toml
