import GroupLint.Groups
import GroupLint.Metadata
import GroupLint.Text.ConstantPath

/-!
The rule: the first argument of a top-level `describe` names the class or module under test. A
string passes if one of its lines reads like a constant, and a group with ignored metadata is
exempt.
-/
namespace GroupLint

structure Offense where
  location : Span
  message : String
  rule : String
  path : Option String
deriving DecidableEq, Repr, Inhabited

def isStringConstant (s : Slot) : Bool :=
  s.any fun n => n.kind == "str" && Text.hasConstantLine (n.value.getD "").toList

structure Rule where
  vocabulary : Vocabulary
  ignored : IgnoredMetadata
deriving DecidableEq, Repr, Inhabited

namespace Rule

def name : String := "RSpec/DescribeClass"

def message : String :=
  "The first argument to describe should be the class or module being tested."

def describedWithNonConstant : Pattern :=
  .shape ["send"] (.value (some "describe"))
    [.test Vocabulary.isRspecReceiver,
     .capture (.allOf [.notKind ["const"], .not (.test isStringConstant)]),
     .rest]

def withIgnoredMetadata (m : IgnoredMetadata) : Pattern :=
  .shape ["send"] (.value (some "describe"))
    [.test Vocabulary.isRspecReceiver, .rest,
     .allOf [.kind ["hash"], .hasChild (.test m.ignoresPair)]]

inductive Finding where
  | offense (o : Offense)
  | exempt (line : Int)
deriving DecidableEq, Repr

def judge (r : Rule) (path : Option String) (c : Call) : Except Fault (Option Finding) :=
  match (withIgnoredMetadata r.ignored).match? (some c.send) with
  | .error e => .error (.pattern e)
  | .ok (some _) => .ok (some (.exempt c.send.span.line))
  | .ok none =>
    match describedWithNonConstant.match? (some c.send) with
    | .error e => .error (.pattern e)
    | .ok none => .ok none
    | .ok (some [some described]) => .ok (some (.offense ⟨described.span, message, name, path⟩))
    | .ok (some [none]) => .error .emptySlot
    | .ok (some _) => .error .captureCount

/-- Findings in source order, and the fault that ended the search early, if one did. -/
structure Inspection where
  findings : List Finding
  fault : Option Fault
deriving Inhabited

/-- Judges groups in turn up to the first fault; `after` is the fault that follows the last
group. -/
def inspectGroups (r : Rule) (path : Option String) (after : Option Fault) : List Call → Inspection
  | [] => ⟨[], after⟩
  | c :: cs =>
    match r.judge path c with
    | .error e => ⟨[], some e⟩
    | .ok f =>
      let more := inspectGroups r path after cs
      ⟨f.toList ++ more.findings, more.fault⟩

def inspect (r : Rule) (path : Option String) (root : Slot) : Inspection :=
  let w := Walk.ofRoot root
  inspectGroups r path (w.fault.map .call) (r.vocabulary.topLevelGroups w)

def Finding.offense? : Finding → Option Offense
  | .offense o => some o
  | .exempt _ => none

def Finding.notice? (path : Option String) : Finding → Option Notice
  | .offense _ => none
  | .exempt line => some (.groupExempt (sourceName path) line)

def investigate (r : Rule) (path : Option String) (root : Slot) : Except Fault (List Offense) :=
  let i := r.inspect path root
  match i.fault with
  | some f => .error f
  | none => .ok (i.findings.filterMap Finding.offense?)

def notices (r : Rule) (path : Option String) (root : Slot) : List Notice :=
  (r.inspect path root).findings.filterMap (Finding.notice? path)

def check (r : Rule) (path : Option String) (root : Slot) : Run (List Offense) := do
  Run.tell (r.notices path root)
  ExceptT.mk (pure (r.investigate path root))

def ofSection (v : Vocabulary) (sec : Value) : Run Rule := do
  let t ← ExceptT.mk (pure (Vocabulary.section? sec))
  let raw := t.get? "IgnoredMetadata"
  Run.tell (IgnoredMetadata.notices raw)
  return ⟨v, IgnoredMetadata.ofValue raw⟩

end Rule
end GroupLint
