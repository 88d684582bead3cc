import GroupLint.Syntax.Node

/-!
Structural patterns on slots. Matching yields the captured slots in pattern order. A pattern may be
used where it has no meaning, and matching reaches such a place only in the order in which it looks
at things: sub-patterns from left to right, stopping at the first that settles the outcome.
-/
namespace GroupLint

inductive Pattern where
  | any
  | empty
  /-- Any number of slots in a row; meaningful only among the children of a shape. -/
  | rest
  | unspecified
  | kind (kinds : List String)
  | notKind (kinds : List String)
  | value (v : Option String)
  | capture (p : Pattern)
  | not (p : Pattern)
  | allOf (ps : List Pattern)
  | anyOf (ps : List Pattern)
  | test (holds : Slot → Bool)
  | attempt (holds : Slot → Except String Bool)
  | hasChild (p : Pattern)
  /-- A node of one of the kinds, which itself fits `value`, and whose slots fit `children` one to
  one, `rest` taking what is left over. -/
  | shape (kinds : List String) (value : Pattern) (children : List Pattern)
deriving Inhabited

inductive PatternFault where
  | misplacedRest
  | unspecified
  | repeatedRest
  | failedTest (reason : String)
deriving DecidableEq, Repr

def PatternFault.message : PatternFault → String
  | .misplacedRest => "REST is only valid as a Shape child"
  | .unspecified => ""
  | .repeatedRest => "REST may appear at most once in a Shape"
  | .failedTest reason => reason

namespace Pattern

def isRest : Pattern → Bool
  | .rest => true
  | _ => false

def shape? (kinds : List String) (value : Pattern) (children : List Pattern) :
    Except PatternFault Pattern :=
  if 1 < children.countP isRest then .error .repeatedRest else .ok (.shape kinds value children)

/-- Whether a row of patterns can cover so many slots: exactly as many as there are patterns, or,
around a rest, at least as many as there are others. -/
def coversLength (ps : List Pattern) (slots : Nat) : Bool :=
  if ps.any isRest then ps.length ≤ slots + 1 else ps.length == slots

abbrev Captures := List Slot

abbrev Outcome := Except PatternFault (Option Captures)

def keepIf (b : Bool) (acc : Captures) : Outcome := .ok (if b then some acc else none)

def extend (acc : Captures) (o : Outcome) : Outcome := o.map (Option.map (acc ++ ·))

def firstFit (f : Slot → Outcome) : List Slot → Outcome
  | [] => .ok none
  | s :: r =>
    match f s with
    | .ok none => firstFit f r
    | o => o

mutual

def collect : Pattern → Slot → Captures → Outcome
  | .any, _, acc => .ok (some acc)
  | .empty, s, acc => keepIf s.isNone acc
  | .rest, _, _ => .error .misplacedRest
  | .unspecified, _, _ => .error .unspecified
  | .kind ks, s, acc => keepIf (s.any fun n => ks.contains n.kind) acc
  | .notKind ks, s, acc => keepIf (s.all fun n => !ks.contains n.kind) acc
  | .value v, s, acc => keepIf (s.any fun n => n.value == v) acc
  | .test holds, s, acc => keepIf (holds s) acc
  | .attempt holds, s, acc =>
    match holds s with
    | .ok b => keepIf b acc
    | .error reason => .error (.failedTest reason)
  | .capture p, s, acc => extend (acc ++ [s]) (p.collect s [])
  | .not p, s, acc =>
    match p.collect s [] with
    | .ok none => .ok (some acc)
    | .ok (some _) => .ok none
    | .error e => .error e
  | .allOf ps, s, acc => extend acc (collectAll ps s [])
  | .anyOf ps, s, acc => extend acc (collectFirst ps s)
  | .hasChild p, s, acc =>
    match s with
    | none => .ok none
    | some n => extend acc (firstFit (fun c => p.collect c []) n.children)
  | .shape ks v ps, s, acc =>
    match s with
    | none => .ok none
    | some n =>
      if !ks.contains n.kind then .ok none
      else
        match v.collect s [] with
        | .ok (some trial) =>
          if coversLength ps n.children.length then extend acc (collectRow ps n.children trial)
          else .ok none
        | o => o

def collectAll : List Pattern → Slot → Captures → Outcome
  | [], _, acc => .ok (some acc)
  | p :: ps, s, acc =>
    match p.collect s acc with
    | .ok (some acc') => collectAll ps s acc'
    | o => o

def collectFirst : List Pattern → Slot → Outcome
  | [], _ => .ok none
  | p :: ps, s =>
    match p.collect s [] with
    | .ok none => collectFirst ps s
    | o => o

/-- Patterns on consecutive slots; a rest leaves just the slots that the patterns after it need. -/
def collectRow : List Pattern → List Slot → Captures → Outcome
  | [], _, acc => .ok (some acc)
  | .rest :: ps, ss, acc => collectRow ps (ss.drop (ss.length - ps.length)) acc
  | _ :: _, [], _ => .ok none
  | p :: ps, s :: ss, acc =>
    match p.collect s acc with
    | .ok (some acc') => collectRow ps ss acc'
    | o => o

end

/-- The captures of a match, in pattern order: an outer capture stands before those inside it. -/
def match? (p : Pattern) (s : Slot) : Outcome := p.collect s []

def fits (p : Pattern) (s : Slot) : Bool :=
  match p.match? s with
  | .ok (some _) => true
  | _ => false

end Pattern
end GroupLint
