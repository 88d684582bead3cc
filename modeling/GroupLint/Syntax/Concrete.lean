import GroupLint.Syntax.Node

/-!
Concrete trees: every token of the source, as a grammar delivers them. Flags are taken as given and
never derived from the children.
-/
namespace GroupLint

/-- The place of a concrete node; rows and columns count from 0, columns in bytes. -/
structure Extent where
  start : Int
  stop : Int
  row : Int
  column : Int
deriving DecidableEq, Repr, Inhabited

inductive Concrete where
  | mk (kind : String) (isNamed : Bool) (field : Option String) (extent : Extent)
      (hasError : Bool) (isMissing : Bool) (children : List Concrete)
deriving Repr, Inhabited

namespace Concrete

def kind : Concrete → String | mk k _ _ _ _ _ _ => k
def isNamed : Concrete → Bool | mk _ b _ _ _ _ _ => b
def field : Concrete → Option String | mk _ _ f _ _ _ _ => f
def extent : Concrete → Extent | mk _ _ _ x _ _ _ => x
def hasError : Concrete → Bool | mk _ _ _ _ b _ _ => b
def isMissing : Concrete → Bool | mk _ _ _ _ _ b _ => b
def children : Concrete → List Concrete | mk _ _ _ _ _ _ cs => cs

def text (bytes : List UInt8) (c : Concrete) : List Char :=
  Text.Utf8.decodeLossy (slice bytes c.extent.start c.extent.stop)

def span (c : Concrete) : Span := ⟨c.extent.start, c.extent.stop, c.extent.row + 1, c.extent.column⟩

def isMistake (c : Concrete) : Bool := c.kind == "ERROR" || c.isMissing

def isSuspect (c : Concrete) : Bool := c.hasError || c.isMissing

mutual

/-- The first mistake at or below a node, looked for under flagged children only. -/
def firstMistake : Concrete → Option Concrete
  | mk k n f x e m cs =>
    if isMistake (mk k n f x e m cs) then some (mk k n f x e m cs) else firstMistakeIn cs

def firstMistakeIn : List Concrete → Option Concrete
  | [] => none
  | c :: r => if c.isSuspect then (firstMistake c).or (firstMistakeIn r) else firstMistakeIn r

end

end Concrete

structure SyntaxFault where
  path : Option String
  line : Int
  column : Int
deriving DecidableEq, Repr, Inhabited

def sourceName : Option String → String
  | some p => if p == "" then "<source>" else p
  | none => "<source>"

def SyntaxFault.message (e : SyntaxFault) : String :=
  sourceName e.path ++ ":" ++ toString e.line ++ ":" ++ toString (e.column + 1) ++ ": syntax error"

end GroupLint
