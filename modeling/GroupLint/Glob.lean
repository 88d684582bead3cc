/-!
Glob patterns over whole paths. `*` takes any run of characters, slashes and newlines included, `?`
takes one, and a bracket set takes one of its characters, or with `!` one that is not in it. A
bracket that is never closed stands for itself.
-/
namespace GroupLint.Glob

inductive Member where
  | char (c : Char)
  | range (lo hi : Char)
deriving DecidableEq, Repr

def Member.isBackward : Member → Bool
  | .char _ => false
  | .range lo hi => hi < lo

def Member.holds (c : Char) : Member → Bool
  | .char d => c == d
  | .range lo hi => lo ≤ c && c ≤ hi

inductive Token where
  | star
  | one
  | char (c : Char)
  | set (negated : Bool) (members : List Member)
deriving DecidableEq, Repr

/-- The members a set lists. A hyphen between two characters makes a range of them; at either end,
and right after a range, it is a character. -/
def members : List Char → List Member
  | lo :: '-' :: hi :: r => .range lo hi :: members r
  | c :: r => .char c :: members r
  | [] => []

def forward (ms : List Member) : List Member := ms.filter fun m => !m.isBackward

/-- The set between two brackets. A leading `!` negates, also one that comes to lead when ranges
before it are left out; if such a one starts a range, the hyphen and the end of the range are
characters. -/
def setToken : List Char → Token
  | '!' :: r => .set true (forward (members r))
  | cs =>
    match forward (members cs) with
    | .char '!' :: ms => .set true ms
    | .range '!' hi :: ms => .set true (.char '-' :: .char hi :: ms)
    | ms => .set false ms

/-- Splits what follows an opening bracket at the bracket that closes it. A closing bracket that
comes first, or right after the `!`, is a character of the set. -/
def splitSet (cs : List Char) : Option (List Char × List Char) :=
  let lead : Nat :=
    match cs with
    | '!' :: ']' :: _ => 2
    | '!' :: _ => 1
    | ']' :: _ => 1
    | _ => 0
  let r := cs.drop lead
  match r.dropWhile (· != ']') with
  | [] => none
  | _ :: after => some (cs.take lead ++ r.takeWhile (· != ']'), after)

def tokensFrom : Nat → List Char → List Token
  | _, [] => []
  | skip + 1, _ :: r => tokensFrom skip r
  | 0, '*' :: r => .star :: tokensFrom 0 r
  | 0, '?' :: r => .one :: tokensFrom 0 r
  | 0, '[' :: r =>
    match splitSet r with
    | none => .char '[' :: tokensFrom 0 r
    | some (inside, _) => setToken inside :: tokensFrom (inside.length + 1) r
  | 0, c :: r => .char c :: tokensFrom 0 r

def tokens (pattern : List Char) : List Token := tokensFrom 0 pattern

def Token.takes (c : Char) : Token → Bool
  | .star => false
  | .one => true
  | .char d => c == d
  | .set negated ms => ms.any (Member.holds c) != negated

def anySuffix (f : List Char → Bool) : List Char → Bool
  | [] => f []
  | c :: r => f (c :: r) || anySuffix f r

def accepts : List Token → List Char → Bool
  | [], s => s.isEmpty
  | .star :: ts, s => anySuffix (accepts ts) s
  | t :: ts, c :: s => t.takes c && accepts ts s
  | _ :: _, [] => false

def covers (pattern text : List Char) : Bool := accepts (tokens pattern) text

/-- A pattern under `**/` also covers paths at the root. -/
def matchesPath (path pattern : List Char) : Bool :=
  match pattern with
  | '*' :: '*' :: '/' :: r => covers r path || covers pattern path
  | _ => covers pattern path

end GroupLint.Glob
