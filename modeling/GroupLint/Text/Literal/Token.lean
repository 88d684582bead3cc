import GroupLint.Text.Alphanumeric
import GroupLint.Text.LowerCase
import GroupLint.Text.Split

/-!
The tokens of literal values: numbers, quoted texts, words and marks. Line ends count outside brackets
only; comments and blanks between tokens never do.
-/
namespace GroupLint.Literal

inductive Token where
  | real
  | imaginary
  | text
  | bytes
  | word (s : String)
  | mark (c : Char)
  | dots
  | lineEnd
deriving DecidableEq, Repr

def areDigits (isDigit : Char → Bool) (cs : List Char) : Bool :=
  (Text.split ['_'] cs).all fun part => !part.isEmpty && part.all isDigit

def isHex (c : Char) : Bool := c.isDigit || ('a' ≤ c && c ≤ 'f') || ('A' ≤ c && c ≤ 'F')
def isOctal (c : Char) : Bool := '0' ≤ c && c ≤ '7'
def isBinary (c : Char) : Bool := c == '0' || c == '1'

def areMarkedDigits (isDigit : Char → Bool) : List Char → Bool
  | '_' :: r => areDigits isDigit r
  | r => areDigits isDigit r

def isExponent : List Char → Bool
  | '+' :: r | '-' :: r => areDigits Char.isDigit r
  | r => areDigits Char.isDigit r

def isPointed (cs : List Char) : Bool :=
  match Text.split ['.'] cs with
  | [whole, places] =>
    !(whole.isEmpty && places.isEmpty) && (whole.isEmpty || areDigits Char.isDigit whole) &&
      (places.isEmpty || areDigits Char.isDigit places)
  | _ => false

def isFraction (cs : List Char) : Bool :=
  let mantissa := cs.takeWhile fun c => c != 'e' && c != 'E'
  match cs.drop mantissa.length with
  | [] => isPointed mantissa
  | _ :: e => (isPointed mantissa || areDigits Char.isDigit mantissa) && isExponent e

def isWhole (cs : List Char) : Bool :=
  areDigits Char.isDigit cs && (cs.head? != some '0' || cs.all fun c => c == '0' || c == '_')

def number? (cs : List Char) : Option Token :=
  match cs with
  | '0' :: 'x' :: r | '0' :: 'X' :: r => if areMarkedDigits isHex r then some .real else none
  | '0' :: 'o' :: r | '0' :: 'O' :: r => if areMarkedDigits isOctal r then some .real else none
  | '0' :: 'b' :: r | '0' :: 'B' :: r => if areMarkedDigits isBinary r then some .real else none
  | _ =>
    if isWhole cs || isFraction cs then some .real
    else
      match cs.reverse with
      | 'j' :: r | 'J' :: r =>
        if areDigits Char.isDigit r.reverse || isFraction r.reverse then some .imaginary else none
      | _ => none

def isNumberChar (c : Char) : Bool := c.isAlphanum || c == '_' || c == '.'

/-- The length of a number. A sign belongs to it only as the sign of an exponent. -/
def numberLength (afterE : Bool) : List Char → Nat
  | [] => 0
  | c :: r =>
    if isNumberChar c then numberLength (c == 'e' || c == 'E') r + 1
    else if afterE && (c == '+' || c == '-') then numberLength false r + 1
    else 0

def isBased : List Char → Bool
  | '0' :: c :: _ => c == 'x' || c == 'X'
  | _ => false

def numberText (cs : List Char) : List Char :=
  if isBased cs then cs.takeWhile isNumberChar else cs.take (numberLength false cs)

/-- How a quoted text is written: as bytes or not, with escapes or not, and its quote once or three
times. -/
structure Quoting where
  bytes : Bool
  raw : Bool
  quote : Char
  triple : Bool
deriving DecidableEq, Repr

def isHexRun (n : Nat) (cs : List Char) : Bool := (cs.take n).length == n && (cs.take n).all isHex

def Quoting.allows (q : Quoting) : List Char → Bool
  | 'x' :: r => q.raw || isHexRun 2 r
  | 'u' :: r => q.raw || q.bytes || isHexRun 4 r
  | 'U' :: r => q.raw || q.bytes || (isHexRun 8 r && (r.take 3 == "000".toList || r.take 4 == "0010".toList))
  | 'N' :: _ => q.raw || q.bytes
  | _ => true

def Quoting.after (q : Quoting) : List Char → Option (List Char)
  | [] => none
  | '\\' :: c :: r =>
    if q.allows (c :: r) && !(q.bytes && 0x80 ≤ c.toNat) then q.after r else none
  | c :: r =>
    if c == q.quote then
      if !q.triple then some r
      else if [c, c].isPrefixOf r then some (r.drop 2)
      else q.after r
    else if (c == '\n' && !q.triple) || (q.bytes && 0x80 ≤ c.toNat) then none
    else q.after r

def quoteLetters : List (String × Bool × Bool) :=
  [("", false, false), ("u", false, false), ("r", false, true), ("b", true, false), ("br", true, true),
   ("rb", true, true)]

def quoted? (letters : List Char) (cs : List Char) : Option (Token × List Char) :=
  match quoteLetters.lookup (String.ofList (Text.lower letters)), cs with
  | some (bytes, raw), c :: r =>
    let triple := [c, c].isPrefixOf r
    ((Quoting.mk bytes raw c triple).after (if triple then r.drop 2 else r)).map fun rest =>
      (if bytes then .bytes else .text, rest)
  | _, _ => none

def isWordChar (c : Char) : Bool := Text.isAlphanumeric c || c == '_'

def marks : List Char := ['(', ')', '\x7b', '\x7d', ',', ':', '+', '-']

def token? (cs : List Char) : Option (Token × List Char) :=
  match cs with
  | [] => none
  | '.' :: '.' :: '.' :: r => some (.dots, r)
  | c :: r =>
    if marks.contains c then some (.mark c, r)
    else if c == '"' || c == '\'' then quoted? [] cs
    else if c.isDigit || (c == '.' && r.head?.any Char.isDigit) then
      let n := numberText cs
      (number? n).map fun t => (t, cs.drop n.length)
    else
      let word := cs.takeWhile isWordChar
      let rest := cs.drop word.length
      if word.isEmpty then none
      else if rest.head? == some '"' || rest.head? == some '\'' then quoted? word rest
      else some (.word (String.ofList word), rest)

def opens (c : Char) : Bool := c == '(' || c == '\x7b'
def shuts (c : Char) : Bool := c == ')' || c == '\x7d'

def depthAfter (depth : Nat) : Token → Nat
  | .mark c => if opens c then depth + 1 else if shuts c then depth - 1 else depth
  | _ => depth

/-- The tokens of a text, inside brackets of some depth. Each step takes a character at least. -/
def tokensFrom : Nat → Nat → List Char → Option (List Token)
  | 0, _, _ => none
  | fuel + 1, depth, cs =>
    match cs with
    | [] => some []
    | '\\' :: '\n' :: r => if r.isEmpty then none else tokensFrom fuel depth r
    | c :: r =>
      if c == ' ' || c == '\t' || c == '\x0c' then tokensFrom fuel depth r
      else if c == '#' then tokensFrom fuel depth (r.dropWhile (· != '\n'))
      else if c == '\n' then
        (tokensFrom fuel depth r).map fun ts => if depth = 0 then .lineEnd :: ts else ts
      else
        match token? cs with
        | none => none
        | some (t, rest) => (tokensFrom fuel (depthAfter depth t) rest).map (t :: ·)

def tokens? (cs : List Char) : Option (List Token) :=
  if cs.contains '\x00' then none
  else
    (tokensFrom (cs.length + 1) 0 cs).map fun ts =>
      ((ts.dropWhile (· == .lineEnd)).reverse.dropWhile (· == .lineEnd)).reverse

end GroupLint.Literal
