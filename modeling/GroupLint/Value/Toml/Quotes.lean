import GroupLint.Text.LowerCase
import GroupLint.Text.Split
import GroupLint.Value.Json
import GroupLint.Value.Toml.Lines

/-!
Quotes in a line, and what texts in quotes stand for.
-/
namespace GroupLint.Toml

/-- Pieces between single quotes, as long as one is open taking in what follows a double quote. -/
def takeIn (pieces : List (List Char)) : List (List Char) → List (List Char) × List (List Char)
  | [] => (pieces, [])
  | next :: rest =>
    if pieces.length % 2 == 0 then
      takeIn (pieces.dropLast ++ Text.split ['\''] (pieces.getLast?.getD [] ++ '"' :: next)) rest
    else (pieces, next :: rest)

def cutFirst : List (List Char) → List (List Char)
  | [] => []
  | piece :: pieces => Text.split ['\''] piece ++ pieces

def quotePieces (line : List Char) : List (List Char) :=
  match Text.split ['"'] line with
  | first :: next :: rest =>
    if first.contains '\'' then
      let (pieces, rest) := takeIn (Text.split ['\''] first) (next :: rest)
      pieces ++ cutFirst rest
    else cutFirst (first :: next :: rest)
  | pieces => cutFirst pieces

/-- The number of cuts that take a line apart at the first separator outside quotes: one more than
the separators before it. -/
def cutsFrom (separator : List Char) (cuts : Nat) (quoted : Bool) : List (List Char) → Nat
  | [] => cuts
  | piece :: pieces =>
    if !quoted && Text.occurs separator piece then cuts
    else cutsFrom separator (cuts + Text.occurrences separator piece) (!quoted) pieces

def cuts (separator line : List Char) : Nat := cutsFrom separator 1 false (quotePieces line)

def escapes : List (Char × Char) :=
  [('0', '\x00'), ('b', '\x08'), ('f', '\x0c'), ('n', '\n'), ('r', '\r'), ('t', '\t'), ('"', '"'), ('\\', '\\')]

def unescape : List Char → Except Fault (List Char)
  | '\\' :: c :: r =>
    match escapes.lookup c with
    | some x => (unescape r).map (x :: ·)
    | none => if c == 'u' || c == 'U' then (unescape r).map fun r => '\\' :: c :: r else .error .malformed
  | c :: r => (unescape r).map (c :: ·)
  | [] => .ok []

def codePoint (ds : List Char) : Except Fault Char :=
  match Json.hexNumber? 0 ds, ds with
  | none, _ => .error .malformed
  | some _, [] => .error .cutShort
  | some n, d :: r =>
    if d == 'd' && r.isEmpty then .error .cutShort
    else if d == 'd' && !(r.head?.any fun c => '0' ≤ c && c ≤ '7') then .error .malformed
    else if Nat.pow 2 31 ≤ n then .error .codePointTooLarge
    else if n.isValidChar then .ok (Char.ofNat n)
    else .error .malformed

/-- The pieces after the marks of numbered characters, put together again with the characters. After a
mark that is escaped itself the piece stays as it is. -/
def numberedFrom (mark : Char) (width : Nat) (escaped : Bool) : List (List Char) → Except Fault (List Char)
  | [] => .ok []
  | piece :: pieces =>
    if escaped then
      (numberedFrom mark width (endsOdd piece) pieces).map fun r => '\\' :: mark :: piece ++ r
    else
      match codePoint (Text.lower (piece.take width)) with
      | .error e => .error e
      | .ok c => (numberedFrom mark width false pieces).map fun r => c :: piece.drop width ++ r

def numbered (mark : Char) (width : Nat) (cs : List Char) : Except Fault (List Char) :=
  match Text.split ['\\', mark] cs with
  | [] => .ok cs
  | first :: pieces => (numberedFrom mark width (endsOdd first) pieces).map (first ++ ·)

def knowsEscapes (escaped : Bool) : List (List Char) → Bool
  | [] => true
  | [] :: pieces => knowsEscapes (!escaped) pieces
  | (c :: _) :: pieces =>
    ((escapes.lookup c).isSome || c == 'u' || c == 'U' || escaped) && knowsEscapes false pieces

/-- Whether nothing follows the closing quotes, by the pieces between quotes. `empty` counts the empty
pieces at hand of a text in three quotes. -/
def closesLast (triple : Bool) (empty : Nat) (closed : Bool) : List (List Char) → Bool
  | [] => true
  | piece :: pieces =>
    if piece.isEmpty then
      if triple then closesLast triple (empty + 1) closed pieces else closesLast triple empty true pieces
    else if endsOdd piece then closesLast triple empty closed pieces
    else if closed then false
    else if !triple || 1 < empty then closesLast triple empty true pieces
    else closesLast triple 0 closed pieces

def isClosedOnce (q : Char) (afterQuote : List Char) : Bool :=
  match Text.split [q] afterQuote with
  | [] :: [] :: pieces => closesLast true 0 false pieces
  | pieces => closesLast false 0 false pieces

def inner (cs : List Char) : List Char := (cs.drop 1).dropLast

def unquote (q : Char) (cs : List Char) : List Char :=
  match cs with
  | [_, b] => if b == q then [] else inner cs
  | _ :: b :: c :: _ => if b == q && c == q then inner (inner (inner cs)) else inner cs
  | _ => inner cs

def quotedText (cs : List Char) : Except Fault String :=
  match cs with
  | [] => .error .malformed
  | q :: r =>
    if !isClosedOnce q r then .error .malformed
    else if q == '"' then
      if !knowsEscapes false ((Text.split ['\\'] cs).drop 1) then .error .malformed
      else do
        let cs ← numbered 'u' 4 cs
        let cs ← numbered 'U' 8 cs
        let cs ← unescape cs
        return String.ofList (unquote q cs)
    else .ok (String.ofList (unquote q cs))

end GroupLint.Toml
