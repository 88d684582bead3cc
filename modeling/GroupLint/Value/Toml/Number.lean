import GroupLint.Value.Toml.Quotes

/-!
Numbers in a settings text. Digits of every script count, and underscores may stand between digits.
-/
namespace GroupLint.Toml

open Json (digitsValue exponent? hexValue?)

def dropUnderscores? (afterDigit : Bool) : List Char → Option (List Char)
  | [] => some []
  | c :: r =>
    if c == '_' then
      if afterDigit && r.head?.any Char.isDigit then dropUnderscores? false r else none
    else (dropUnderscores? c.isDigit r).map (c :: ·)

def splitSign : List Char → Bool × List Char
  | '-' :: r => (true, r)
  | '+' :: r => (false, r)
  | cs => (false, cs)

def decimal? (negative : Bool) (cs : List Char) : Option Binary64 :=
  let whole := cs.takeWhile Char.isDigit
  let r := cs.dropWhile Char.isDigit
  let (places, r) :=
    match r with
    | '.' :: r => (r.takeWhile Char.isDigit, r.dropWhile Char.isDigit)
    | r => ([], r)
  if whole.isEmpty && places.isEmpty then none
  else
    let e :=
      match r with
      | [] => some 0
      | 'e' :: r | 'E' :: r => exponent? r
      | _ => none
    e.map fun e => Binary64.ofDecimal negative (digitsValue (whole ++ places)) (e - places.length)

def real? (cs : List Char) : Option Binary64 :=
  let (negative, r) := splitSign ((Text.trim cs).map Text.toAsciiDigit)
  let word := Text.lower r
  if word == "inf".toList || word == "infinity".toList then some (Binary64.infinity negative)
  else if word == "nan".toList then some Binary64.nan
  else (dropUnderscores? false r).bind (decimal? negative)

def inBase? (base : Nat) (ds : List Char) : Option Nat :=
  if ds.isEmpty then none
  else
    ds.foldl (fun n c => n.bind fun n => (hexValue? c).bind fun d =>
      if d < base then some (n * base + d) else none) (some 0)

def mostDigits : Nat := 4300

/-- Digits in base ten, or in the base that the mark after a zero names. A decimal starts with a zero
only if it has no other digit. -/
def natural? : List Char → Option Nat
  | '0' :: 'x' :: r | '0' :: 'X' :: r => inBase? 16 r
  | '0' :: 'o' :: r | '0' :: 'O' :: r => inBase? 8 r
  | '0' :: 'b' :: r | '0' :: 'B' :: r => inBase? 2 r
  | ds =>
    if mostDigits < ds.length || (ds.head? == some '0' && ds.any (· != '0')) then none
    else inBase? 10 ds

def whole? (cs : List Char) : Option Int :=
  let (negative, r) := splitSign ((Text.trim cs).map Text.toAsciiDigit)
  (natural? r).map fun n => if negative then -(n : Int) else n

def isStrict (cs : List Char) : Bool :=
  let n := Text.trim cs
  let (_, r) := splitSign n
  if n.isEmpty || n.head? == some '_' || n.getLast? == some '_' || Text.occurs ['_', '.'] n ||
      Text.occurs ['.', '_'] n then false
  else
    match n, r with
    | [_], _ => true
    | '0' :: c :: _, _ => (c == '.' || c == 'o' || c == 'b' || c == 'x') && !Text.occurs ['_', '_'] n
    | _, '0' :: c :: _ => c == '.' && !Text.occurs ['_', '_'] n
    | _, _ => !Text.occurs ['_', '_'] n

def isRealText (cs : List Char) : Bool :=
  cs.contains '.' || (!cs.contains 'x' && (cs.contains 'e' || cs.contains 'E'))

/-- Zero has no sign. -/
def signed (negative : Bool) (x : Binary64) : Binary64 :=
  if x.isZero || x.isNaN then x else Binary64.ofWord negative (x.bits.toNat % Nat.pow 2 63)

def number? (cs : List Char) : Option Value :=
  let (negative, r) := splitSign cs
  let r := r.filter (· != '_')
  if isRealText r then
    if r.getLast? == some '.' && !(r.dropLast.contains '.') || !(r.head?.any Char.isDigit) then none
    else (real? r).map fun x => .real (signed negative x)
  else if Text.lower r == "inf".toList || Text.lower r == "nan".toList then
    (real? r).map fun x => .real (signed negative x)
  else (whole? r).map fun n => .int (if negative then -n else n)

end GroupLint.Toml
