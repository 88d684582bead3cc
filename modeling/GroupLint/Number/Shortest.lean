import GroupLint.Number.Binary64

/-!
The fewest decimal digits that read back as a given double-precision number, and the texts made
of them. The digits are searched on the grids of 1, 2, ... 17 digits; on each grid only the two
neighbours of the value can lie in the interval of reals that round to it.
-/
namespace GroupLint.Binary64

structure Interval where
  low : Nat
  value : Nat
  high : Nat
  den : Nat
  closed : Bool

/-- Four units in the last place are counted as 4, so that both half-way points are whole. -/
def interval (x : Binary64) : Interval :=
  let m := x.significand
  let up := Nat.pow 2 (x.scale - 2).toNat
  let below := if x.fractionField = 0 ∧ 1 < x.exponentField then 1 else 2
  ⟨(4 * m - below) * up, 4 * m * up, (4 * m + 2) * up, Nat.pow 2 (2 - x.scale).toNat, m % 2 = 0⟩

def Interval.holds (i : Interval) (digits : Nat) (exponent : Int) : Bool :=
  let d := digits * Nat.pow 10 exponent.toNat * i.den
  let s := Nat.pow 10 (-exponent).toNat
  if i.closed then i.low * s ≤ d && d ≤ i.high * s else i.low * s < d && d < i.high * s

def Interval.magnitude (i : Interval) : Int :=
  ((Nat.toDigits 10 (i.value * Nat.pow 10 340 / i.den)).length : Int) - 340

def Interval.onGrid (i : Interval) (count : Nat) : Option (Nat × Int) :=
  let e : Int := i.magnitude - count
  let num := i.value * Nat.pow 10 (-e).toNat
  let den := i.den * Nat.pow 10 e.toNat
  let lower := num / den
  match i.holds lower e, i.holds (lower + 1) e with
  | true, true => some (roundHalfEven num den, e)
  | true, false => some (lower, e)
  | false, true => some (lower + 1, e)
  | false, false => none

def shortest (x : Binary64) : Nat × Int :=
  let i := x.interval
  ((List.range 17).findSome? fun n => i.onGrid (n + 1)).getD (0, 0)

/-- How a number is written: positional while fewer than `leading` zeros stand between the point and
the digits and at most `positional` places before the point, else with an exponent of at least
`exponentWidth` digits. -/
structure Layout where
  leading : Nat
  positional : Nat
  exponentWidth : Nat
  infinity : String
  nan : String

def zeros (n : Nat) : List Char := List.replicate n '0'

def trimZeros (ds : List Char) : List Char := (ds.reverse.dropWhile (· == '0')).reverse

def exponentText (width : Nat) (e : Int) : List Char :=
  let ds := Nat.toDigits 10 e.natAbs
  (if e < 0 then '-' else '+') :: (zeros (width - ds.length) ++ ds)

def digitsText (l : Layout) (ds : List Char) (point : Int) : List Char :=
  if point ≤ -(l.leading : Int) ∨ (l.positional : Int) < point then
    let tail := ds.drop 1
    ds.take 1 ++ (if tail.isEmpty then [] else '.' :: tail) ++ 'e' :: exponentText l.exponentWidth (point - 1)
  else if point ≤ 0 then '0' :: '.' :: (zeros (-point).toNat ++ ds)
  else if ds.length ≤ point.toNat then ds ++ zeros (point.toNat - ds.length) ++ ['.', '0']
  else ds.take point.toNat ++ '.' :: ds.drop point.toNat

def magnitudeText (l : Layout) (x : Binary64) : List Char :=
  if x.isZero then ['0', '.', '0']
  else
    let (digits, e) := x.shortest
    let ds := Nat.toDigits 10 digits
    digitsText l (trimZeros ds) (ds.length + e)

def write (l : Layout) (x : Binary64) : String :=
  if x.isNaN then l.nan
  else
    let m := if x.isFinite then magnitudeText l x else l.infinity.toList
    String.ofList (if x.isNegative then '-' :: m else m)

def shown : Layout := ⟨4, 16, 2, "inf", "nan"⟩

end GroupLint.Binary64
