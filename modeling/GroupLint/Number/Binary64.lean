/-!
Double-precision numbers, kept as their 64 bits. A decimal is read to the nearest number, ties
going to the even significand, in exact natural-number arithmetic.
-/
namespace GroupLint

structure Binary64 where
  bits : UInt64
deriving DecidableEq, Repr, Inhabited

namespace Binary64

def isNegative (x : Binary64) : Bool := Nat.pow 2 63 ≤ x.bits.toNat
def exponentField (x : Binary64) : Nat := x.bits.toNat / Nat.pow 2 52 % Nat.pow 2 11
def fractionField (x : Binary64) : Nat := x.bits.toNat % Nat.pow 2 52
def isFinite (x : Binary64) : Bool := x.exponentField != 2047
def isNaN (x : Binary64) : Bool := !x.isFinite && x.fractionField != 0
def isZero (x : Binary64) : Bool := x.exponentField == 0 && x.fractionField == 0

def significand (x : Binary64) : Nat :=
  if x.exponentField = 0 then x.fractionField else Nat.pow 2 52 + x.fractionField

def scale (x : Binary64) : Int :=
  if x.exponentField = 0 then -1074 else (x.exponentField : Int) - 1075

def roundHalfEven (num den : Nat) : Nat :=
  let q := num / den
  let r := num % den
  if 2 * r < den then q
  else if den < 2 * r then q + 1
  else if q % 2 = 0 then q else q + 1

def floorLog2 (num den : Nat) : Int :=
  let e : Int := (num.log2 : Int) - den.log2
  if den * Nat.pow 2 e.toNat ≤ num * Nat.pow 2 (-e).toNat then e else e - 1

def infinityWord : Nat := 2047 * Nat.pow 2 52

/-- The word of the number nearest to `num / den`. A significand that rounds up to `2 ^ 53`
carries into the exponent field by the sum alone. -/
def nearestWord (num den : Nat) : Nat :=
  if num = 0 then 0
  else
    let q := max (floorLog2 num den - 52) (-1074)
    let m := roundHalfEven (num * Nat.pow 2 (-q).toNat) (den * Nat.pow 2 q.toNat)
    min ((q + 1074).toNat * Nat.pow 2 52 + m) infinityWord

def ofWord (negative : Bool) (word : Nat) : Binary64 :=
  ⟨((if negative then Nat.pow 2 63 else 0) + word).toUInt64⟩

def infinity (negative : Bool) : Binary64 := ofWord negative infinityWord
def nan : Binary64 := ofWord false (infinityWord + Nat.pow 2 51)

/-- The number nearest to `digits * 10 ^ exponent`. Beyond four hundred places on either side
every decimal is an infinity or a zero, so no large power is taken. -/
def ofDecimal (negative : Bool) (digits : Nat) (exponent : Int) : Binary64 :=
  let places : Int := (Nat.toDigits 10 digits).length + exponent
  if digits = 0 ∨ places < -400 then ofWord negative 0
  else if 400 < places then infinity negative
  else
    ofWord negative
      (nearestWord (digits * Nat.pow 10 exponent.toNat) (Nat.pow 10 (-exponent).toNat))

end Binary64
end GroupLint
