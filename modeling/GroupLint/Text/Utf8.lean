/-!
UTF-8. A byte string is scanned into pieces, each a character or a maximal ill-formed run: the
longest start of an encoded character that the next byte rules out, or a single byte that starts
none. The three readings differ in what they make of an ill-formed piece: refuse the whole text,
put U+FFFD in its place, or leave it out.
-/
namespace GroupLint.Text.Utf8

def encode (cs : List Char) : List UInt8 := cs.flatMap String.utf8EncodeChar

def isContinuation (b : UInt8) : Bool := 0x80 ≤ b && b ≤ 0xBF

/-- The second bytes that may follow a lead byte: overlong forms, surrogates and code points
above U+10FFFF are ruled out here. -/
def isSecond (lead b : UInt8) : Bool :=
  if lead == 0xE0 then 0xA0 ≤ b && b ≤ 0xBF
  else if lead == 0xED then 0x80 ≤ b && b ≤ 0x9F
  else if lead == 0xF0 then 0x90 ≤ b && b ≤ 0xBF
  else if lead == 0xF4 then 0x80 ≤ b && b ≤ 0x8F
  else isContinuation b

/-- How many bytes a lead byte announces, itself included; zero if it starts no character. -/
def width (lead : UInt8) : Nat :=
  if lead < 0x80 then 1
  else if lead < 0xC2 then 0
  else if lead < 0xE0 then 2
  else if lead < 0xF0 then 3
  else if lead < 0xF5 then 4
  else 0

def low (b : UInt8) : Nat := b.toNat % 64

def two (a b : UInt8) : Char := Char.ofNat (a.toNat % 32 * 64 + low b)
def three (a b c : UInt8) : Char := Char.ofNat (a.toNat % 16 * 4096 + low b * 64 + low c)
def four (a b c d : UInt8) : Char :=
  Char.ofNat (a.toNat % 8 * 262144 + low b * 4096 + low c * 64 + low d)

def piece (a : UInt8) (r : List UInt8) : Option Char × Nat :=
  match width a with
  | 1 => (some (Char.ofNat a.toNat), 0)
  | 2 =>
    match r with
    | b :: _ => if isSecond a b then (some (two a b), 1) else (none, 0)
    | [] => (none, 0)
  | 3 =>
    match r with
    | b :: c :: _ =>
      if !isSecond a b then (none, 0)
      else if isContinuation c then (some (three a b c), 2)
      else (none, 1)
    | [b] => (none, if isSecond a b then 1 else 0)
    | [] => (none, 0)
  | 4 =>
    match r with
    | b :: c :: d :: _ =>
      if !isSecond a b then (none, 0)
      else if !isContinuation c then (none, 1)
      else if isContinuation d then (some (four a b c d), 3)
      else (none, 2)
    | [b, c] => (none, if !isSecond a b then 0 else if isContinuation c then 2 else 1)
    | [b] => (none, if isSecond a b then 1 else 0)
    | [] => (none, 0)
  | _ => (none, 0)

/-- The pieces that start after the next `taken` bytes; `none` stands for an ill-formed one. -/
def scanFrom : Nat → List UInt8 → List (Option Char)
  | _, [] => []
  | taken + 1, _ :: r => scanFrom taken r
  | 0, a :: r => (piece a r).1 :: scanFrom (piece a r).2 r

def scan (bs : List UInt8) : List (Option Char) := scanFrom 0 bs

def allSome : List (Option Char) → Option (List Char)
  | [] => some []
  | none :: _ => none
  | some c :: r => (allSome r).map (c :: ·)

def decode? (bs : List UInt8) : Option (List Char) := allSome (scan bs)

def decodeLossy (bs : List UInt8) : List Char := (scan bs).map (·.getD '\ufffd')

def decodeSkipping (bs : List UInt8) : List Char := (scan bs).filterMap id

end GroupLint.Text.Utf8
