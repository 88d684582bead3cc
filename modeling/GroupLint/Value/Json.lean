import GroupLint.Value.Basic

/-!
Values as JSON documents: an indented printer, a one-line printer and a reader. Printed text is
visible ASCII: every other character is written by its UTF-16 units.
-/
namespace GroupLint.Json

open Text.Quoted (hexDigits)

def unitText (n : Nat) : List Char := '\\' :: 'u' :: hexDigits 4 n

def escapeChar (c : Char) : List Char :=
  if c == '"' then ['\\', '"']
  else if c == '\\' then ['\\', '\\']
  else if c == '\n' then ['\\', 'n']
  else if c == '\r' then ['\\', 'r']
  else if c == '\t' then ['\\', 't']
  else if c == '\x08' then ['\\', 'b']
  else if c == '\x0c' then ['\\', 'f']
  else
    let n := c.toNat
    if 0x20 ≤ n && n < 0x7F then [c]
    else if n < 0x10000 then unitText n
    else unitText (0xD800 + (n - 0x10000) / 0x400) ++ unitText (0xDC00 + (n - 0x10000) % 0x400)

def stringText (s : String) : String :=
  String.ofList ('"' :: (s.toList.flatMap escapeChar ++ ['"']))

def layout : Binary64.Layout := ⟨4, 16, 2, "Infinity", "NaN"⟩

/-- What stands after an opening bracket, between items and before the closing bracket, each by
depth, and between a key and its value. -/
structure Style where
  start : Nat → String
  between : Nat → String
  close : Nat → String
  colon : String

def indentation (depth : Nat) : String := "\n" ++ String.ofList (List.replicate (2 * depth) ' ')

def indented : Style := ⟨fun d => indentation (d + 1), fun d => "," ++ indentation (d + 1), indentation, ": "⟩

def compact : Style := ⟨fun _ => "", fun _ => ",", fun _ => "", ":"⟩

def bracket (style : Style) (depth : Nat) (left right : String) : List String → String
  | [] => left ++ right
  | items => left ++ style.start depth ++ (style.between depth).intercalate items ++ style.close depth ++ right

mutual

def write (style : Style) (depth : Nat) : Value → String
  | .null => "null"
  | .bool b => if b then "true" else "false"
  | .int i => toString i
  | .real x => x.write layout
  | .text s => stringText s
  | .moment m => stringText m.shown
  | .list items => bracket style depth "[" "]" (writeItems style (depth + 1) items)
  | .table entries => bracket style depth "\x7b" "\x7d" (writeEntries style (depth + 1) entries)

def writeItems (style : Style) (depth : Nat) : List Value → List String
  | [] => []
  | v :: r => write style depth v :: writeItems style depth r

def writeEntries (style : Style) (depth : Nat) : List (String × Value) → List String
  | [] => []
  | (k, v) :: r => (stringText k ++ style.colon ++ write style depth v) :: writeEntries style depth r

end

def pretty (v : Value) : String := write indented 0 v

def line (v : Value) : String := write compact 0 v

def isBlank (c : Char) : Bool := c == ' ' || c == '\t' || c == '\n' || c == '\r'

def skipBlank (cs : List Char) : List Char := cs.dropWhile isBlank

def hexValue? (c : Char) : Option Nat :=
  if '0' ≤ c && c ≤ '9' then some (c.toNat - 48)
  else if 'a' ≤ c && c ≤ 'f' then some (c.toNat - 87)
  else if 'A' ≤ c && c ≤ 'F' then some (c.toNat - 55)
  else none

def hexNumber? : Nat → List Char → Option Nat
  | n, [] => some n
  | n, c :: r => (hexValue? c).bind fun d => hexNumber? (n * 16 + d) r

def isHighUnit (n : Nat) : Bool := 0xD800 ≤ n && n < 0xDC00
def isLowUnit (n : Nat) : Bool := 0xDC00 ≤ n && n < 0xE000

def plainEscape? (c : Char) : Option Char :=
  if c == '"' || c == '\\' || c == '/' then some c
  else if c == 'b' then some '\x08'
  else if c == 'f' then some '\x0c'
  else if c == 'n' then some '\n'
  else if c == 'r' then some '\r'
  else if c == 't' then some '\t'
  else none

/-- A high unit that no low unit follows reads as U+FFFD. -/
def settle (high : Option Nat) (acc : List Char) : List Char :=
  match high with
  | some _ => '\ufffd' :: acc
  | none => acc

def addUnit (high : Option Nat) (acc : List Char) (n : Nat) : List Char :=
  match high with
  | some h =>
    if isLowUnit n then Char.ofNat (0x10000 + (h - 0xD800) * 0x400 + (n - 0xDC00)) :: acc
    else Char.ofNat n :: '\ufffd' :: acc
  | none => (if isLowUnit n then '\ufffd' else Char.ofNat n) :: acc

/-- The rest of a string after its opening quote: the text, last character first, and what
follows. A high unit waits in `high` for its low one. -/
def stringBody (high : Option Nat) (acc : List Char) : List Char → Option (List Char × List Char)
  | [] => none
  | '"' :: r => some (settle high acc, r)
  | '\\' :: 'u' :: a :: b :: c :: d :: r =>
    match hexNumber? 0 [a, b, c, d] with
    | some n =>
      if isHighUnit n then stringBody (some n) (settle high acc) r
      else stringBody none (addUnit high acc n) r
    | none => none
  | '\\' :: c :: r =>
    match plainEscape? c with
    | some e => stringBody none (e :: settle high acc) r
    | none => none
  | c :: r => stringBody none (c :: settle high acc) r

def digitsValue (ds : List Char) : Nat := ds.foldl (fun n c => n * 10 + (c.toNat - 48)) 0

def exponent? : List Char → Option Int
  | '-' :: ds => if ds.isEmpty || !ds.all Char.isDigit then none else some (-(digitsValue ds : Int))
  | '+' :: ds => if ds.isEmpty || !ds.all Char.isDigit then none else some (digitsValue ds)
  | ds => if ds.isEmpty || !ds.all Char.isDigit then none else some (digitsValue ds)

def unsigned? (negative : Bool) (cs : List Char) : Option Value :=
  let whole := cs.takeWhile Char.isDigit
  let r := cs.dropWhile Char.isDigit
  if whole.isEmpty then none
  else
    match r with
    | [] => some (.int (if negative then -(digitsValue whole : Int) else digitsValue whole))
    | _ =>
      let (places, r₁) :=
        match r with
        | '.' :: r₀ => (r₀.takeWhile Char.isDigit, r₀.dropWhile Char.isDigit)
        | _ => ([], r)
      let e :=
        match r₁ with
        | [] => some 0
        | 'e' :: r₂ | 'E' :: r₂ => exponent? r₂
        | _ => none
      e.map fun e => .real (Binary64.ofDecimal negative (digitsValue (whole ++ places)) (e - places.length))

def number? : List Char → Option Value
  | '-' :: r => unsigned? true r
  | cs => unsigned? false cs

def isNumberChar (c : Char) : Bool :=
  c.isDigit || c == '-' || c == '+' || c == '.' || c == 'e' || c == 'E'

mutual

def readValue : Nat → List Char → Option (Value × List Char)
  | 0, _ => none
  | fuel + 1, cs =>
    match skipBlank cs with
    | 'n' :: 'u' :: 'l' :: 'l' :: r => some (.null, r)
    | 't' :: 'r' :: 'u' :: 'e' :: r => some (.bool true, r)
    | 'f' :: 'a' :: 'l' :: 's' :: 'e' :: r => some (.bool false, r)
    | '"' :: r => (stringBody none [] r).map fun (s, r) => (.text (String.ofList s.reverse), r)
    | '[' :: r =>
      match skipBlank r with
      | ']' :: r => some (.list [], r)
      | r => readItems fuel [] r
    | '\x7b' :: r =>
      match skipBlank r with
      | '\x7d' :: r => some (.table [], r)
      | r => readEntries fuel [] r
    | cs => (number? (cs.takeWhile isNumberChar)).map fun v => (v, cs.dropWhile isNumberChar)

def readItems : Nat → List Value → List Char → Option (Value × List Char)
  | 0, _, _ => none
  | fuel + 1, acc, cs =>
    match readValue fuel cs with
    | none => none
    | some (v, r) =>
      match skipBlank r with
      | ',' :: r => readItems fuel (v :: acc) r
      | ']' :: r => some (.list (v :: acc).reverse, r)
      | _ => none

def readEntries : Nat → Table → List Char → Option (Value × List Char)
  | 0, _, _ => none
  | fuel + 1, acc, cs =>
    match skipBlank cs with
    | '"' :: r =>
      match stringBody none [] r with
      | none => none
      | some (k, r) =>
        match skipBlank r with
        | ':' :: r =>
          match readValue fuel r with
          | none => none
          | some (v, r) =>
            let acc := acc.insert (String.ofList k.reverse) v
            match skipBlank r with
            | ',' :: r => readEntries fuel acc r
            | '\x7d' :: r => some (.table acc, r)
            | _ => none
        | _ => none
    | _ => none

end

/-- The value of a whole document. Each step of the reading takes a character or more, so the
length of the text bounds the number of steps. -/
def read? (s : String) : Option Value :=
  let cs := s.toList
  match readValue (2 * cs.length + 2) cs with
  | some (v, r) => if (skipBlank r).isEmpty then some v else none
  | none => none

end GroupLint.Json
