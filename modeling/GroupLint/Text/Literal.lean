import GroupLint.Text.Literal.Token

/-!
Which texts are literal values: numbers, quoted texts, `True`, `False` and `None`, and tuples, tables and
sets of such values. What a table is keyed by and what a set holds must not be a table or a set itself.
-/
namespace GroupLint.Literal

inductive Kind where
  | real
  | signedReal
  | imaginary
  | fixed
  /-- A table or a set, or a tuple that holds one. -/
  | changeable
deriving DecidableEq, Repr

def Kind.ofItems (kinds : List Kind) : Kind := if kinds.contains .changeable then .changeable else .fixed

def afterTexts (first : Token) (ts : List Token) : Option (List Token) :=
  let rest := ts.dropWhile (· == first)
  if rest.head? == some .text || rest.head? == some .bytes then none else some rest

mutual

def value : Nat → List Token → Option (Kind × List Token)
  | 0, _ => none
  | fuel + 1, ts =>
    match signed fuel ts with
    | none => none
    | some (kind, r) =>
      match r with
      | .mark '+' :: r | .mark '-' :: r =>
        match primary fuel r with
        | some (.imaginary, rest) =>
          if kind == .real || kind == .signedReal then some (.fixed, rest) else none
        | _ => none
      | _ => some (kind, r)

def signed : Nat → List Token → Option (Kind × List Token)
  | 0, _ => none
  | fuel + 1, ts =>
    match ts with
    | .mark '+' :: r | .mark '-' :: r =>
      match primary fuel r with
      | some (.real, rest) => some (.signedReal, rest)
      | some (.imaginary, rest) => some (.fixed, rest)
      | _ => none
    | _ => primary fuel ts

def primary : Nat → List Token → Option (Kind × List Token)
  | 0, _ => none
  | fuel + 1, ts =>
    match ts with
    | .real :: r => some (.real, r)
    | .imaginary :: r => some (.imaginary, r)
    | .text :: r => (afterTexts .text r).map fun rest => (.fixed, rest)
    | .bytes :: r => (afterTexts .bytes r).map fun rest => (.fixed, rest)
    | .dots :: r => some (.fixed, r)
    | .word "set" :: .mark '(' :: .mark ')' :: r => some (.changeable, r)
    | .word w :: r => if w == "True" || w == "False" || w == "None" then some (.fixed, r) else none
    | .mark '(' :: .mark ')' :: r => some (.fixed, r)
    | .mark '(' :: r => tuple fuel [] r
    | .mark '\x7b' :: .mark '\x7d' :: r => some (.changeable, r)
    | .mark '\x7b' :: r => braced fuel none r
    | _ => none

def tuple : Nat → List Kind → List Token → Option (Kind × List Token)
  | 0, _, _ => none
  | fuel + 1, before, ts =>
    match value fuel ts with
    | none => none
    | some (kind, .mark ')' :: rest) =>
      some (if before.isEmpty then kind else Kind.ofItems (kind :: before), rest)
    | some (kind, .mark ',' :: .mark ')' :: rest) => some (Kind.ofItems (kind :: before), rest)
    | some (kind, .mark ',' :: r) => tuple fuel (kind :: before) r
    | some _ => none

/-- The rest of a table or a set: its entries all have keys or none has, as `keyed` says once the
first one is read. -/
def braced : Nat → Option Bool → List Token → Option (Kind × List Token)
  | 0, _, _ => none
  | fuel + 1, keyed, ts =>
    match value fuel ts with
    | none | some (.changeable, _) => none
    | some (_, r) =>
      let entry : Option (Bool × List Token) :=
        match r with
        | .mark ':' :: r => (value fuel r).map fun (_, rest) => (true, rest)
        | r => some (false, r)
      match entry with
      | none => none
      | some (hasKey, r) =>
        if keyed == some (!hasKey) then none
        else
          match r with
          | .mark '\x7d' :: rest | .mark ',' :: .mark '\x7d' :: rest => some (.changeable, rest)
          | .mark ',' :: r => braced fuel (some hasKey) r
          | _ => none

end

def isRow : Nat → List Token → Bool
  | 0, _ => false
  | fuel + 1, ts =>
    match value fuel ts with
    | some (_, []) | some (_, [.mark ',']) => true
    | some (_, .mark ',' :: r) => isRow fuel r
    | _ => false

/-- Whether a text is a literal value, or several with commas between them. Between two tokens there
are four steps at most, so that many for each token are enough. -/
def isLiteral (cs : List Char) : Bool :=
  match tokens? cs with
  | some ts => isRow (4 * ts.length + 8) ts
  | none => false

end GroupLint.Literal
