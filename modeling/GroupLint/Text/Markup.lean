import GroupLint.Text.Alphanumeric
import GroupLint.Text.Blank
import GroupLint.Text.Literal
import GroupLint.Text.Style

/-!
Console markup. A tag is a bracket that starts with a lower-case letter, `#`, `/` or `@`; it sets a
style or, with `@`, an action, and prints nothing. Backslashes before a tag escape it: each pair prints
as one, and an odd one makes the tag plain text. Printing without colour leaves the plain text, in
which short codes between colons become pictures and control codes go.
-/
namespace GroupLint

namespace Markup

def isTagStart (c : Char) : Bool := ('a' ≤ c && c ≤ 'z') || c == '#' || c == '/' || c == '@'

def tagInside? : List Char → Option (List Char)
  | [] => none
  | c :: r =>
    if isTagStart c then
      let inside := r.takeWhile fun x => x != '[' && x != ']'
      if (r.drop inside.length).head? == some ']' then some (c :: inside) else none
    else none

inductive Piece where
  | char (c : Char)
  | tag (slashes : Nat) (inside : List Char)
deriving DecidableEq, Repr

def slashPieces (n : Nat) : List Piece := List.replicate n (.char '\\')

/-- The pieces of a text, after `skip` characters of a tag and with `slashes` pending. -/
def piecesFrom : Nat → Nat → List Char → List Piece
  | _, slashes, [] => slashPieces slashes
  | skip + 1, slashes, _ :: r => piecesFrom skip slashes r
  | 0, slashes, '\\' :: r => piecesFrom 0 (slashes + 1) r
  | 0, slashes, '[' :: r =>
    match tagInside? r with
    | some inside => .tag slashes inside :: piecesFrom (inside.length + 1) 0 r
    | none => slashPieces slashes ++ .char '[' :: piecesFrom 0 0 r
  | 0, slashes, c :: r => slashPieces slashes ++ .char c :: piecesFrom 0 0 r

def pieces (cs : List Char) : List Piece := piecesFrom 0 0 cs

def bracketed (inside : List Char) : List Char := '[' :: (inside ++ [']'])

def escapePiece : Piece → List Char
  | .char c => [c]
  | .tag slashes inside => List.replicate (2 * slashes + 1) '\\' ++ bracketed inside

/-- A single backslash at the end is doubled, lest it escape a tag that follows. -/
def guardEnd (cs : List Char) : List Char :=
  match cs.reverse with
  | '\\' :: '\\' :: _ => cs
  | '\\' :: _ => cs ++ ['\\']
  | _ => cs

def escape (cs : List Char) : List Char := guardEnd ((pieces cs).flatMap escapePiece)

inductive Segment where
  | plain (cs : List Char)
  | tag (inside : List Char)
deriving DecidableEq, Repr

def plainSegment : List Char → List Segment
  | [] => []
  | cs => [.plain cs]

def tagSegments (slashes : Nat) (inside : List Char) : List Segment :=
  plainSegment (List.replicate (slashes / 2) '\\') ++
    [if slashes % 2 = 1 then .plain (bracketed inside) else .tag inside]

def segments (acc : List Char) : List Piece → List Segment
  | [] => plainSegment acc.reverse
  | .char c :: r => segments (c :: acc) r
  | .tag slashes inside :: r => plainSegment acc.reverse ++ tagSegments slashes inside ++ segments [] r

def pictures : List (List Char × Char) :=
  [(['1', '0', '0'], Char.ofNat 0x1F4AF), (['1', '2', '3', '4'], Char.ofNat 0x1F522)]

def shortCode? (cs : List Char) : Option (List Char) :=
  let code := cs.takeWhile fun c => c != ':' && !Text.isBlank c
  if (cs.drop code.length).head? == some ':' then some code else none

def splitVariant (code : List Char) : List Char × List Char :=
  let textual := "-text".toList
  let pictorial := "-emoji".toList
  if textual.isSuffixOf code then (code.take (code.length - textual.length), ['\ufe0e'])
  else if pictorial.isSuffixOf code then (code.take (code.length - pictorial.length), ['\ufe0f'])
  else (code, [])

def picture (code : List Char) : List Char :=
  let (name, variant) := splitVariant code
  match pictures.lookup name with
  | some c => c :: variant
  | none => ':' :: (code ++ [':'])

/-- Replaces short codes; a colon that closes one code opens no other. -/
def picturesFrom : Nat → List Char → List Char
  | _, [] => []
  | skip + 1, _ :: r => picturesFrom skip r
  | 0, ':' :: r =>
    match shortCode? r with
    | some code => picture code ++ picturesFrom (code.length + 1) r
    | none => ':' :: picturesFrom 0 r
  | 0, c :: r => c :: picturesFrom 0 r

def dropBracketEscapes : List Char → List Char
  | '\\' :: '[' :: r => '[' :: dropBracketEscapes r
  | c :: r => c :: dropBracketEscapes r
  | [] => []

def isControl (c : Char) : Bool :=
  c == '\x07' || c == '\x08' || c == '\x0b' || c == '\x0c' || c == '\r'

def plainText (cs : List Char) : List Char :=
  (picturesFrom 0 (dropBracketEscapes cs)).filter fun c => !isControl c

structure OpenTag where
  name : String
  parameters : List Char
deriving DecidableEq, Repr

def isActionChar (c : Char) : Bool := Text.isAlphanumeric c || c == '_' || c == '.'

/-- The values that the parameters of an action give: those in the brackets after the name of what
handles it, or all of them if no such name stands there. -/
def actionValues (parameters : List Char) : List Char :=
  match parameters.dropWhile isActionChar with
  | [] => "()".toList
  | '(' :: r => if r.getLast? == some ')' && !r.contains '\n' then '(' :: r else parameters
  | _ => parameters

def OpenTag.isClosable (t : OpenTag) : Bool :=
  t.name.toList.head? != some '@' || t.parameters.isEmpty ||
    Literal.isLiteral (actionValues (Text.trim t.parameters))

def close (t : OpenTag) (rest : List OpenTag) : Except MarkupFault (List OpenTag) :=
  if t.isClosable then .ok rest else .error .illFormedParameters

def closeInnermost : List OpenTag → Except MarkupFault (List OpenTag)
  | [] => .error .nothingToClose
  | t :: rest => close t rest

def closeNamed (tags : List OpenTag) (name : String) : Except MarkupFault (List OpenTag) :=
  match tags.find? fun t => t.name == name with
  | none => .error .nothingToClose
  | some t => close t (tags.erase t)

def normalForm (name : List Char) : Except MarkupFault String :=
  match Style.normalForm name with
  | .ok s => .ok s
  | .error e => .error (.style e)

def applyTag (tags : List OpenTag) (inside : List Char) : Except MarkupFault (List OpenTag) :=
  let name := inside.takeWhile (· != '=')
  match name with
  | '/' :: r =>
    if (Text.trim r).isEmpty then closeInnermost tags
    else (normalForm (Text.trim r)).bind (closeNamed tags)
  | _ => (normalForm name).map fun n => ⟨n, inside.drop (name.length + 1)⟩ :: tags

def renderFrom (tags : List OpenTag) : List Segment → Except MarkupFault (List Char)
  | [] => .ok []
  | .plain cs :: r => (renderFrom tags r).map (plainText cs ++ ·)
  | .tag inside :: r => (applyTag tags inside).bind fun tags => renderFrom tags r

def render (cs : List Char) : Except MarkupFault (List Char) := renderFrom [] (segments [] (pieces cs))

end Markup
end GroupLint
