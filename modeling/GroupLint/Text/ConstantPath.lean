import GroupLint.Text.Lines

/-!
Texts that read like the path of a constant: capitalised names joined by `::`, with an optional
leading `::`.
-/
namespace GroupLint.Text

def isNameChar (c : Char) : Bool := c.isAlphanum || c == '_'

mutual

def startsName : List Char → Bool
  | [] => false
  | c :: r => c.isUpper && restOfPath r

def restOfPath : List Char → Bool
  | [] => true
  | ':' :: ':' :: r => startsName r
  | c :: r => isNameChar c && restOfPath r

end

def isConstantPath : List Char → Bool
  | ':' :: ':' :: r => startsName r
  | cs => startsName cs

def hasConstantLine (cs : List Char) : Bool := (newlineLines cs).any isConstantPath

end GroupLint.Text
