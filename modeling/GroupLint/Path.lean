/-!
Paths as they are written: leading slashes and names. Empty names and single dots are dropped, two
dots are kept.
-/
namespace GroupLint

structure Path where
  /-- Zero for a relative path; two leading slashes differ from one. -/
  slashes : Nat
  names : List String
deriving DecidableEq, Repr, Inhabited

namespace Path

def leadingSlashes (s : String) : Nat := (s.toList.takeWhile (· == '/')).length

def ofString (s : String) : Path :=
  let n := leadingSlashes s
  ⟨if n = 0 then 0 else if n = 2 then 2 else 1, (s.splitOn "/").filter fun x => x != "" && x != "."⟩

def posix (names : List String) : String := "/".intercalate names

def toString (p : Path) : String :=
  if p.slashes = 0 && p.names.isEmpty then "."
  else String.ofList (List.replicate p.slashes '/') ++ posix p.names

def hasNull (p : Path) : Bool := p.names.any fun n => n.toList.contains '\x00'

def append (p : Path) (names : List String) : Path := ⟨p.slashes, p.names ++ names⟩

def ofLocation (names : List String) : Path := ⟨1, names⟩

end Path

def namesLE : List String → List String → Bool
  | [], _ => true
  | _ :: _, [] => false
  | a :: r, b :: s => if a = b then namesLE r s else a < b

end GroupLint
