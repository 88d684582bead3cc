/-!
Sets of code points, given as ranges.
-/
namespace GroupLint.Text

abbrev Ranges := List (Nat × Nat)

def Ranges.holds (rs : Ranges) (c : Char) : Bool := rs.any fun (lo, hi) => lo ≤ c.toNat && c.toNat ≤ hi

end GroupLint.Text
