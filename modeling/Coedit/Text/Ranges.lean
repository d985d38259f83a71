/-!
# Character ranges

Sets of characters given by inclusive ranges of code points, as the tables of the Unicode
properties are.
-/

namespace Coedit.Text

abbrev Ranges := List (Nat × Nat)

def Ranges.has (r : Ranges) (c : Char) : Bool :=
  r.any fun (lo, hi) => lo ≤ c.toNat && c.toNat ≤ hi

end Coedit.Text
