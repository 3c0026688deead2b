/-!
# Totals
-/

namespace ApiTools

/-- The sum of the counts. -/
def total (counts : List Nat) : Nat := counts.foldr (· + ·) 0

end ApiTools
