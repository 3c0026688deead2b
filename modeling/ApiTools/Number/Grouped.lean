import ApiTools.Number.Decimal

/-!
# Digits in groups of three

A long number is easier to read with a comma before every third digit, counted from its end.
-/

namespace ApiTools

/-- The digits with a comma wherever a multiple of three of them is still to come. -/
def groupDigits : List Char → List Char
  | [] => []
  | [digit] => [digit]
  | digit :: next :: rest =>
    if (rest.length + 1) % 3 = 0 then digit :: ',' :: groupDigits (next :: rest)
    else digit :: groupDigits (next :: rest)

/-- The decimal digits of a number in groups of three. -/
def groupedText (n : Nat) : String := String.ofList (groupDigits (Nat.toDigits 10 n))

end ApiTools
