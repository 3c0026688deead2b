import ApiTools.Number.Binary64

/-!
# Decimal text of numbers

`shortest` finds the fewest decimal digits that read back as the number, and of those the nearest
to it; `DecimalFormat.write` lays such digits out by a record of choices.  `fixed` rounds the exact
binary value to a given number of places.
-/

namespace ApiTools

/-- The decimal digits of a natural number. -/
def natText (n : Nat) : String := String.ofList (Nat.toDigits 10 n)

/-- The decimal digits of an integer, with a sign where it is negative. -/
def intText (i : Int) : String :=
  if i < 0 then "-" ++ natText i.natAbs else natText i.natAbs

namespace Binary64

/-- The reals that round to the finite number `mantissa · 2 ^ scale`, given by four times their
ends in units of `2 ^ scale`: half a unit to each side, or a quarter below a power of two, where
the numbers lie twice as dense. -/
def roundingEnds (mantissa : Nat) (scale : Int) : Nat × Nat :=
  if mantissa = Nat.pow 2 (precision - 1) ∧ minScale < scale then
    (4 * mantissa - 1, 4 * mantissa + 2)
  else (4 * mantissa - 2, 4 * mantissa + 2)

/-- Does the decimal `digits · 10 ^ exponent` round to `mantissa · 2 ^ scale`?  The ends of the
interval round to it when the mantissa is even. -/
def readsBack (mantissa : Nat) (scale : Int) (digits : Nat) (exponent : Int) : Bool :=
  let (low, high) := roundingEnds mantissa scale
  -- Both sides of `digits · 10 ^ exponent` against `end · 2 ^ scale / 4`, without fractions.
  let left := 4 * digits * (if 0 ≤ exponent then Nat.pow 10 exponent.toNat else 1)
    * (if scale < 0 then Nat.pow 2 (-scale).toNat else 1)
  let unit := (if 0 ≤ scale then Nat.pow 2 scale.toNat else 1)
    * (if exponent < 0 then Nat.pow 10 (-exponent).toNat else 1)
  if mantissa % 2 = 0 then low * unit ≤ left && left ≤ high * unit
  else low * unit < left && left < high * unit

/-- The grid point of step `10 ^ exponent` that reads back as the number and is nearest to it; of
two equally near the even one. -/
def nearestOnGrid (mantissa : Nat) (scale : Int) (exponent : Int) : Option Nat :=
  let num := mantissa * (if 0 ≤ scale then Nat.pow 2 scale.toNat else 1)
    * (if exponent < 0 then Nat.pow 10 (-exponent).toNat else 1)
  let den := (if scale < 0 then Nat.pow 2 (-scale).toNat else 1)
    * (if 0 ≤ exponent then Nat.pow 10 exponent.toNat else 1)
  let below := num / den
  let rest := 2 * (num % den)
  let first := if rest < den ∨ rest = den ∧ below % 2 = 0 then below else below + 1
  let second := if first = below then below + 1 else below
  [first, second].find? fun d => d ≠ 0 && readsBack mantissa scale d exponent

/-- The first of the given exponents, tried downwards `count` times, whose grid holds a decimal
that reads back. -/
def shortestFrom (mantissa : Nat) (scale : Int) : Nat → Int → Nat × Int
  | 0, exponent => (mantissa, exponent)
  | count + 1, exponent =>
    match nearestOnGrid mantissa scale exponent with
    | some d => (d, exponent)
    | none => shortestFrom mantissa scale count (exponent - 1)

/-- The fewest digits, with the exponent of the last one, of a decimal that reads back as the
nonzero number `mantissa · 2 ^ scale`.  The search starts at a grid wider than the number and needs
at most 17 digits. -/
def shortest (mantissa : Nat) (scale : Int) : Nat × Int :=
  let (num, den) := fraction mantissa scale
  let top : Int :=
    if den ≤ num then ((Nat.toDigits 10 (num / den)).length : Int)
    else 1 - ((Nat.toDigits 10 (den / num)).length : Int)
  shortestFrom mantissa scale 25 (top + 1)

end Binary64

/-- How a decimal is laid out: positional for a decimal exponent from `leastPositional` up to but
not including `beyondPositional`, scientific elsewhere. -/
structure DecimalFormat where
  /-- The least exponent of the leading digit that is written positionally. -/
  leastPositional : Int
  /-- The first exponent of the leading digit above the positional range. -/
  beyondPositional : Int
  /-- Is a positive exponent written with its sign? -/
  plusSign : Bool
  /-- Does a whole number that is written positionally end in a point and a zero? -/
  pointZero : Bool
  /-- The text of a number without a value. -/
  nanText : String
  /-- The text of positive infinity. -/
  infinityText : String
  /-- The text of negative infinity. -/
  minusInfinityText : String

/-- The digits with a point after the first `whole` of them. -/
def pointed (digits : List Char) (whole : Nat) : List Char :=
  digits.take whole ++ '.' :: digits.drop whole

namespace DecimalFormat

/-- The ending of a whole number that is written positionally. -/
def wholeEnd (format : DecimalFormat) : List Char := if format.pointZero then ['.', '0'] else []

/-- The positive decimal `digits · 10 ^ exponent`, where the digits do not end in zero. -/
def layOut (format : DecimalFormat) (digits : List Char) (exponent : Int) : List Char :=
  let leading := exponent + digits.length - 1
  if format.leastPositional ≤ leading ∧ leading < format.beyondPositional then
    if 0 ≤ exponent then digits ++ List.replicate exponent.toNat '0' ++ format.wholeEnd
    else if 0 ≤ leading then pointed digits (leading + 1).toNat
    else '0' :: '.' :: List.replicate (-leading - 1).toNat '0' ++ digits
  else
    let significand := if digits.length = 1 then digits else pointed digits 1
    let sign := if format.plusSign ∧ 0 ≤ leading then ['+'] else []
    significand ++ 'e' :: sign ++ (intText leading).toList

/-- The digits without the zeros that end them, and the exponent of the last one that is left. -/
def stripZeros (digits : List Char) (exponent : Int) : List Char × Int :=
  let kept := (digits.reverse.dropWhile (· == '0')).reverse
  (kept, exponent + (digits.length - kept.length : Nat))

/-- The text of a number. -/
def write (format : DecimalFormat) : Binary64 → String
  | .nan => format.nanText
  | .infinite false => format.infinityText
  | .infinite true => format.minusInfinityText
  | .finite negative mantissa scale =>
    let body :=
      if mantissa = 0 then '0' :: format.wholeEnd
      else
        let (digits, exponent) := Binary64.shortest mantissa scale
        let (digits, exponent) := stripZeros (Nat.toDigits 10 digits) exponent
        format.layOut digits exponent
    String.ofList (if negative then '-' :: body else body)

end DecimalFormat

/-- Numbers written out: positional throughout, whole numbers without a point. -/
def plainNumber : DecimalFormat := ⟨-400, 400, false, false, "NaN", "inf", "-inf"⟩

/-- The digits of `n`, filled up with leading zeros to the given length. -/
def paddedDigits (n width : Nat) : List Char :=
  let digits := Nat.toDigits 10 n
  List.replicate (width - digits.length) '0' ++ digits

/-- A natural number of units of `10 ^ -places`, written with a point. -/
def placesText (units places : Nat) : String :=
  let digits := paddedDigits units (places + 1)
  let whole := digits.take (digits.length - places)
  String.ofList (if places = 0 then whole else whole ++ '.' :: digits.drop (digits.length - places))

/-- The number rounded to the given number of decimal places, the exact binary value deciding and
a half going to the even digit. -/
def Binary64.fixed (places : Nat) : Binary64 → String
  | .nan => "NaN"
  | .infinite false => "inf"
  | .infinite true => "-inf"
  | .finite negative mantissa scale =>
    let (num, den) := Binary64.fraction mantissa scale
    let text := placesText (roundQuotient (num * Nat.pow 10 places) den) places
    if negative then "-" ++ text else text

end ApiTools
