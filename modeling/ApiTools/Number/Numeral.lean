import ApiTools.Number.Binary64
import ApiTools.Text.Case
import ApiTools.Text.Quoted

/-!
# Reading numbers

Digits of a base denote a natural number.  A decimal has digits before or after a point, or on both
sides of it, and may end in an exponent; it is rounded once.
-/

namespace ApiTools.Numeral

/-- The value of a digit of the base. -/
def digit? (base : Nat) (c : Char) : Option Nat :=
  (Text.Quoted.hexValue? c).bind fun d => if d < base then some d else none

/-- The number that one or more digits of the base denote. -/
def digits? (base : Nat) (cs : List Char) : Option Nat :=
  if cs.isEmpty then none else cs.foldlM (fun n c => (digit? base c).map (n * base + ·)) 0

/-- The spelling without one plus sign in front. -/
def withoutPlus : List Char → List Char
  | '+' :: rest => rest
  | cs => cs

/-- The digits at the beginning, and what follows them. -/
def spanDigits (cs : List Char) : List Char × List Char :=
  (cs.takeWhile fun c => (digit? 10 c).isSome, cs.dropWhile fun c => (digit? 10 c).isSome)

/-- The exponent that ends a decimal. -/
def exponent? (cs : List Char) : Option Int :=
  match cs with
  | [] => some 0
  | c :: rest =>
    if c = 'e' || c = 'E' then
      match rest with
      | '-' :: digits => (digits? 10 digits).map fun n => -(n : Int)
      | _ => (digits? 10 (withoutPlus rest)).map fun n => (n : Int)
    else none

/-- The number that a decimal without a sign denotes. -/
def decimal? (negative : Bool) (cs : List Char) : Option Binary64 :=
  let (whole, rest) := spanDigits cs
  let (fraction, rest) := match rest with
    | '.' :: rest => spanDigits rest
    | _ => ([], rest)
  if whole.isEmpty && fraction.isEmpty then none
  else do
    let exponent ← exponent? rest
    let significand := (digits? 10 (whole ++ fraction)).getD 0
    return Binary64.ofDecimal negative significand (exponent - fraction.length)

/-- The number that a text denotes as a whole: a decimal with or without a sign, or the name of what
is no finite number. -/
def binary? (s : String) : Option Binary64 :=
  let (negative, body) := match s.toList with
    | '-' :: rest => (true, rest)
    | cs => (false, withoutPlus cs)
  let name := String.ofList (body.map Text.asciiLower)
  if name = "inf" || name = "infinity" then some (.infinite negative)
  else if name = "nan" then some .nan
  else decimal? negative body

/-- The natural number below a bound that a text denotes, with or without a plus sign. -/
def naturalBelow? (bound : Nat) (s : String) : Option Nat :=
  (digits? 10 (withoutPlus s.toList)).bind fun n => if n < bound then some n else none

end ApiTools.Numeral
