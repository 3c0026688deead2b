/-!
# Binary floating-point numbers of 64 bits

A number here is kept by its meaning, `± mantissa · 2 ^ scale`, and every operation is carried out
exactly on integers and rounded once, to the nearest representable number with a half going to the
even mantissa (`Binary64.ofQuotient`).  Addition, multiplication and division are therefore the
correctly rounded ones, and nothing in this library depends on machine arithmetic.
-/

namespace ApiTools

/-- A binary floating-point number of 64 bits.  A finite number is canonical: its mantissa is below
`2 ^ 53`, its scale lies between `-1074` and `971`, and the mantissa is at least `2 ^ 52` unless the
scale is `-1074`.  Zero keeps its sign. -/
inductive Binary64 where
  /-- The number `± mantissa · 2 ^ scale`. -/
  | finite (negative : Bool) (mantissa : Nat) (scale : Int)
  /-- What a value too large for the format becomes. -/
  | infinite (negative : Bool)
  /-- The result of an operation without a value. -/
  | nan
  deriving DecidableEq, Repr, Inhabited

/-- The quotient `num / den` rounded to the nearest integer, a half going to the even one. -/
def roundQuotient (num den : Nat) : Nat :=
  let below := num / den
  let rest := 2 * (num % den)
  if rest < den then below
  else if den < rest then below + 1
  else below + below % 2

namespace Binary64

/-- The least scale of a finite number. -/
def minScale : Int := -1074

/-- The greatest scale of a finite number. -/
def maxScale : Int := 971

/-- The number of bits of a mantissa. -/
def precision : Nat := 53

/-- Zero of the given sign. -/
def zero (negative : Bool) : Binary64 := .finite negative 0 minScale

/-- The fraction `(num, den)` with its value divided by `2 ^ scale`. -/
def unscale (num den : Nat) : Int → Nat × Nat
  | .ofNat k => (num, den * Nat.pow 2 k)
  | .negSucc k => (num * Nat.pow 2 (k + 1), den)

/-- The fraction rounded to a mantissa of the given scale, moved one scale up where rounding
carried it out of the mantissa's range. -/
def ofFractionAt (negative : Bool) (num den : Nat) (scale : Int) : Binary64 :=
  let (n, d) := unscale num den scale
  let m := roundQuotient n d
  let (m, scale) :=
    if m = Nat.pow 2 precision then (Nat.pow 2 (precision - 1), scale + 1) else (m, scale)
  if maxScale < scale then .infinite negative else .finite negative m scale

/-- The number nearest to `± num / den`: the scale is the one at which the integer part of the
quotient has 53 bits, or the least scale where the quotient is too small for that. -/
def ofQuotient (negative : Bool) (num den : Nat) : Binary64 :=
  if num = 0 then zero negative
  else if den = 0 then .infinite negative
  else
    let scale : Int := (num.log2 : Int) - (den.log2 : Int) - precision
    let (n, d) := unscale num den scale
    let scale := if Nat.pow 2 precision ≤ n / d then scale + 1 else scale
    ofFractionAt negative num den (max scale minScale)

/-- The number nearest to a natural number. -/
def ofNat (n : Nat) : Binary64 := ofQuotient false n 1

/-- The number nearest to an integer. -/
def ofInt (i : Int) : Binary64 := ofQuotient (i < 0) i.natAbs 1

/-- The number nearest to `± significand · 10 ^ exponent`.  Exponents at which the answer is
certainly infinite or zero are not computed with. -/
def ofDecimal (negative : Bool) (significand : Nat) (exponent : Int) : Binary64 :=
  if significand = 0 then zero negative
  else if 310 < (significand.log2 : Int) / 4 + exponent then .infinite negative
  else if (significand.log2 : Int) / 3 + 1 + exponent < -330 then zero negative
  else match exponent with
    | .ofNat e => ofQuotient negative (significand * Nat.pow 10 e) 1
    | .negSucc e => ofQuotient negative significand (Nat.pow 10 (e + 1))

/-- The exact value of `mantissa · 2 ^ scale` as a fraction. -/
def fraction (mantissa : Nat) : Int → Nat × Nat
  | .ofNat k => (mantissa * Nat.pow 2 k, 1)
  | .negSucc k => (mantissa, Nat.pow 2 (k + 1))

/-- Is it neither infinite nor without a value? -/
def isFinite : Binary64 → Bool
  | .finite .. => true
  | _ => false

/-- Is it zero, of either sign? -/
def isZero : Binary64 → Bool
  | .finite _ m _ => m = 0
  | _ => false

/-- The number of the other sign. -/
def neg : Binary64 → Binary64
  | .finite s m q => .finite (!s) m q
  | .infinite s => .infinite (!s)
  | .nan => .nan

/-- The integer of the given sign and absolute value. -/
def signed (negative : Bool) (magnitude : Nat) : Int :=
  if negative then -(magnitude : Int) else magnitude

/-- The rounded sum.  A sum that cancels is positive zero unless both terms are negative. -/
def add : Binary64 → Binary64 → Binary64
  | .nan, _ => .nan
  | _, .nan => .nan
  | .infinite s, .infinite t => if s = t then .infinite s else .nan
  | .infinite s, _ => .infinite s
  | _, .infinite t => .infinite t
  | .finite s m q, .finite t n r =>
    let low := min q r
    let sum := signed s (m * Nat.pow 2 (q - low).toNat) + signed t (n * Nat.pow 2 (r - low).toNat)
    if sum = 0 then zero (s && t)
    else
      let (num, den) := fraction sum.natAbs low
      ofQuotient (sum < 0) num den

/-- The rounded difference. -/
def sub (x y : Binary64) : Binary64 := add x (neg y)

/-- The rounded product. -/
def mul : Binary64 → Binary64 → Binary64
  | .nan, _ => .nan
  | _, .nan => .nan
  | .infinite s, .infinite t => .infinite (s != t)
  | .infinite s, .finite t n _ => if n = 0 then .nan else .infinite (s != t)
  | .finite s m _, .infinite t => if m = 0 then .nan else .infinite (s != t)
  | .finite s m q, .finite t n r =>
    let (num, den) := fraction (m * n) (q + r)
    ofQuotient (s != t) num den

/-- The rounded quotient.  Division by zero is infinite, and has no value for zero by zero. -/
def div : Binary64 → Binary64 → Binary64
  | .nan, _ => .nan
  | _, .nan => .nan
  | .infinite _, .infinite _ => .nan
  | .infinite s, .finite t _ _ => .infinite (s != t)
  | .finite s _ _, .infinite t => zero (s != t)
  | .finite s m q, .finite t n r =>
    if n = 0 then (if m = 0 then .nan else .infinite (s != t))
    else
      let (num, den) := fraction m (q - r)
      ofQuotient (s != t) num (den * n)

instance : Add Binary64 := ⟨add⟩
instance : Sub Binary64 := ⟨sub⟩
instance : Mul Binary64 := ⟨mul⟩
instance : Div Binary64 := ⟨div⟩
instance : Neg Binary64 := ⟨neg⟩

/-- The order of two numbers, where they have one: a number without a value has none, and the two
zeros are equal. -/
def compare? : Binary64 → Binary64 → Option Ordering
  | .nan, _ => none
  | _, .nan => none
  | .infinite s, .infinite t => some (if s = t then .eq else if s then .lt else .gt)
  | .infinite s, _ => some (if s then .lt else .gt)
  | _, .infinite t => some (if t then .gt else .lt)
  | .finite s m q, .finite t n r =>
    let low := min q r
    some (compare (signed s (m * Nat.pow 2 (q - low).toNat))
      (signed t (n * Nat.pow 2 (r - low).toNat)))

/-- Is the first number below the second? -/
def lt (x y : Binary64) : Bool := compare? x y = some .lt

/-- Is the first number at most the second? -/
def le (x y : Binary64) : Bool := compare? x y = some .lt || compare? x y = some .eq

/-- Are the two numbers of equal value?  The two zeros are, and a number without a value equals
nothing. -/
def sameValue (x y : Binary64) : Bool := compare? x y = some .eq

/-- The greater of two numbers; a number without a value yields to the other one. -/
def max (x y : Binary64) : Binary64 :=
  match compare? x y with
  | some .lt => y
  | some _ => x
  | none => if x = .nan then y else x

/-- The integer part of the number, which must not be negative: a negative number and one without
a value give zero, and an infinite one gives the bound. -/
def toNatBounded (bound : Nat) : Binary64 → Nat
  | .nan => 0
  | .infinite s => if s then 0 else bound
  | .finite s m q =>
    if s then 0
    else
      let (num, den) := fraction m q
      min bound (num / den)

end Binary64

end ApiTools
