import ApiTools.Number.Binary64

/-!
# Durations

A duration is a whole number of nanoseconds.  One that is given in seconds is rounded once, to the
nearest nanosecond.
-/

namespace ApiTools

/-- A length of time. -/
structure Duration where
  nanoseconds : Nat
  deriving DecidableEq, Repr

namespace Duration

/-- No time at all. -/
def zero : Duration := ⟨0⟩

/-- The number of nanoseconds in a second. -/
def perSecond : Nat := 1000000000

/-- The number of seconds from which on nothing counts as a duration. -/
def secondsBound : Nat := Nat.pow 2 64

/-- The duration of a number of seconds, a half of a nanosecond going to the even one.  There is
none for a negative number, for `secondsBound` and more, or where there is no number. -/
def ofSeconds? : Binary64 → Option Duration
  | .finite negative mantissa scale =>
    let (num, den) := Binary64.fraction mantissa scale
    if mantissa = 0 then some zero
    else if negative || secondsBound * den ≤ num then none
    else some ⟨roundQuotient (num * perSecond) den⟩
  | _ => none

/-- The duration as a number of seconds: the whole seconds and the rest, each rounded. -/
def seconds (duration : Duration) : Binary64 :=
  Binary64.ofNat (duration.nanoseconds / perSecond)
    + Binary64.ofNat (duration.nanoseconds % perSecond) / Binary64.ofNat perSecond

end Duration

end ApiTools
