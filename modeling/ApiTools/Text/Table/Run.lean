/-!
# Runs of code points

A property of characters is a list of runs.  A run is an arithmetic progression, because the letters
of many alphabets alternate between upper and lower case.
-/

namespace ApiTools.Text.Table

/-- The code points `first`, `first + step`, … up to `last`. -/
structure Run where
  /-- The first code point. -/
  first : Nat
  /-- The last code point. -/
  last : Nat
  /-- The distance between neighbours. -/
  step : Nat

/-- Does the code point belong to the run? -/
def Run.has (run : Run) (code : Nat) : Bool :=
  run.first ≤ code && code ≤ run.last && (code - run.first) % run.step == 0

/-- Does the code point belong to one of the runs? -/
def inRuns (runs : List Run) (code : Nat) : Bool := runs.any (·.has code)

/-- A run of characters that a map moves by one distance. -/
structure Shift where
  /-- The characters that are moved. -/
  run : Run
  /-- How far they are moved. -/
  offset : Int

/-- The image of a code point under the first shift that moves it. -/
def shifted? (shifts : List Shift) (code : Nat) : Option Nat :=
  (shifts.find? (·.run.has code)).map fun s => ((code : Int) + s.offset).toNat

end ApiTools.Text.Table
