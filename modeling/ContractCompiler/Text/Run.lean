/-!
# Runs of code points

The character properties and case mappings of this library are tables over the code points of the
Unicode character database. Most of them are short arithmetic progressions: a block of capital
letters, or every second code point of a block in which capital and small letters alternate. A
`Run` is such a progression and a `Shift` moves each of its members by the same distance.
-/

namespace ContractCompiler.Text

set_option autoImplicit false

/-- The code points `first`, `first + stride`, … up to `last`. -/
structure Run where
  first : Nat
  last : Nat
  stride : Nat

/-- Whether `code` belongs to the run. -/
def Run.contains (run : Run) (code : Nat) : Bool :=
  run.first ≤ code && code ≤ run.last && (code - run.first) % run.stride == 0

/-- Whether some run of the table holds the character. -/
def inRuns (table : List Run) (c : Char) : Bool :=
  table.any (·.contains c.toNat)

/-- A run whose members are all moved by `distance`. -/
structure Shift where
  run : Run
  distance : Int

/-- The character that the table moves `c` to, if the table mentions `c`. -/
def shifted? (table : List Shift) (c : Char) : Option Char :=
  (table.find? (·.run.contains c.toNat)).map fun shift =>
    Char.ofNat (Int.toNat (c.toNat + shift.distance))

end ContractCompiler.Text
