/-!
# JSON numbers

A number that is kept, rather than skipped, must fit a binary floating-point number of double
precision. Its digits are first gathered into a sixty-four-bit significand and a decimal exponent:
digits that no longer fit are dropped, those before the point raising the exponent. The value is
then the product of the significand and a power of ten, each rounded to fifty-three bits, and it
must stay below the overflow threshold.
-/

namespace ContractCompiler.Json

set_option autoImplicit false

/-- The largest unsigned number of sixty-four bits. -/
def wordMax : Nat := Nat.pow 2 64 - 1

/-- A natural number rounded to fifty-three significant bits, ties to even. -/
def roundToDouble (n : Nat) : Nat :=
  let excess := n.log2 + 1 - 53
  let unit := Nat.pow 2 excess
  let quotient := n / unit
  let remainder := n % unit
  let up := unit < 2 * remainder || (2 * remainder == unit && quotient % 2 == 1)
  (if up && excess != 0 then quotient + 1 else quotient) * unit

/-- The least value that overflows: halfway between the largest double and the next power of two. -/
def overflowThreshold : Nat := Nat.pow 2 1024 - Nat.pow 2 970

/-- A number taken apart: its significand, its decimal exponent, and whether the sixty-four bits
of the significand are used up. -/
structure Scaled where
  significand : Nat := 0
  exponent : Int := 0
  full : Bool := false

/-- Takes in a digit before the point. -/
def Scaled.whole (s : Scaled) (digit : Nat) : Scaled :=
  if s.full then { s with exponent := s.exponent + 1 }
  else if wordMax < s.significand * 10 + digit then
    { s with exponent := s.exponent + 1, full := true }
  else { s with significand := s.significand * 10 + digit }

/-- Takes in a digit after the point. -/
def Scaled.fraction (s : Scaled) (digit : Nat) : Scaled :=
  if s.full then s
  else if wordMax < s.significand * 10 + digit then { s with full := true }
  else { s with significand := s.significand * 10 + digit, exponent := s.exponent - 1 }

/-- The value of a digit. -/
def digitValue (c : Char) : Nat := c.toNat - '0'.toNat

/-- The number that a list of digits spells. -/
def digitsValue (digits : List Char) : Nat :=
  digits.foldl (fun value c => value * 10 + digitValue c) 0

/-- The decimal exponent written after the exponent mark. -/
def exponentValue : List Char → Int
  | '+' :: digits => digitsValue digits
  | '-' :: digits => -(digitsValue digits : Int)
  | digits => digitsValue digits

/-- Takes apart the spelling of a number. -/
def Scaled.ofLiteral (literal : List Char) : Scaled :=
  let unsigned := if literal.head? = some '-' then literal.tail else literal
  let whole := unsigned.takeWhile Char.isDigit
  let afterWhole := unsigned.dropWhile Char.isDigit
  let scaled := whole.foldl (fun s c => s.whole (digitValue c)) ({} : Scaled)
  let (scaled, tail) :=
    match afterWhole with
    | '.' :: rest =>
        let opened := { scaled with full := false }
        ((rest.takeWhile Char.isDigit).foldl (fun s c => s.fraction (digitValue c)) opened,
          rest.dropWhile Char.isDigit)
    | rest => (scaled, rest)
  match tail with
  | [] => scaled
  | _ :: rest => { scaled with exponent := scaled.exponent + exponentValue rest }

/-- Whether a value stays below the overflow threshold. -/
def Scaled.inRange (s : Scaled) : Bool :=
  s.significand == 0 || s.exponent < 0 ||
    (s.exponent ≤ 308 &&
      roundToDouble s.significand * roundToDouble (Nat.pow 10 s.exponent.toNat) < overflowThreshold)

/-- Whether a number fits a double. -/
def inRange (literal : String) : Bool :=
  (Scaled.ofLiteral literal.toList).inRange

/-- The value of a number without sign, point or exponent that fits sixty-four bits. -/
def count? (literal : String) : Option Nat :=
  if literal.toList.all Char.isDigit && digitsValue literal.toList ≤ wordMax then
    some (digitsValue literal.toList)
  else none

end ContractCompiler.Json
