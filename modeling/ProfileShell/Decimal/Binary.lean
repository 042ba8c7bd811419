/-!
# Binary floating-point numbers

A finite double is an integer below 2^53 times a power of two.  `nearest?` rounds
a fraction to the closest double, to the even one on a tie, and finds none when
the fraction is out of range.
-/

namespace ProfileShell.Decimal

/-- The number `significand * 2 ^ exponent`, as a double holds it. -/
structure Binary where
  significand : Nat
  exponent : Int
  deriving DecidableEq, Repr

namespace Binary

/-- The exponent of the smallest doubles. -/
def leastExponent : Int := -1074

/-- The exponent of the largest doubles. -/
def greatestExponent : Int := 971

/-- `numerator / denominator * 2 ^ (-exponent)` as a fraction. -/
def scaled (numerator denominator : Nat) (exponent : Int) : Nat × Nat :=
  match exponent with
  | .ofNat up => (numerator, denominator * Nat.pow 2 up)
  | .negSucc down => (numerator * Nat.pow 2 (down + 1), denominator)

/-- A fraction rounded to the nearest integer, to the even one on a tie. -/
def roundHalfEven (numerator denominator : Nat) : Nat :=
  let whole := numerator / denominator
  let twice := 2 * (numerator % denominator)
  if twice < denominator then whole
  else if twice > denominator then whole + 1
  else whole + whole % 2

/-- The double nearest to a positive fraction, or nothing when the fraction lies
beyond the largest double. -/
def nearest? (numerator denominator : Nat) : Option Binary :=
  let guess : Int := (Nat.log2 numerator : Int) - Nat.log2 denominator - 52
  let fits := fun exponent =>
    let (top, bottom) := scaled numerator denominator exponent
    top < Nat.pow 2 53 * bottom
  let exponent := max leastExponent (if fits (guess - 1) then guess - 1 else guess)
  let (top, bottom) := scaled numerator denominator exponent
  let rounded := roundHalfEven top bottom
  let result : Binary :=
    if rounded = Nat.pow 2 53 then ⟨Nat.pow 2 52, exponent + 1⟩ else ⟨rounded, exponent⟩
  if result.exponent > greatestExponent then none else some result

end Binary

end ProfileShell.Decimal
