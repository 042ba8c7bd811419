import ProfileShell.Decimal.Binary

/-!
# The shortest decimal form

Among the decimals that round to a given double, the one with the fewest digits
stands for it, and of two with equally few digits the closer one.  It is written
in positional notation, whatever its size, and always with a decimal point.
-/

namespace ProfileShell.Decimal

/-- The number `digits * 10 ^ exponent`. -/
structure Digits where
  digits : Nat
  exponent : Int
  deriving DecidableEq, Repr

namespace Binary

/-- The fraction `multiple * 2 ^ exponent`. -/
def fraction (multiple : Nat) (exponent : Int) : Nat × Nat :=
  match exponent with
  | .ofNat up => (multiple * Nat.pow 2 up, 1)
  | .negSucc down => (multiple, Nat.pow 2 (down + 1))

/-- A power of ten as a fraction. -/
def powerOfTen : Int → Nat × Nat
  | .ofNat up => (Nat.pow 10 up, 1)
  | .negSucc down => (1, Nat.pow 10 (down + 1))

/-- Whether the decimal rounds to the double.  The bounds of the interval lie
half-way to the neighbours, the lower neighbour of a power of two being half as
far as the upper one.  They belong to it when the significand is even. -/
def rounds (number : Binary) (decimal : Digits) : Bool :=
  let (low, high) :=
    if number.significand = Nat.pow 2 52 ∧ number.exponent > leastExponent then
      (4 * number.significand - 1, 4 * number.significand + 2)
    else (4 * number.significand - 2, 4 * number.significand + 2)
  let (lowTop, bottom) := fraction low (number.exponent - 2)
  let (highTop, _) := fraction high (number.exponent - 2)
  let (tenTop, tenBottom) := powerOfTen decimal.exponent
  let value := decimal.digits * tenTop * bottom
  if number.significand % 2 = 0 then
    lowTop * tenBottom ≤ value && value ≤ highTop * tenBottom
  else lowTop * tenBottom < value && value < highTop * tenBottom

/-- The decimal on the grid of a power of ten that rounds to the double and is
closest to it, if there is one: only the two neighbours of the double on the grid
can be. -/
def onGrid? (number : Binary) (exponent : Int) : Option Digits :=
  let (top, bottom) := fraction number.significand number.exponent
  let (tenTop, tenBottom) := powerOfTen exponent
  let below := top * tenBottom / (bottom * tenTop)
  let twice := 2 * (top * tenBottom % (bottom * tenTop))
  let down : Digits := ⟨below, exponent⟩
  let up : Digits := ⟨below + 1, exponent⟩
  match rounds number down, rounds number up with
  | true, true => some (if twice < bottom * tenTop then down else up)
  | true, false => some down
  | false, true => some up
  | false, false => none

/-- The exponent of the leading decimal digit, never too small. -/
def leadingExponent (number : Binary) : Int :=
  let (top, bottom) := fraction number.significand number.exponent
  if top ≥ bottom then (Nat.toDigits 10 (top / bottom)).length
  else 1 - ((Nat.toDigits 10 (bottom / top)).length : Int)

/-- The shortest decimal that rounds to a positive double.  Nineteen digits
always do. -/
def shortest (number : Binary) : Digits :=
  let leading := number.leadingExponent
  ((List.range 20).findSome? fun (count : Nat) =>
    number.onGrid? (leading - (count : Int))).getD ⟨0, 0⟩

end Binary

namespace Digits

/-- A decimal in positional notation. -/
def positional (decimal : Digits) : List Char :=
  let digits := Nat.toDigits 10 decimal.digits
  match decimal.exponent with
  | .ofNat up => digits ++ List.replicate up '0' ++ ['.', '0']
  | .negSucc down =>
    let places := down + 1
    let padded := List.replicate (places + 1 - digits.length) '0' ++ digits
    let whole := padded.take (padded.length - places)
    let part := padded.drop (padded.length - places)
    let kept := (part.reverse.dropWhile (· == '0')).reverse
    whole ++ '.' :: (if kept.isEmpty then ['0'] else kept)

end Digits

def Binary.text (number : Binary) : List Char :=
  if number.significand = 0 then ['0', '.', '0'] else number.shortest.positional

end ProfileShell.Decimal
