import ProfileShell.Decimal.Shortest

/-!
# Numbers in plain scalars

A plain scalar where something else is expected is reported with the type it
looks like.  These readers decide which plain scalars look like numbers.
-/

namespace ProfileShell.Config.Number

def digitValue? (base : Nat) (character : Char) : Option Nat :=
  let code := character.toNat
  let value? :=
    if 0x30 ≤ code ∧ code ≤ 0x39 then some (code - 0x30)
    else if 0x41 ≤ code ∧ code ≤ 0x46 then some (code - 0x37)
    else if 0x61 ≤ code ∧ code ≤ 0x66 then some (code - 0x57)
    else none
  value?.filter (· < base)

/-- A number written in a base, with at least one digit and nothing else. -/
def natural? (base : Nat) (digits : List Char) : Option Nat :=
  if digits.isEmpty then none
  else digits.foldlM
    (fun value character => (digitValue? base character).map (value * base + ·)) 0

/-- The bases with a mark of their own after a leading zero. -/
def markedBase? : Char → Option Nat
  | 'x' => some 16
  | 'o' => some 8
  | 'b' => some 2
  | _ => none

/-- A leading zero before more digits makes the scalar a text. -/
def isPaddedDigits (characters : List Char) : Bool :=
  let digits := match characters with
    | '-' :: rest | '+' :: rest => rest
    | _ => characters
  digits.length > 1 && digits.head? == some '0' && digits.all Char.isDigit

/-- A number without a minus sign below a bound. -/
def unsigned? (bound : Nat) (characters : List Char) : Option Nat :=
  let digits := match characters with
    | '+' :: rest => rest
    | _ => characters
  let marked? := match digits with
    | '0' :: mark :: rest => (markedBase? mark).bind (natural? · rest)
    | _ => none
  match marked?.filter (· < bound) with
  | some value => some value
  | none =>
    if isPaddedDigits characters then none else (natural? 10 digits).filter (· < bound)

/-- A number with a minus sign down to the negative of a bound. -/
def negative? (bound : Nat) (characters : List Char) : Option Nat :=
  match characters with
  | '-' :: digits =>
    let marked? := match digits with
      | '0' :: mark :: rest => (markedBase? mark).bind (natural? · rest)
      | _ => none
    match marked?.filter (· ≤ bound) with
    | some value => some value
    | none =>
      if isPaddedDigits characters then none
      else (natural? 10 digits).filter (· ≤ bound)
  | _ => none

/-- A decimal fraction with an optional exponent: its digits as one number and
the power of ten to scale it by. -/
def decimal? (characters : List Char) : Option (Nat × Int) :=
  let whole := characters.takeWhile Char.isDigit
  let afterWhole := characters.dropWhile Char.isDigit
  let (part, afterPart) := match afterWhole with
    | '.' :: rest => (rest.takeWhile Char.isDigit, rest.dropWhile Char.isDigit)
    | _ => ([], afterWhole)
  let exponent? : Option Int := match afterPart with
    | [] => some 0
    | mark :: rest =>
      if mark = 'e' ∨ mark = 'E' then
        match rest with
        | '-' :: digits => (natural? 10 digits).map fun value => -(value : Int)
        | '+' :: digits => (natural? 10 digits).map Int.ofNat
        | digits => (natural? 10 digits).map Int.ofNat
      else none
  if whole.isEmpty ∧ part.isEmpty then none
  else do
    let exponent ← exponent?
    let value ← natural? 10 (whole ++ part)
    some (value, exponent - part.length)

/-- The text of the double nearest to a decimal, if it is in range.  Exponents
beyond the range of every double are settled without computing the power. -/
def nearestText? (value : Nat) (exponent : Int) : Option (List Char) :=
  let magnitude : Int := (Nat.toDigits 10 value).length + exponent
  if value = 0 ∨ magnitude < -330 then some ['0', '.', '0']
  else if magnitude > 310 then none
  else
    let binary? := match exponent with
      | .ofNat up => Decimal.Binary.nearest? (value * Nat.pow 10 up) 1
      | .negSucc down => Decimal.Binary.nearest? value (Nat.pow 10 (down + 1))
    binary?.map Decimal.Binary.text

/-- The text of the floating-point number that a scalar looks like. -/
def floating? (scalar : String) : Option String :=
  let signed? : Option (Bool × List Char) := match scalar.toList with
    | '+' :: '+' :: _ | '+' :: '-' :: _ => none
    | '+' :: rest => some (false, rest)
    | '-' :: rest => some (true, rest)
    | rest => some (false, rest)
  if [".inf", ".Inf", ".INF", "+.inf", "+.Inf", "+.INF"].contains scalar then
    some "inf"
  else if ["-.inf", "-.Inf", "-.INF"].contains scalar then some "-inf"
  else if [".nan", ".NaN", ".NAN"].contains scalar then some "NaN"
  else do
    let (minus, rest) ← signed?
    let (value, exponent) ← decimal? rest
    let text ← nearestText? value exponent
    some (String.ofList (if minus then '-' :: text else text))

end ProfileShell.Config.Number
