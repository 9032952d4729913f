set_option autoImplicit false

/-!
Numbers as programs know them: 53 bits and a power of two. Written numbers are rounded
to the nearest of these, and a number is written back with the fewest decimal digits
that round to it.

All arithmetic is exact, on whole numbers.
-/

namespace JsxLowering

/-- A positive number in decimal: its digits, times a power of ten. -/
structure Decimal where
  digits : Nat
  exponent : Int
  deriving DecidableEq

/-- A number with at most 53 significant bits: `bits` times two to the power of `exponent`. -/
structure Double where
  bits : Nat
  exponent : Int
  deriving DecidableEq

def twoPow (n : Nat) : Nat := Nat.pow 2 n

def tenPow (n : Nat) : Nat := Nat.pow 10 n

/-- The quotient rounded to the nearest whole number; a half goes to the even neighbour. -/
def roundQuotient (numerator denominator : Nat) : Nat :=
  let below := numerator / denominator
  let rest := 2 * (numerator % denominator)
  if rest < denominator then below
  else if denominator < rest then below + 1
  else if below % 2 = 0 then below
  else below + 1

namespace Double

def precision : Nat := 53

def leastExponent : Int := -1074

def limit : Nat := twoPow 1024

def magnitude (numerator denominator : Nat) : Int :=
  let guess : Int := (Nat.log2 numerator : Int) - (Nat.log2 denominator : Int)
  if numerator * twoPow (-guess).toNat < denominator * twoPow guess.toNat then guess - 1
  else guess

def nearest (numerator denominator : Nat) : Double :=
  if numerator = 0 then ⟨0, 0⟩
  else
    let exponent := max (magnitude numerator denominator - (precision - 1 : Nat)) leastExponent
    let bits := roundQuotient (numerator * twoPow (-exponent).toNat)
      (denominator * twoPow exponent.toNat)
    ⟨bits, exponent⟩

def whole? (value : Double) : Option Nat :=
  let scaled := value.bits * twoPow value.exponent.toNat
  let divisor := twoPow (-value.exponent).toNat
  if scaled % divisor = 0 then some (scaled / divisor) else none

/-- A whole number rounded to the nearest number there is. What is too large becomes the
limit. -/
def roundWhole (value : Nat) : Nat :=
  if value < twoPow precision then value
  else min ((nearest value 1).whole?.getD 0) limit

/-- The number nearest to a decimal. Far beyond the largest and below the smallest number
the digits do not matter. -/
def ofDecimal (value : Decimal) : Double :=
  let magnitude := ((toString value.digits).length : Int) + value.exponent
  if value.digits = 0 || magnitude < -400 then ⟨0, 0⟩
  else if 400 < magnitude then ⟨limit, 0⟩
  else nearest (value.digits * tenPow value.exponent.toNat) (tenPow (-value.exponent).toNat)

def compareQuarters (value : Double) (quarters : Nat) (decimal : Decimal) : Ordering :=
  let unit := value.exponent - 2
  compare (decimal.digits * tenPow decimal.exponent.toNat * twoPow (-unit).toNat)
    (quarters * twoPow unit.toNat * tenPow (-decimal.exponent).toNat)

/-- Whether a decimal rounds to a number: it lies between the middles to its neighbours. A
middle itself goes to the even neighbour. -/
def roundsTo (value : Double) (decimal : Decimal) : Bool :=
  let narrow := value.bits = twoPow (precision - 1) && leastExponent < value.exponent
  let low := value.compareQuarters (4 * value.bits - (if narrow then 1 else 2)) decimal
  let high := value.compareQuarters (4 * value.bits + 2) decimal
  let even := value.bits % 2 = 0
  (low = .gt || (even && low = .eq)) && (high = .lt || (even && high = .eq))

def floorAt (value : Double) (exponent : Int) : Nat :=
  value.bits * twoPow value.exponent.toNat * tenPow (-exponent).toNat /
    (twoPow (-value.exponent).toNat * tenPow exponent.toNat)

/-- Whether the upper of two neighbouring decimals is nearer; of two as near, the even one. -/
def prefersUpper (value : Double) (exponent : Int) (below : Nat) : Bool :=
  match value.compareQuarters (8 * value.bits) ⟨2 * below + 1, exponent⟩ with
  | .lt => true
  | .eq => below % 2 = 1
  | .gt => false

def decimalAt? (value : Double) (exponent : Int) : Option Decimal :=
  let below := value.floorAt exponent
  let lower : Decimal := ⟨below, exponent⟩
  let upper : Decimal := ⟨below + 1, exponent⟩
  match value.roundsTo lower && below ≠ 0, value.roundsTo upper with
  | true, true => some (if value.prefersUpper exponent below then upper else lower)
  | true, false => some lower
  | false, true => some upper
  | false, false => none

def decimalMagnitude (value : Double) : Int :=
  let ones := value.floorAt 0
  if ones ≠ 0 then (toString ones).length
  else
    let places := ((List.range 400).find? fun n => value.floorAt (-(n + 1 : Nat)) ≠ 0).getD 0
    0 - (places : Int)

def shortest (value : Double) : Decimal :=
  let magnitude := value.decimalMagnitude
  ((List.range 17).findSome? fun digits =>
    value.decimalAt? (magnitude - (digits + 1 : Nat))).getD ⟨value.floorAt 0, 0⟩

end Double

end JsxLowering
