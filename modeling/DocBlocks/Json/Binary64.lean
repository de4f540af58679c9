/-
This file defines binary floating-point numbers of 64 bits, reads them from decimal digits, and
finds the fewest decimal digits that stand for a given one.
-/

namespace DocBlocks.Json

/-- The finite number `significand * 2 ^ exponent`, with its sign. -/
structure Binary64 where
  negative : Bool
  significand : Nat
  exponent : Int
deriving DecidableEq, Repr

namespace Binary64

/-- The nearest whole number to a quotient, the even one of two equally near. -/
def roundQuotient (numerator denominator : Nat) : Nat :=
  let quotient := numerator / denominator
  let twice := 2 * (numerator % denominator)
  if twice < denominator then quotient
  else if denominator < twice then quotient + 1
  else if quotient % 2 == 0 then quotient
  else quotient + 1

/-- The numerator and denominator of `factor * base ^ exponent`. -/
def ratio (factor base : Nat) (exponent : Int) : Nat × Nat :=
  match exponent with
  | .ofNat power => (factor * Nat.pow base power, 1)
  | .negSucc power => (factor, Nat.pow base (power + 1))

/-- Divides a quotient further by `2 ^ exponent`. -/
def scaled (numerator denominator : Nat) (exponent : Int) : Nat × Nat :=
  match exponent with
  | .ofNat power => (numerator, denominator * Nat.pow 2 power)
  | .negSucc power => (numerator * Nat.pow 2 (power + 1), denominator)

/-- The significand and exponent nearest to a positive quotient. -/
def nearest (numerator denominator : Nat) : Nat × Int :=
  let magnitude : Int := (Nat.log2 numerator : Int) - (Nat.log2 denominator : Int)
  let low := max (magnitude - 53) (-1074)
  let (lowNumerator, lowDenominator) := scaled numerator denominator low
  let exponent := if lowNumerator / lowDenominator < Nat.pow 2 53 then low else low + 1
  let (exactNumerator, exactDenominator) := scaled numerator denominator exponent
  let significand := roundQuotient exactNumerator exactDenominator
  if significand == Nat.pow 2 53 then (Nat.pow 2 52, exponent + 1) else (significand, exponent)

/-- The number nearest to a quotient, unless it is too large. -/
def ofQuotient? (negative : Bool) (numerator denominator : Nat) : Option Binary64 :=
  if numerator == 0 then some ⟨negative, 0, 0⟩
  else
    let (significand, power) := nearest numerator denominator
    if 971 < power then none
    else if significand == 0 then some ⟨negative, 0, 0⟩
    else some ⟨negative, significand, power⟩

/-- The number nearest to `digits * 10 ^ exponent`, unless it is too large. -/
def ofDecimal? (negative : Bool) (digits : Nat) (exponent : Int) : Option Binary64 :=
  let size := (Nat.toDigits 10 digits).length + exponent
  if digits == 0 || size < -400 then some ⟨negative, 0, 0⟩
  else if 400 < size then none
  else
    let (numerator, denominator) := ratio digits 10 exponent
    ofQuotient? negative numerator denominator

/-- The product with the power of ten that is nearest to the true one, rounded again. -/
def timesPower? (value : Binary64) (power : Nat) : Option Binary64 := do
  let ten ← ofQuotient? false (Nat.pow 10 power) 1
  let (numerator, denominator) := ratio value.significand 2 value.exponent
  let (tenNumerator, tenDenominator) := ratio ten.significand 2 ten.exponent
  ofQuotient? value.negative (numerator * tenNumerator) (denominator * tenDenominator)

/-- The quotient by the power of ten that is nearest to the true one, rounded again. -/
def overPower? (value : Binary64) (power : Nat) : Option Binary64 := do
  let ten ← ofQuotient? false (Nat.pow 10 power) 1
  let (numerator, denominator) := ratio value.significand 2 value.exponent
  let (tenNumerator, tenDenominator) := ratio ten.significand 2 ten.exponent
  ofQuotient? value.negative (numerator * tenDenominator) (denominator * tenNumerator)

/-- The greatest power of ten that is a finite number. -/
def greatestPower : Nat := 308

/-- Moves the point of a number. Each step is rounded, so that the result may miss the nearest
number by a little. What is left after all steps is too small. -/
def shifted? : (steps : Nat) → Binary64 → Int → Option Binary64
  | 0, value, _ => some ⟨value.negative, 0, 0⟩
  | steps + 1, value, exponent =>
    if value.significand == 0 then some value
    else if greatestPower < exponent then none
    else if 0 ≤ exponent then value.timesPower? exponent.toNat
    else if -greatestPower ≤ exponent then value.overPower? (-exponent).toNat
    else (value.overPower? greatestPower).bind (shifted? steps · (exponent + greatestPower))

/-- A number from a significand and a power of ten, by rounding the significand and moving its
point. -/
def ofParts? (negative : Bool) (significand : Nat) (exponent : Int) : Option Binary64 :=
  (ofQuotient? negative significand 1).bind (shifted? 4 · exponent)

/-- The power of ten of the leading digit of a positive quotient, found near an estimate. -/
def leadingPower (numerator denominator : Nat) : Int :=
  let magnitude : Int := (Nat.log2 numerator : Int) - (Nat.log2 denominator : Int)
  let estimate := magnitude * 30103 / 100000
  let reaches (power : Int) : Bool :=
    let (tenNumerator, tenDenominator) := ratio 1 10 power
    tenNumerator * denominator ≤ numerator * tenDenominator
  if reaches (estimate + 2) then estimate + 2
  else if reaches (estimate + 1) then estimate + 1
  else if reaches estimate then estimate
  else if reaches (estimate - 1) then estimate - 1
  else estimate - 2

/-- The decimal with `count` digits that is nearest among those that read back as `value`. -/
def decimalOfLength? (value : Binary64) (count : Nat) : Option (Nat × Int) :=
  let (numerator, denominator) := ratio value.significand 2 value.exponent
  let unit : Int := leadingPower numerator denominator - count + 1
  let (unitNumerator, unitDenominator) := ratio 1 10 unit
  let gridNumerator := numerator * unitDenominator
  let gridDenominator := denominator * unitNumerator
  let below := gridNumerator / gridDenominator
  let readsBack (digits : Nat) : Bool := ofDecimal? value.negative digits unit == some value
  let remainder := gridNumerator % gridDenominator
  let nearer := if 2 * remainder ≤ gridDenominator then [below, below + 1] else [below + 1, below]
  (nearer.find? readsBack).map fun digits =>
    if digits == Nat.pow 10 count then (1, unit + count) else (digits, unit)

/-- The fewest decimal digits that read back as `value`, and their power of ten. -/
def shortest (value : Binary64) : Nat × Int :=
  if value.significand == 0 then (0, 0)
  else
    match (List.range 17).findSome? fun index => decimalOfLength? value (index + 1) with
    | some decimal => decimal
    | none => (0, 0)

end Binary64

end DocBlocks.Json
