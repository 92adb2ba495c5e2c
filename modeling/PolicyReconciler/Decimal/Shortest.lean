namespace PolicyReconciler.Decimal

/-!
# Shortest decimal of a binary number

A binary floating-point number stands for every real number that rounds to it.
This module finds the decimal with the fewest digits among those reals, and of
several with that many digits the one nearest to the number.  All arithmetic is
exact, on natural numbers.
-/

/--
A positive number `mantissa * 2 ^ exponent` of a binary format.

`narrowBelow` holds where the neighbour below is half as far as the one above.
-/
structure Binary where
  mantissa : Nat
  exponent : Int
  narrowBelow : Bool
  deriving Repr, DecidableEq

/-- A decimal `coefficient * 10 ^ scale`. -/
structure Scaled where
  coefficient : Nat
  scale : Int
  deriving Repr, DecidableEq

/-- A fraction of natural numbers. -/
structure Fraction where
  numerator : Nat
  denominator : Nat
  deriving Repr, DecidableEq

/-- Whether a fraction is at most another. -/
def Fraction.le (left right : Fraction) : Bool :=
  left.numerator * right.denominator ≤ right.numerator * left.denominator

/-- Whether a fraction is less than another. -/
def Fraction.lt (left right : Fraction) : Bool :=
  left.numerator * right.denominator < right.numerator * left.denominator

/-- A count of powers of a base, as a fraction. -/
def Fraction.ofPower (count base : Nat) (exponent : Int) : Fraction :=
  if exponent < 0 then
    ⟨count, Nat.pow base exponent.natAbs⟩
  else
    ⟨count * Nat.pow base exponent.natAbs, 1⟩

/-- The value of a decimal number. -/
def Scaled.value (decimal : Scaled) : Fraction :=
  .ofPower decimal.coefficient 10 decimal.scale

/-- The value of a binary number, in units that the bounds around it share. -/
def Binary.value (binary : Binary) : Fraction :=
  .ofPower (4 * binary.mantissa) 2 (binary.exponent - 2)

/-- The greatest real that can round to a binary number. -/
def Binary.upper (binary : Binary) : Fraction :=
  .ofPower (4 * binary.mantissa + 2) 2 (binary.exponent - 2)

/-- The least real that can round to a binary number. -/
def Binary.lower (binary : Binary) : Fraction :=
  .ofPower (4 * binary.mantissa - if binary.narrowBelow then 1 else 2) 2
    (binary.exponent - 2)

/--
Whether a decimal rounds to a binary number; the ends count for an even mantissa.
-/
def Binary.covers (binary : Binary) (decimal : Scaled) : Bool :=
  if binary.mantissa % 2 = 0 then
    binary.lower.le decimal.value && decimal.value.le binary.upper
  else
    binary.lower.lt decimal.value && decimal.value.lt binary.upper

/--
How many of the powers ten, hundred, … up to a number of steps a number reaches.
-/
def powersReached (number : Nat) : Nat → Nat
  | 0 => 0
  | steps + 1 =>
      if number < 10 then 0 else powersReached (number / 10) steps + 1

/-- How many factors of ten are needed to lift a fraction to one or more. -/
def factorsNeeded (fraction : Fraction) : Nat → Nat
  | 0 => 0
  | steps + 1 =>
      if fraction.denominator ≤ fraction.numerator then 0
      else factorsNeeded ⟨fraction.numerator * 10, fraction.denominator⟩ steps + 1

/-- The decimal exponent of the first digit of a fraction. -/
def leadingExponent (fraction : Fraction) : Int :=
  if fraction.denominator ≤ fraction.numerator then
    powersReached (fraction.numerator / fraction.denominator) 400
  else
    -(factorsNeeded fraction 400 : Int)

/-- The neighbour of a value on a decimal grid, not above it. -/
def gridBelow (value : Fraction) (scale : Int) : Nat :=
  if scale < 0 then
    value.numerator * Nat.pow 10 scale.natAbs / value.denominator
  else
    value.numerator / (value.denominator * Nat.pow 10 scale.natAbs)

/--
Whether the point after `below` on a grid is nearer to the value; a tie goes to
even.
-/
def upperIsNearer (value : Fraction) (below : Nat) (scale : Int) : Bool :=
  let middle := Fraction.ofPower (2 * below + 1) 10 scale
  let double : Fraction := ⟨2 * value.numerator, value.denominator⟩
  middle.lt double || (middle.le double && below % 2 == 1)

/--
The best point of one decimal grid that rounds to the number, if there is one.
-/
def Binary.onGrid? (binary : Binary) (scale : Int) : Option Scaled :=
  let below := gridBelow binary.value scale
  let lower : Scaled := ⟨below, scale⟩
  let upper : Scaled := ⟨below + 1, scale⟩
  match binary.covers lower, binary.covers upper with
  | true, true =>
      some (if upperIsNearer binary.value below scale then upper else lower)
  | true, false => some lower
  | false, true => some upper
  | false, false => none

/-- The first decimal number found on finer and finer grids. -/
def Binary.search (binary : Binary) (scale : Int) : Nat → Scaled
  | 0 => ⟨gridBelow binary.value scale, scale⟩
  | grids + 1 =>
      match binary.onGrid? scale with
      | some decimal => decimal
      | none => binary.search (scale - 1) grids

/-- Take the zeros away at the end of a decimal number. -/
def Scaled.strip (decimal : Scaled) : Nat → Scaled
  | 0 => decimal
  | steps + 1 =>
      if decimal.coefficient ≠ 0 ∧ decimal.coefficient % 10 = 0 then
        Scaled.strip ⟨decimal.coefficient / 10, decimal.scale + 1⟩ steps
      else
        decimal

/-- The shortest decimal that rounds to a positive binary number. -/
def Binary.shortest (binary : Binary) : Scaled :=
  (binary.search (leadingExponent binary.value) 17).strip 20

end PolicyReconciler.Decimal
