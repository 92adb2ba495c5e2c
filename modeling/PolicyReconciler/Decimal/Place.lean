import PolicyReconciler.Decimal.Magnitude

namespace PolicyReconciler.Decimal

/-!
# Places on the number line

Every finite double-precision number is a whole multiple of the least positive
one.  Measured in that unit, floating-point numbers and whole numbers of any
size have exact places on one line, so comparing them rounds nothing.
-/

/--
The place of a number, in multiples of the least positive double-precision number.
-/
inductive Place where
  | negativeInfinity
  | finite (units : Int)
  | positiveInfinity
  deriving Repr, DecidableEq

namespace Place

/--
The least positive double-precision number is two to the power of minus this number.
-/
def depth : Nat := 1074

/-- The place of one, in units. -/
def unitsOfOne : Nat := Nat.pow 2 depth

/-- The place of a whole number. -/
def ofInt (number : Int) : Place :=
  .finite (number * unitsOfOne)

/-- The units of a finite magnitude, whose exponent is at least that of the unit. -/
def unitsOf (binary : Binary) : Nat :=
  binary.mantissa * Nat.pow 2 (binary.exponent + depth).toNat

/-- The place of a floating-point number, which an undefined number lacks. -/
def ofFloat? (number : Float) : Option Place :=
  let bits := number.toBits.toNat
  let negative : Bool := Nat.pow 2 63 ≤ bits
  match magnitudeOfBits bits with
  | .nothing => some (.finite 0)
  | .finite binary =>
      some (.finite (if negative then -(unitsOf binary : Int) else unitsOf binary))
  | .infinite => some (if negative then .negativeInfinity else .positiveInfinity)
  | .undefinedNumber => none

/-- Whether a place comes before another. -/
def before : Place → Place → Bool
  | _, .negativeInfinity => false
  | .negativeInfinity, _ => true
  | .positiveInfinity, _ => false
  | .finite _, .positiveInfinity => true
  | .finite left, .finite right => left < right

/-- The number one is some positive count of units. -/
theorem unitsOfOne_pos : 0 < unitsOfOne := by
  unfold unitsOfOne
  generalize depth = exponent
  exact Nat.two_pow_pos exponent

/-- Whole numbers at the same place are the same. -/
theorem ofInt_injective
    {left right : Int}
    (same : ofInt left = ofInt right) :
    left = right := by
  have units : left * (unitsOfOne : Int) = right * (unitsOfOne : Int) := by
    simpa only [ofInt, Place.finite.injEq] using same
  have positive : (unitsOfOne : Int) ≠ 0 :=
    Int.natCast_ne_zero.mpr (Nat.ne_of_gt unitsOfOne_pos)
  exact Int.eq_of_mul_eq_mul_right positive units

/-- Whole numbers have their places in their own order. -/
theorem before_ofInt (left right : Int) :
    (ofInt left).before (ofInt right) = decide (left < right) := by
  have positive : (0 : Int) < unitsOfOne := Int.natCast_pos.mpr unitsOfOne_pos
  rw [ofInt, ofInt, before, decide_eq_decide]
  exact ⟨fun less => Int.lt_of_mul_lt_mul_right less (Int.le_of_lt positive),
    fun less => Int.mul_lt_mul_of_pos_right less positive⟩

end Place

end PolicyReconciler.Decimal
