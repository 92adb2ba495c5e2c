import PolicyReconciler.Decimal.Shortest

namespace PolicyReconciler.Decimal

/-!
# Magnitudes of floating-point numbers

A double-precision number is a sign and a magnitude.  The magnitude is read off
the exponent and the fraction that its bits hold.
-/

/-- What a floating-point number stands for, its sign apart. -/
inductive Magnitude where
  | nothing
  | finite (binary : Binary)
  | infinite
  | undefinedNumber
  deriving Repr, DecidableEq

/-- Decode the fields of a double-precision number. -/
def magnitudeOfBits (bits : Nat) : Magnitude :=
  let exponent : Nat := bits / Nat.pow 2 52 % Nat.pow 2 11
  let fraction : Nat := bits % Nat.pow 2 52
  if exponent = 2047 then
    if fraction = 0 then .infinite else .undefinedNumber
  else if exponent = 0 then
    if fraction = 0 then .nothing else .finite ⟨fraction, -1074, false⟩
  else
    .finite ⟨fraction + Nat.pow 2 52, (exponent : Int) - 1075,
      fraction == 0 && exponent != 1⟩

end PolicyReconciler.Decimal
