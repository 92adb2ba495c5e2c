namespace PolicyReconciler

/-!
# Time

Points in time and lengths of time are measured in seconds on one scale.  The
reconciler needs few operations on them, so that the same definitions run on
floating-point seconds and can be reasoned about on exact ones.
-/

/-- The operations on seconds that the reconciler needs. -/
class TimeScale (Time : Type) where
  /-- The time from the second point to the first. -/
  since : Time → Time → Time
  /-- The interval between calls made at a rate. -/
  interval : Time → Time
  less : Time → Time → Bool
  /-- Whether a rate is zero, so that it has no interval. -/
  isZero : Time → Bool
  /-- A power of two. -/
  powerOfTwo : Int → Time

/-- Seconds as double-precision numbers. -/
instance : TimeScale Float where
  since later earlier := later - earlier
  interval rate := 1.0 / rate
  less left right := left < right
  isZero rate := rate == 0.0
  powerOfTwo exponent := Float.scaleB 1.0 exponent

/-- Seconds as exact fractions. -/
instance : TimeScale Rat where
  since later earlier := later - earlier
  interval rate := 1 / rate
  less left right := left < right
  isZero rate := rate == 0
  powerOfTwo exponent := (2 : Rat) ^ exponent

/-- A requested pause. -/
inductive Pause (Time : Type) where
  | seconds (count : Nat)
  | span (length : Time)
  deriving Repr

end PolicyReconciler
