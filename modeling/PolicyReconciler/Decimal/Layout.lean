import PolicyReconciler.Decimal.Magnitude

namespace PolicyReconciler.Decimal

/-!
# Written form of floating-point numbers

A layout says which numbers are written positionally and how the others show
their exponent.  Two layouts are in use; they differ in the names of the
numbers that are not finite.
-/

/-- The choices of a written form of numbers. -/
structure Layout where
  leastPositional : Int
  greatestPositional : Int
  exponentWidth : Nat
  notANumber : String
  infinity : String
  deriving Repr, DecidableEq

/-- The layout in which numbers are shown. -/
def displayLayout : Layout :=
  ⟨-4, 15, 2, "nan", "inf"⟩

/-- The layout of numbers in documents. -/
def documentLayout : Layout :=
  ⟨-4, 15, 2, "NaN", "Infinity"⟩

/-- The decimal digits of a number, the highest first. -/
def digitsOf (number : Nat) : List Char :=
  Nat.toDigits 10 number

/-- A number with an exponent, such as `1.5e+16`. -/
def Layout.exponential
    (layout : Layout)
    (digits : List Char)
    (exponent : Int) :
    List Char :=
  let mantissa :=
    match digits with
    | lead :: next :: rest => lead :: '.' :: next :: rest
    | short => short
  let shown := digitsOf exponent.natAbs
  let padding := List.replicate (layout.exponentWidth - shown.length) '0'
  mantissa ++ 'e' :: (if exponent < 0 then '-' else '+') :: (padding ++ shown)

/-- A number without an exponent, such as `1500.0` or `0.0015`. -/
def positional (digits : List Char) (exponent : Int) : List Char :=
  if exponent < 0 then
    ['0', '.'] ++ List.replicate (exponent.natAbs - 1) '0' ++ digits
  else
    let whole := exponent.natAbs + 1
    let front := digits.take whole ++ List.replicate (whole - digits.length) '0'
    let back := digits.drop whole
    front ++ '.' :: (if back.isEmpty then ['0'] else back)

/-- Write a decimal number, by position where its exponent allows that. -/
def Layout.write (layout : Layout) (decimal : Scaled) : List Char :=
  let digits := digitsOf decimal.coefficient
  let exponent := decimal.scale + ((digits.length - 1 : Nat) : Int)
  if layout.leastPositional ≤ exponent ∧ exponent ≤ layout.greatestPositional then
    positional digits exponent
  else
    layout.exponential digits exponent

/--
Write a floating-point number as the shortest decimal number that is read as it.
-/
def Layout.float (layout : Layout) (number : Float) : List Char :=
  let bits := number.toBits.toNat
  let sign := if Nat.pow 2 63 ≤ bits then ['-'] else []
  match magnitudeOfBits bits with
  | .nothing => sign ++ ['0', '.', '0']
  | .finite binary => sign ++ layout.write binary.shortest
  | .infinite => sign ++ layout.infinity.toList
  | .undefinedNumber => layout.notANumber.toList

end PolicyReconciler.Decimal
