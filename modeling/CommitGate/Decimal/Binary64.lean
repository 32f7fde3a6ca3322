/-!
# Double precision numbers

The finite numbers of 64-bit binary floating point, held exactly as a sign, a significand and a
power of two, with rounding to nearest (ties to even) as one function on fractions. Arithmetic is
the exact result, rounded once.

A number stands in its normal form: the significand is below `2 ^ 53`, and it is at least `2 ^ 52`
unless the power of two is the least one, `-1074`.
-/

namespace CommitGate.Decimal

/-- A finite number of double precision: `significand * 2 ^ exponent`, with a sign that zero has
too. -/
structure Binary64 where
  /-- Whether the number carries a minus sign. -/
  negative : Bool
  significand : Nat
  exponent : Int
deriving DecidableEq, Repr

/-- A power of a base. A negative exponent counts as zero. -/
def power (base : Nat) (e : Int) : Nat := Nat.pow base e.toNat

/-- A fraction scaled down by a power of two, again as a fraction. -/
def scaleDown (num den : Nat) (e : Int) : Nat × Nat :=
  (num * power 2 (-e), den * power 2 e)

/-- The quotient rounded to the nearest natural number; an exact half goes to the even one. -/
def roundQuotient (num den : Nat) : Nat :=
  if 2 * (num % den) < den then num / den
  else if den < 2 * (num % den) then num / den + 1
  else if num / den % 2 = 0 then num / den
  else num / den + 1

namespace Binary64

/-- Zero. -/
def zero : Binary64 := ⟨false, 0, -1074⟩

/-- The number with the other sign. -/
def neg (x : Binary64) : Binary64 := { x with negative := !x.negative }

/-- Whether the number is zero, of either sign. -/
def isZero (x : Binary64) : Bool := x.significand == 0

/-- The power of two for which a positive fraction has 53 integer bits, but never below the least
one. -/
def exponentOf (num den : Nat) : Int :=
  let guess : Int := (num.log2 : Int) - den.log2 - 53
  let scaled := scaleDown num den (guess + 53)
  max (if scaled.2 ≤ scaled.1 then guess + 1 else guess) (-1074)

/-- The number nearest to a fraction, or `none` where that would be infinite. -/
def ofFraction? (num den : Nat) : Option Binary64 :=
  if num = 0 then some zero
  else
    let e := exponentOf num den
    let scaled := scaleDown num den e
    let m := roundQuotient scaled.1 scaled.2
    let (m, e) := if m = power 2 53 then (power 2 52, e + 1) else (m, e)
    if 971 < e then none else some ⟨false, m, e⟩

/-- The number nearest to a natural number. -/
def ofNat? (n : Nat) : Option Binary64 := ofFraction? n 1

/-- The product of two numbers, with the sign of the first, or `none` if it is infinite. -/
def mul? (x y : Binary64) : Option Binary64 :=
  let e := x.exponent + y.exponent
  (ofFraction? (x.significand * y.significand * power 2 e) (power 2 (-e))).map
    ({ · with negative := x.negative })

/-- The quotient of two numbers, with the sign of the first, or `none` if it is infinite. The
divisor is not zero. -/
def div? (x y : Binary64) : Option Binary64 :=
  let e := x.exponent - y.exponent
  (ofFraction? (x.significand * power 2 e) (y.significand * power 2 (-e))).map
    ({ · with negative := x.negative })

/-- The number nearest to a power of ten, or `none` if it is infinite. -/
def tenPow? (k : Nat) : Option Binary64 := ofNat? (power 10 k)

end Binary64

end CommitGate.Decimal
