import CommitGate.Decimal.Binary64

/-!
# Shortest decimals

The decimal numeral of a double precision number: of all decimals that read back to it, those with
the fewest digits, and of these the nearest (an exact tie goes to the even last digit).

The decimals that read back are those between the midpoints to the two neighbours, the midpoints
included exactly when the significand is even. They are compared with the number by whole-number
arithmetic. For one digit, then two, and so on, the two multiples of the right power of ten next to
the number are tried; if any multiple lies between the midpoints, one of these two does.
-/

namespace CommitGate.Decimal

/-- The decimal `digits * 10 ^ exponent`. -/
structure Numeral where
  /-- All digits, as one natural number. -/
  digits : Nat
  exponent : Int
deriving DecidableEq, Repr

/-- Compares `a * 10 ^ i` with `n * 2 ^ j`. -/
def compareScaled (a : Nat) (i : Int) (n : Nat) (j : Int) : Ordering :=
  compare (a * power 10 i * power 2 (-j)) (n * power 2 j * power 10 (-i))

namespace Binary64

/-- Whether the gap to the number below is half the gap to the number above, in magnitude. -/
def isNarrowBelow (x : Binary64) : Bool :=
  x.significand == power 2 52 && x.exponent > -1074

/-- Whether a decimal lies among those that round to the magnitude of `x`. -/
def readsBack (x : Binary64) (d : Numeral) : Bool :=
  let low := if x.isNarrowBelow then 4 * x.significand - 1 else 4 * x.significand - 2
  let high := 4 * x.significand + 2
  let ends := x.significand % 2 == 0
  let fromLow := compareScaled d.digits d.exponent low (x.exponent - 2)
  let fromHigh := compareScaled d.digits d.exponent high (x.exponent - 2)
  (fromLow == .gt || (ends && fromLow == .eq)) && (fromHigh == .lt || (ends && fromHigh == .eq))

/-- The magnitude of `x`, divided by a power of ten, as a fraction. -/
def overTenPow (x : Binary64) (k : Int) : Nat × Nat :=
  (x.significand * power 2 x.exponent * power 10 (-k), power 2 (-x.exponent) * power 10 k)

/-- The least power of ten above the magnitude of a number that is not zero. -/
def magnitude (x : Binary64) : Int :=
  let guess : Int := ((x.significand.log2 : Int) + x.exponent) * 30103 / 100000
  let isBelow (k : Int) : Bool := (x.overTenPow k).1 < (x.overTenPow k).2
  if isBelow guess then guess else if isBelow (guess + 1) then guess + 1 else guess + 2

/-- The nearest decimal with `n` digits that reads back, if there is one. -/
def numeralOfLength? (x : Binary64) (n : Nat) : Option Numeral :=
  let e := x.magnitude - n
  let (num, den) := x.overTenPow e
  let below : Numeral := ⟨num / den, e⟩
  let above : Numeral := ⟨num / den + 1, e⟩
  match x.readsBack below, x.readsBack above with
  | true, true => some ⟨roundQuotient num den, e⟩
  | true, false => some below
  | false, true => some above
  | false, false => none

/-- The decimal that equals the magnitude of `x`. -/
def exactNumeral (x : Binary64) : Numeral :=
  if 0 ≤ x.exponent then ⟨x.significand * power 2 x.exponent, 0⟩
  else ⟨x.significand * power 5 (-x.exponent), x.exponent⟩

end Binary64

/-- The numeral without zeros at the end of its digits. -/
def Numeral.strip (d : Numeral) : Numeral :=
  if h : d.digits ≠ 0 ∧ d.digits % 10 = 0 then
    Numeral.strip ⟨d.digits / 10, d.exponent + 1⟩
  else d
termination_by d.digits
decreasing_by omega

namespace Binary64

/-- The shortest numeral of the magnitude of a number that is not zero. Seventeen digits are always
enough. -/
def shortest (x : Binary64) : Numeral :=
  (((List.range 17).findSome? fun n => x.numeralOfLength? (n + 1)).getD x.exactNumeral).strip

/-- The text of a number. A number whose leading digit has a place from `10 ^ -5` to `10 ^ 15` is
written with a point and at least one digit behind it; any other with one digit before the point, no
point if no digit follows it, and a signed power of ten. -/
def toText (x : Binary64) : String :=
  let sign := if x.negative then "-" else ""
  if x.isZero then sign ++ "0.0"
  else
    let d := x.shortest
    let text := (toString d.digits).toList
    let place : Int := d.exponent + text.length - 1
    let zeros (n : Int) : List Char := List.replicate n.toNat '0'
    let body : List Char :=
      if place < -5 ∨ 15 < place then
        let fraction := if text.length = 1 then [] else '.' :: text.drop 1
        let mark := if place < 0 then ['e', '-'] else ['e', '+']
        text.take 1 ++ fraction ++ mark ++ (toString place.natAbs).toList
      else if place < 0 then
        ['0', '.'] ++ zeros (-place - 1) ++ text
      else if 0 ≤ d.exponent then
        text ++ zeros d.exponent ++ ['.', '0']
      else
        text.take (place.toNat + 1) ++ '.' :: text.drop (place.toNat + 1)
    sign ++ String.ofList body

end Binary64

end CommitGate.Decimal
