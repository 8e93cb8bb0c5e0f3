/-
Module: SwaggerDocs.Decimal.Double
Purpose: Double-precision numbers by their bits, the interval of numbers that round to one, and the
  decimal with the fewest digits in that interval.
Main exports: Double, Double.significand, Double.shortest, FloatLayout, Double.render
-/

namespace SwaggerDocs

/-- A finite double-precision number, held as the 64 bits of its interchange format. -/
structure Double where
  bits : UInt64
deriving Repr, DecidableEq, Inhabited

/-- A decimal number `digits · 10 ^ (exponent + 1 - number of digits)`: the exponent is that of the
    first digit. -/
structure Scientific where
  digits : Nat
  exponent : Int
deriving Repr, DecidableEq

namespace Double

def ofFloat (x : Float) : Double := ⟨x.toBits⟩

/-- The sign bit is set. -/
def isNegative (x : Double) : Bool := x.bits.toNat / Nat.pow 2 63 = 1

/-- The eleven exponent bits. -/
def exponentBits (x : Double) : Nat := x.bits.toNat / Nat.pow 2 52 % Nat.pow 2 11

/-- The fifty-two fraction bits. -/
def fractionBits (x : Double) : Nat := x.bits.toNat % Nat.pow 2 52

/-- Zero of either sign. -/
def isZero (x : Double) : Bool := x.bits.toNat % Nat.pow 2 63 = 0

/-- Two numbers are equal as values: the two zeros are, and otherwise the bits decide. -/
def same (x y : Double) : Bool := x.bits = y.bits || (x.isZero && y.isZero)

/-- The significand `m` of the absolute value `m · 2 ^ q`. -/
def significand (x : Double) : Nat :=
  if x.exponentBits = 0 then x.fractionBits else x.fractionBits + Nat.pow 2 52

/-- The scale `q` of the absolute value `m · 2 ^ q`. -/
def scale (x : Double) : Int :=
  if x.exponentBits = 0 then -1074 else (x.exponentBits : Int) - 1075

/-- Whether the gap to the next smaller number is half the gap to the next larger one. -/
def halvedBelow (x : Double) : Bool := x.fractionBits = 0 && 1 < x.exponentBits

end Double

/-- A nonnegative fraction. -/
structure Fraction where
  num : Nat
  den : Nat
deriving Repr, DecidableEq

namespace Fraction

/-- The fraction `m · 2 ^ q`. -/
def ofBinary (m : Nat) (q : Int) : Fraction :=
  if 0 ≤ q then ⟨m * Nat.pow 2 q.toNat, 1⟩ else ⟨m, Nat.pow 2 (-q).toNat⟩

/-- The fraction `d · 10 ^ e`. -/
def ofDecimal (d : Nat) (e : Int) : Fraction :=
  if 0 ≤ e then ⟨d * Nat.pow 10 e.toNat, 1⟩ else ⟨d, Nat.pow 10 (-e).toNat⟩

def le (a b : Fraction) : Bool := a.num * b.den ≤ b.num * a.den

def lt (a b : Fraction) : Bool := a.num * b.den < b.num * a.den

/-- The distance of two fractions. -/
def distance (a b : Fraction) : Fraction :=
  let x := a.num * b.den
  let y := b.num * a.den
  ⟨if x ≤ y then y - x else x - y, a.den * b.den⟩

/-- The number of decimal digits of a natural number; zero has none. -/
def digitCount (n : Nat) : Nat := if n = 0 then 0 else (Nat.toDigits 10 n).length

/-- The exponent of the first decimal digit of a positive fraction. -/
def leadingExponent (a : Fraction) : Int :=
  let whole := a.num / a.den
  if 0 < whole then (digitCount whole : Int) - 1
  else
    let inverse := (a.den + a.num - 1) / a.num
    Int.negOfNat (digitCount (inverse - 1))

/-- The fraction in units of `10 ^ e`, rounded down. -/
def floorUnits (a : Fraction) (e : Int) : Nat :=
  if 0 ≤ e then a.num / (a.den * Nat.pow 10 e.toNat) else a.num * Nat.pow 10 (-e).toNat / a.den

end Fraction

namespace Double

/-- The absolute value as a fraction. -/
def magnitude (x : Double) : Fraction := Fraction.ofBinary (4 * x.significand) (x.scale - 2)

/-- Whether a fraction rounds to the absolute value: it lies between the midpoints to the two
    neighbours, and a midpoint itself goes to an even significand. -/
def roundsTo (x : Double) (a : Fraction) : Bool :=
  let m := 4 * x.significand
  let low := Fraction.ofBinary (if x.halvedBelow then m - 1 else m - 2) (x.scale - 2)
  let high := Fraction.ofBinary (m + 2) (x.scale - 2)
  if x.significand % 2 = 0 then low.le a && a.le high else low.lt a && a.lt high

/-- The nearer of the two decimals on a grid around the value that round to it; of two at the same
    distance the even one. -/
def nearestOnGrid (x : Double) (unit : Int) : Option Nat :=
  let value := x.magnitude
  let below := value.floorUnits unit
  let lower := Fraction.ofDecimal below unit
  let upper := Fraction.ofDecimal (below + 1) unit
  match x.roundsTo lower, x.roundsTo upper with
  | false, false => none
  | true, false => some below
  | false, true => some (below + 1)
  | true, true =>
      let down := value.distance lower
      let up := value.distance upper
      if down.lt up then some below
      else if up.lt down then some (below + 1)
      else if below % 2 = 0 then some below else some (below + 1)

/-- The decimal without the zeros at its end. -/
def dropZeros : Nat → Nat → Nat
  | 0, d => d
  | fuel + 1, d => if d ≠ 0 && d % 10 = 0 then dropZeros fuel (d / 10) else d

/-- Searches the grids of `count`, `count + 1`, … digits for a decimal that rounds to the number. -/
def searchGrids (x : Double) (leading : Int) : Nat → Nat → Option Scientific
  | 0, _ => none
  | fuel + 1, count =>
      let unit := leading + 1 - count
      match x.nearestOnGrid unit with
      | some d =>
          let first := (Fraction.digitCount d : Int) - 1 + unit
          some ⟨dropZeros 17 d, first⟩
      | none => searchGrids x leading fuel (count + 1)

/-- The decimal with the fewest digits that reads back as the absolute value, and among those the
    nearest. Seventeen digits always suffice. -/
def shortest (x : Double) : Scientific :=
  if x.isZero then ⟨0, 0⟩
  else (x.searchGrids x.magnitude.leadingExponent 17 1).getD ⟨0, 0⟩

end Double

/-- How a written number shows its exponent. -/
structure FloatLayout where
  /-- A positive exponent carries a plus sign. -/
  plusSign : Bool
deriving Repr, DecidableEq

namespace Double

/-- The decimal digits of a natural number. -/
def digitsOf (n : Nat) : List Char := Nat.toDigits 10 n

/-- The text of an exponent. -/
def renderExponent (layout : FloatLayout) (e : Int) : List Char :=
  if e < 0 then '-' :: digitsOf e.natAbs
  else if layout.plusSign then '+' :: digitsOf e.natAbs
  else digitsOf e.natAbs

/-- A decimal is written positionally while its first digit stands at most five places after and
    sixteen places before the point; a whole number keeps `.0`. -/
def renderScientific (layout : FloatLayout) (s : Scientific) : List Char :=
  let digits := digitsOf s.digits
  let places := s.exponent + 1
  if -5 < places ∧ places ≤ 16 then
    if places ≤ 0 then
      ['0', '.'] ++ List.replicate (-places).toNat '0' ++ digits
    else
      let n := places.toNat
      if digits.length ≤ n then
        digits ++ List.replicate (n - digits.length) '0' ++ ['.', '0']
      else digits.take n ++ '.' :: digits.drop n
  else
    let head := digits.take 1
    let tail := digits.drop 1
    let point := if tail.isEmpty then [] else '.' :: tail
    head ++ point ++ 'e' :: renderExponent layout s.exponent

/-- The text of a number. -/
def render (layout : FloatLayout) (x : Double) : String :=
  let body := renderScientific layout x.shortest
  String.ofList (if x.isNegative then '-' :: body else body)

end Double

end SwaggerDocs
