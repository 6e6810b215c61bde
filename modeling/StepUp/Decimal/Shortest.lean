/-!
# The shortest decimal of a double

Of the decimals that read back as a given double, those with the fewest digits are looked for, and
of these the nearest. All comparisons are between natural numbers.
-/

namespace StepUp.Decimal

/-- The number `significand * 10 ^ exponent`. -/
structure Scaled where
  significand : Nat
  exponent : Int

/-- The number `significand * 2 ^ exponent`. -/
structure Binary where
  significand : Nat
  exponent : Int

namespace Binary

def minExponent : Int := -1074

/-- The least significand of a double that is not close to zero, `2 ^ 52`. -/
def leastNormal : Nat := 0x10000000000000

def exponentCount : Nat := 0x800

/-- The absolute value of the finite double with the given bits. -/
def ofBits (bits : UInt64) : Binary :=
  let fraction := bits.toNat % leastNormal
  let biased := bits.toNat / leastNormal % exponentCount
  if biased = 0 then ⟨fraction, minExponent⟩
  else ⟨leastNormal + fraction, minExponent - 1 + biased⟩

/-- The numbers that round to a double, in quarters of its last place. -/
def lower (b : Binary) : Nat :=
  4 * b.significand - if b.significand = leastNormal ∧ minExponent < b.exponent then 1 else 2

def upper (b : Binary) : Nat := 4 * b.significand + 2

/-- Factors that compare multiples of `10 ^ k` with quarters of the last place: `c * 10 ^ k` is
below `x` quarters exactly when `c * scale.1` is below `x * scale.2`. -/
def scale (b : Binary) (k : Int) : Nat × Nat :=
  (Nat.pow 10 k.toNat * Nat.pow 2 (2 - b.exponent).toNat,
    Nat.pow 2 (b.exponent - 2).toNat * Nat.pow 10 (-k).toNat)

/-- Whether `c * 10 ^ k` reads back as the double: a number halfway between two doubles goes to the
one with an even significand. -/
def readsBack (b : Binary) (k : Int) (c : Nat) : Bool :=
  let (p, r) := b.scale k
  if b.significand % 2 = 0 then b.lower * r ≤ c * p && c * p ≤ b.upper * r
  else b.lower * r < c * p && c * p < b.upper * r

/-- The multiple of `10 ^ k` that reads back as the double and is nearest to it; of two as near the
even one. -/
def nearest? (b : Binary) (k : Int) : Option Nat :=
  let (p, r) := b.scale k
  let value := 4 * b.significand * r
  let c := value / p
  match b.readsBack k c, b.readsBack k (c + 1) with
  | true, true =>
    let below := value - c * p
    let above := (c + 1) * p - value
    some (if below < above ∨ below = above ∧ c % 2 = 0 then c else c + 1)
  | true, false => some c
  | false, true => some (c + 1)
  | false, false => none

def digitCount (n : Nat) : Nat := (Nat.toDigits 10 n).length

/-- The exponent of the power of ten at or below the double. -/
def magnitude (b : Binary) : Int :=
  let num := b.significand * Nat.pow 2 b.exponent.toNat
  let den := Nat.pow 2 (-b.exponent).toNat
  if den ≤ num then digitCount (num / den) - 1 else -digitCount ((den - 1) / num)

/-- Seventeen digits suffice for every double. -/
def maxDigits : Nat := 17

/-- The shortest decimal that reads back as the double, the nearest of those. -/
def shortest (b : Binary) : Scaled :=
  let magnitude := b.magnitude
  let exponents := (List.range maxDigits).map fun (n : Nat) => magnitude - n
  (exponents.findSome? fun k => (b.nearest? k).map (⟨·, k⟩)).getD ⟨0, 0⟩

end Binary

/-- Where a decimal is written without an exponent. -/
structure Layout where
  least : Int
  greatest : Int

namespace Layout

def zeros (n : Nat) : List Char := List.replicate n '0'

/-- The text of a positive decimal: digits around a point, with at least one on either side, or
one digit before the point and an exponent with a sign. -/
def render (layout : Layout) (d : Scaled) : List Char :=
  let written := Nat.toDigits 10 d.significand
  let magnitude := d.exponent + written.length - 1
  let digits := (written.reverse.dropWhile (· = '0')).reverse
  if layout.least ≤ magnitude ∧ magnitude ≤ layout.greatest then
    if magnitude < 0 then '0' :: '.' :: (zeros (-1 - magnitude).toNat ++ digits)
    else
      let whole := magnitude.toNat + 1
      let fraction := digits.drop whole
      digits.take whole ++ zeros (whole - digits.length) ++
        '.' :: (if fraction.isEmpty then ['0'] else fraction)
  else
    let fraction := digits.drop 1
    digits.take 1 ++ (if fraction.isEmpty then [] else '.' :: fraction) ++
      'e' :: (if magnitude < 0 then '-' else '+') :: Nat.toDigits 10 magnitude.natAbs

end Layout

end StepUp.Decimal
