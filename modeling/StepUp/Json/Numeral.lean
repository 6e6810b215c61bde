import StepUp.Json.Fault
import StepUp.Json.Basic

/-!
# Numerals

An integer without a fraction or an exponent is kept as it is where it fits in 64 bits. Every
other numeral becomes a double: the digits that fit in 64 bits are scaled by a power of ten, with
a rounding at each step.
-/

namespace StepUp.Json.Numeral

def isDigit (b : UInt8) : Bool := 0x30 ≤ b && b ≤ 0x39

def digit (b : UInt8) : Nat := b.toNat - 0x30

/-- The digits that a text begins with, and the text after them. -/
def digits (s : List UInt8) : List Nat × List UInt8 :=
  ((s.takeWhile isDigit).map digit, s.dropWhile isDigit)

/-- The number of words of 64 bits, `2 ^ 64`. -/
def wordSize : Nat := 0x10000000000000000

def signedBound : Nat := 0x8000000000000000

/-- Appends digits to a number below `wordSize` while it stays below; the digits from the first that
does not fit are left over. -/
def absorb (n : Nat) : List Nat → Nat × List Nat
  | [] => (n, [])
  | d :: ds => if 10 * n + d < wordSize then absorb (10 * n + d) ds else (n, d :: ds)

/-- The power of ten nearest to `10 ^ k`. -/
def powerOfTen (k : Nat) : Float := Float.ofScientific 1 false k

def maxPower : Nat := 308

/-- Scales a double by a power of ten, dividing in steps where one power is not enough. None if
the result is too large. -/
def scale (x : Float) (exponent : Int) : Option Float :=
  if exponent.natAbs ≤ maxPower then
    some (if exponent < 0 then x / powerOfTen exponent.natAbs else x * powerOfTen exponent.natAbs)
  else if x == 0 then some x
  else if 0 < exponent then none
  else scale (x / powerOfTen maxPower) (exponent + maxPower)
termination_by exponent.natAbs
decreasing_by
  simp only [maxPower] at *
  omega

/-- The double for a significand below `wordSize` and a power of ten. -/
def toFloat? (negative : Bool) (significand : Nat) (exponent : Int) : Option Number := do
  let x ← scale significand.toUInt64.toFloat exponent
  Number.ofFloat? (if negative then -x else x)

/-- The number for an integer below `wordSize` and a sign. Zero with a sign is a float. -/
def ofInteger? (negative : Bool) (n : Nat) : Option Number :=
  if negative then
    if 0 < n ∧ n ≤ signedBound then Number.ofInt? (-n) else toFloat? true n 0
  else Number.ofInt? n

def maxExponent : Nat := 0x7FFFFFFF

/-- Reads digits of an exponent until none is left or the exponent has grown past
`maxExponent`. -/
def exponentFrom (n : Nat) : List UInt8 → Nat × List UInt8
  | [] => (n, [])
  | b :: s =>
    if isDigit b then
      if 10 * n + digit b ≤ maxExponent then exponentFrom (10 * n + digit b) s
      else (10 * n + digit b, s)
    else (n, b :: s)

/-- Ends a numeral whose text is read: gives its number, if it is in range. -/
def finish (number : Option Number) : Scanner Number := fun s =>
  match number with
  | some n => .ok (n, s)
  | none => .error { kind := .numberOutOfRange, rest := s }

/-- Reads an exponent, after its letter. -/
def scanExponent (negative : Bool) (significand : Nat) (exponent : Int) : Scanner Number := fun s =>
  let (below, s) := match s with
    | 0x2B :: s => (false, s)  -- plus
    | 0x2D :: s => (true, s)  -- minus
    | s => (false, s)
  match s with
  | [] => .error { kind := .endInValue, rest := [] }
  | b :: s =>
    if isDigit b then
      let (n, s) := exponentFrom (digit b) s
      if n ≤ maxExponent then
        finish (toFloat? negative significand (if below then exponent - n else exponent + n)) s
      else if significand ≠ 0 ∧ ¬ below then .error { kind := .numberOutOfRange, rest := s }
      else finish (toFloat? negative 0 0) (s.dropWhile isDigit)
    else .error { kind := .invalidNumber, rest := s }

def isExponentMark (b : UInt8) : Bool := b == 0x65 || b == 0x45

/-- Reads a fraction, after its point. -/
def scanFraction (negative : Bool) (significand : Nat) (exponent : Int) : Scanner Number := fun s =>
  match digits s with
  | ([], s) => .error (.past (if s.isEmpty then .endInValue else .invalidNumber) s)
  | (ds, s) =>
    let (significand, unused) := absorb significand ds
    let exponent := exponent - (ds.length - unused.length : Nat)
    match s with
    | [] => finish (toFloat? negative significand exponent) []
    | b :: t =>
      if isExponentMark b then scanExponent negative significand exponent t
      else finish (toFloat? negative significand exponent) s

/-- Reads a numeral, after its sign. -/
def scan (negative : Bool) : Scanner Number := fun s =>
  match s with
  | [] => .error { kind := .endInValue, rest := [] }
  | b :: t =>
    if ¬ isDigit b then .error { kind := .invalidNumber, rest := t }
    else if b = 0x30 ∧ t.head?.any isDigit then .error (.past .invalidNumber t)
    else
      let (ds, s) := digits s
      let (significand, unused) := absorb 0 ds
      let whole : Option Number :=
        if unused.isEmpty then ofInteger? negative significand
        else toFloat? negative significand unused.length
      match s with
      | [] => finish whole []
      | b :: t =>
        if b = 0x2E then  -- point
          scanFraction negative significand unused.length t
        else if isExponentMark b then scanExponent negative significand unused.length t
        else finish whole s

end StepUp.Json.Numeral
