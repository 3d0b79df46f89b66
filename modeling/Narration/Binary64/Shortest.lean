import Narration.Binary64.Basic
import Narration.Text.Basic

/-! # Shortest decimal text

A finite number is written with the fewest decimal digits that read back to it. Of several such
digit strings the nearest is taken, and of two equally near the even one. The digits stand in
positional notation for decimal points from after the third zero to after the sixteenth digit,
and in scientific notation elsewhere. -/
namespace Narration.Binary64

/-- A power of ten as a quotient. -/
def tenTo : Int → Nat × Nat
  | .ofNat e => (Nat.pow 10 e, 1)
  | .negSucc e => (1, Nat.pow 10 (e + 1))

/-- Where the decimal point of a positive magnitude stands: the least `p` for which the magnitude
is below ten to the power `p`. The logarithm to base two leaves two candidates. -/
def point (units : Nat) : Int :=
  let estimate := Int.fdiv (((units.log2 : Int) - 1074) * 30103) 100000 + 1
  let (numerator, denominator) := tenTo estimate
  if units * denominator < numerator * one then estimate else estimate + 1

/-- Whether a quotient of quarter units reads back as a magnitude: it lies between the midpoints
to the neighbours, and may be a midpoint if the significand is even. Below a power of two the
neighbour is nearer. -/
def readsBack (units numerator denominator : Nat) : Bool :=
  let step := Nat.pow 2 (place units)
  let below := if units = Nat.pow 2 52 * step ∧ step > 1 then step else 2 * step
  let low := (4 * units - below) * denominator
  let high := (4 * units + 2 * step) * denominator
  if units / step % 2 = 0 then low ≤ numerator && numerator ≤ high
  else low < numerator && numerator < high

/-- The digits, as one number, of the best decimal of `count` digits that reads back. -/
def candidate? (units : Nat) (p : Int) (count : Nat) : Option Nat :=
  let (numerator, denominator) := tenTo (p - count)
  let floor := units * denominator / (numerator * one)
  let rest := units * denominator % (numerator * one)
  let hits (n : Nat) : Bool := readsBack units (4 * n * numerator * one) denominator
  let up := 2 * rest > numerator * one ∨ (2 * rest = numerator * one ∧ floor % 2 = 1)
  let (first, second) := if up then (floor + 1, floor) else (floor, floor + 1)
  if hits first then some first else if hits second then some second else none

/-- The fewest digits that read back, with the place of the decimal point among them. Seventeen
digits always do. Rounding up can gain a digit, as from 9.9 to 10. -/
def shortest (units : Nat) : Text × Int :=
  let p := point units
  let best := (List.range 17).findSome? fun i => do
    let digits := Text.ofNat (← candidate? units p (i + 1))
    some (digits, p + ((digits.length : Int) - (i + 1)))
  best.getD ([], p)

/-- Digits without the zeros at their end. -/
def significant (digits : Text) : Text := (digits.reverse.dropWhile (· == .char '0')).reverse

def zeros (n : Nat) : Text := List.replicate n (.char '0')

/-- An exponent of ten: a sign and at least two digits. -/
def exponentText (e : Int) : Text :=
  let digits := Text.ofNat e.natAbs
  (if e < 0 then .char '-' else .char '+') :: (zeros (2 - digits.length) ++ digits)

/-- Digits with their decimal point after the first `p` of them. -/
def layout (digits : Text) (p : Int) : Text :=
  if -4 < p ∧ p ≤ 16 then
    if p ≤ 0 then "0." ++ zeros (-p).toNat ++ digits
    else if digits.length ≤ p.toNat then digits ++ zeros (p.toNat - digits.length) ++ ".0"
    else digits.take p.toNat ++ "." ++ digits.drop p.toNat
  else
    let fraction := digits.drop 1
    digits.take 1 ++ (if fraction.isEmpty then [] else .char '.' :: fraction) ++ "e"
      ++ exponentText (p - 1)

def magnitudeText (units : Nat) : Text :=
  if units = 0 then "0.0"
  else
    let (digits, p) := shortest units
    layout (significant digits) p

def text : Binary64 → Text
  | .nan => "nan"
  | .infinite negative => if negative then "-inf" else "inf"
  | .finite negative units => (if negative then Text.ofString "-" else []) ++ magnitudeText units

end Narration.Binary64
