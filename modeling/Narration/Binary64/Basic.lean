/-! # Binary floating point numbers of 64 bits

A finite number is a sign and a magnitude. The magnitude is an exact count of the smallest positive
number, two to the power of -1074, so comparing, testing for an integer and finding the decimal
digits are arithmetic on naturals, and each number has one form. -/
namespace Narration

inductive Binary64
  | nan
  | infinite (negative : Bool)
  | finite (negative : Bool) (units : Nat)
  deriving DecidableEq

namespace Binary64

/-- How many of the smallest positive number make one. -/
def one : Nat := Nat.pow 2 1074

/-- The first magnitude that is too large to be finite, two to the power of 1024. -/
def ceiling : Nat := Nat.pow 2 2098

/-- The exponent of two of the last place of a magnitude: significands have up to 53 bits. -/
def place (units : Nat) : Nat := units.log2 - 52

/-- The quotient, rounded to the nearest integer, a half to the even neighbour. -/
def divideToEven (numerator denominator : Nat) : Nat :=
  let quotient := numerator / denominator
  let twice := 2 * (numerator % denominator)
  if twice > denominator ∨ (twice = denominator ∧ quotient % 2 = 1) then quotient + 1 else quotient

/-- The number nearest to a quotient of naturals, ties to an even significand. -/
def ofRatio (negative : Bool) (numerator denominator : Nat) : Binary64 :=
  let step := Nat.pow 2 (place (numerator * one / denominator))
  let units := divideToEven (numerator * one) (denominator * step) * step
  if units < ceiling then .finite negative units else .infinite negative

/-- The number nearest to `digits` times ten to the power `exponent`. Products far out of range
are settled without computing a power. -/
def ofDecimal (negative : Bool) (digits : Nat) (exponent : Int) : Binary64 :=
  let magnitude := exponent + (digits.log2 * 30103 / 100000 : Nat)
  if digits = 0 ∨ magnitude < -400 then .finite negative 0
  else if magnitude > 400 then .infinite negative
  else match exponent with
    | .ofNat e => ofRatio negative (digits * Nat.pow 10 e) 1
    | .negSucc e => ofRatio negative digits (Nat.pow 10 (e + 1))

/-- The integer that a number is, if it is one. -/
def integer? : Binary64 → Option Int
  | .finite negative units =>
    if units % one = 0 then some (if negative then -(units / one : Nat) else (units / one : Nat))
    else none
  | _ => none

/-- The integer that is left of a finite number when its fraction is cut off. -/
def truncated? : Binary64 → Option Int
  | .finite negative units => some (if negative then -(units / one : Nat) else (units / one : Nat))
  | _ => none

def isZero : Binary64 → Bool
  | .finite _ units => units == 0
  | _ => false

def isFinite : Binary64 → Bool
  | .finite _ _ => true
  | _ => false

end Binary64
end Narration
