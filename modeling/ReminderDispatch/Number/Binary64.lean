import ReminderDispatch.Number.Powers
import ReminderDispatch.Number.Rounding

/-!
# Double-precision numbers

The numbers of the IEEE 754 format binary64. A finite number is a whole mantissa times a power of
two; every operation gives the number nearest to its exact result, a tie going to the even
mantissa, and a result beyond the greatest number is infinite.
-/

namespace ReminderDispatch

/-- A double-precision number. Operations keep the mantissa of a finite number below `2 ^ 53`, and
at least `2 ^ 52` unless the exponent is the least one. -/
inductive Binary64 where
  /-- Not a number. -/
  | nan
  /-- An infinity. -/
  | infinite (negative : Bool)
  /-- The mantissa times two to the exponent. -/
  | finite (negative : Bool) (mantissa : Nat) (exponent : Int)
  deriving DecidableEq, Repr

namespace Binary64

open Number

/-- The least exponent. -/
def leastExponent : Int := -1074

/-- The greatest exponent. -/
def greatestExponent : Int := 971

/-- A zero with a sign. -/
def zero (negative : Bool) : Binary64 := .finite negative 0 leastExponent

/-- The exponent of the greatest power of two that is at most a positive quotient. -/
def floorLog2 (num den : Nat) : Int :=
  let near : Int := (num.log2 : Int) - den.log2
  if num * twoTo (-near).toNat < den * twoTo near.toNat then near - 1 else near

/-- The number with a mantissa of up to `2 ^ 53` and an exponent. -/
def normal (negative : Bool) (mantissa : Nat) (exponent : Int) : Binary64 :=
  let (mantissa, exponent) :=
    if mantissa = twoTo 53 then (twoTo 52, exponent + 1) else (mantissa, exponent)
  if exponent > greatestExponent then .infinite negative else .finite negative mantissa exponent

/-- The number nearest to a quotient with a sign. -/
def ofRatio (negative : Bool) (num den : Nat) : Binary64 :=
  if num = 0 then zero negative
  else
    let exponent := max leastExponent (floorLog2 num den - 52)
    normal negative (roundDiv (num * twoTo (-exponent).toNat) (den * twoTo exponent.toNat)) exponent

/-- The number nearest to a whole mantissa times a power of two. -/
def ofScaled (negative : Bool) (mantissa : Nat) (exponent : Int) : Binary64 :=
  ofRatio negative (mantissa * twoTo exponent.toNat) (twoTo (-exponent).toNat)

/-- The number nearest to a whole number. -/
def ofNat (n : Nat) : Binary64 := ofRatio false n 1

/-- The number with the other sign. -/
def neg : Binary64 → Binary64
  | .nan => .nan
  | .infinite negative => .infinite (!negative)
  | .finite negative mantissa exponent => .finite (!negative) mantissa exponent

/-- The number is zero, with either sign. -/
def isZero : Binary64 → Bool
  | .finite _ 0 _ => true
  | _ => false

/-- The number is an infinity. -/
def isInfinite : Binary64 → Bool
  | .infinite _ => true
  | _ => false

/-- The rounded product. -/
def mul : Binary64 → Binary64 → Binary64
  | .nan, _ | _, .nan => .nan
  | .infinite s, .infinite t => .infinite (s != t)
  | .infinite s, .finite t m _ | .finite t m _, .infinite s =>
    if m = 0 then .nan else .infinite (s != t)
  | .finite s m e, .finite t n f => ofScaled (s != t) (m * n) (e + f)

/-- The rounded quotient. -/
def div : Binary64 → Binary64 → Binary64
  | .nan, _ | _, .nan => .nan
  | .infinite _, .infinite _ => .nan
  | .infinite s, .finite t _ _ => .infinite (s != t)
  | .finite s _ _, .infinite t => zero (s != t)
  | .finite s m e, .finite t n f =>
    if n = 0 then (if m = 0 then .nan else .infinite (s != t))
    else ofRatio (s != t) (m * twoTo (e - f).toNat) (n * twoTo (f - e).toNat)

/-- A mantissa with its sign, in units of a power of two that is no greater than its own. -/
def units (negative : Bool) (mantissa : Nat) (exponent unit : Int) : Int :=
  let size : Int := (mantissa * twoTo (exponent - unit).toNat : Nat)
  if negative then -size else size

/-- The rounded sum. -/
def add : Binary64 → Binary64 → Binary64
  | .nan, _ | _, .nan => .nan
  | .infinite s, .infinite t => if s = t then .infinite s else .nan
  | .infinite s, .finite _ _ _ | .finite _ _ _, .infinite s => .infinite s
  | .finite s m e, .finite t n f =>
    let unit := min e f
    let sum := units s m e unit + units t n f unit
    if sum = 0 then zero (s && t) else ofScaled (sum < 0) sum.natAbs unit

/-- The power by repeated squaring, with each product rounded: `power` times `base` to the
exponent. -/
def powFrom (power base : Binary64) (exponent : Nat) : Binary64 :=
  if exponent = 0 then power
  else
    let power := if exponent % 2 = 1 then power.mul base else power
    if exponent / 2 = 0 then power else powFrom power (base.mul base) (exponent / 2)
termination_by exponent

/-- The power of a number to a whole exponent. -/
def pow (base : Binary64) (exponent : Nat) : Binary64 := powFrom (ofNat 1) base exponent

/-- The whole number nearest to a number times a factor, a tie going to the even one; nothing for
a number below zero, an infinity or a NaN. -/
def scaledNat? (number : Binary64) (factor : Nat) : Option Nat :=
  match number with
  | .finite negative mantissa exponent =>
    if negative ∧ mantissa ≠ 0 then none
    else some (roundDiv (mantissa * factor * twoTo exponent.toNat) (twoTo (-exponent).toNat))
  | _ => none

end Binary64

end ReminderDispatch
