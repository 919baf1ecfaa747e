/-
# Binary floating-point numbers, exactly

A finite double is `± m · 2^e` with a natural mantissa `m` below `2^53`.
This module reads a double into that form, and answers exactly the
questions that the number formats and the conversions to integers ask of
it: its integer part, whether it is integral, and its exact value as a
fraction of two naturals.

Conversion to a 64-bit integer truncates toward zero; a value that does not
fit, and NaN, give the least 64-bit integer, as the processor's conversion
instruction does.
-/

namespace MudClient.Number

/-- The parts of a double. -/
inductive Parts where
  /-- `(-1)^neg · m · 2^e`; zero has `m = 0`. -/
  | finite (neg : Bool) (m : Nat) (e : Int)
  | inf (neg : Bool)
  | nan
deriving DecidableEq, Repr

def parts (x : Float) : Parts :=
  let bits := x.toBits
  let neg := bits >>> 63 == 1
  let ex := ((bits >>> 52) &&& 0x7FF).toNat
  let frac := (bits &&& 0xFFFFFFFFFFFFF).toNat
  if ex = 0x7FF then (if frac = 0 then .inf neg else .nan)
  else if ex = 0 then .finite neg frac (-1074)
  else .finite neg (frac + Nat.pow 2 52) ((ex : Int) - 1075)

def int64Min : Int := -(Int.pow 2 63)

/-- An integer taken modulo `2^64` into the 64-bit range, as 64-bit
arithmetic wraps. -/
def wrapInt64 (n : Int) : Int :=
  let m := n % Int.pow 2 64
  if m ≥ Int.pow 2 63 then m - Int.pow 2 64 else m

def truncScaled (m : Nat) (e : Int) : Nat :=
  if e ≥ 0 then m * Nat.pow 2 e.toNat else m / Nat.pow 2 (-e).toNat

def truncInt? (x : Float) : Option Int :=
  match parts x with
  | .finite neg m e => let n : Int := truncScaled m e; some (if neg then -n else n)
  | _ => none

/-- The 64-bit integer a double converts to: truncated toward zero, and the
least 64-bit integer when it is out of range or NaN. -/
def toInt64 (x : Float) : Int :=
  match truncInt? x with
  | some n => if int64Min ≤ n ∧ n < Int.pow 2 63 then n else int64Min
  | none => int64Min

/-- Whether a double converts to a 64-bit integer and back without change:
it is integral and lies in the 64-bit range. -/
def isInt64 (x : Float) : Bool := Float.ofInt (toInt64 x) == x

def isIntegral (x : Float) : Bool :=
  match parts x with
  | .finite _ m e => e ≥ 0 || m % Nat.pow 2 (-e).toNat == 0
  | _ => false

/-- The exact value of a finite nonnegative `m · 2^e` as numerator and
denominator. -/
def ratio (m : Nat) (e : Int) : Nat × Nat :=
  if e ≥ 0 then (m * Nat.pow 2 e.toNat, 1) else (m, Nat.pow 2 (-e).toNat)

/-- The remainder of `x` divided by `y` that has the sign of `x` and is
smaller than `y` in size, computed exactly: `x - n · y` for the integer `n`
nearest zero that makes it so.  It is NaN when `x` is infinite, `y` is zero
or either is NaN, and `x` itself when `y` is infinite. -/
def fmod (x y : Float) : Float :=
  match parts x, parts y with
  | .finite xn xm xe, .finite _ ym ye =>
    if ym = 0 then 0.0 / 0.0
    else if xm = 0 then x
    else
      -- bring both to the smaller exponent, take the natural remainder
      let e := min xe ye
      let a := xm * Nat.pow 2 (xe - e).toNat
      let b := ym * Nat.pow 2 (ye - e).toNat
      let r := a % b
      let v := Float.scaleB (Float.ofNat r) e
      if xn then -v else v
  | .finite _ _ _, .inf _ => x
  | _, _ => 0.0 / 0.0

end MudClient.Number
