/-
# Decimal digits of a double

A positive finite double is written in decimal as a digit string `d` and the
position of the decimal point.  Three ways of choosing the digits are used:

* the *shortest* digits: the fewest significant digits whose value reads back
  as the same double, and of two such candidates the one nearer the double
  (a tie goes to the even one);
* rounding to a number of *significant* digits;
* rounding to a number of *places* after the decimal point.

Rounding is of the exact binary value, and an exact half goes to the even
neighbour.  Digits carry no trailing zeros; a value that rounds to zero has
no digits.

A value reads back as a double when it lies within the double's rounding
interval: halfway to the neighbouring doubles on either side (a quarter of
the spacing below a power of two, where the spacing halves), the ends
belonging to the interval when the mantissa is even.
-/
import MudClient.Number.Binary

namespace MudClient.Number

/-- Digits and the position of the decimal point: the value is
`0.d₁d₂… · 10^point`. -/
structure Digits where
  digits : List Nat
  point : Int
deriving DecidableEq, Repr

def natDigits (n : Nat) : List Nat :=
  if n = 0 then [] else (Nat.toDigits 10 n).map fun c => c.toNat - '0'.toNat

def digitCount (n : Nat) : Nat := (natDigits n).length

def compareScaled (a : Nat) (s : Int) (b : Nat) (t : Int) : Ordering :=
  let l := a * Nat.pow 10 s.toNat * Nat.pow 2 (-t).toNat
  let r := b * Nat.pow 2 t.toNat * Nat.pow 10 (-s).toNat
  compare l r

/-- `⌊n / d⌋`, rounded to nearest with an exact half going to the even
neighbour. -/
def roundHalfEven (n d : Nat) : Nat :=
  let q := n / d
  let r := n % d
  if 2 * r > d then q + 1
  else if 2 * r < d then q
  else if q % 2 = 1 then q + 1 else q

def floorLog10 (num den : Nat) : Int :=
  if num ≥ den then (digitCount (num / den) : Int) - 1
  else
    let q := den / num
    let exactPower := den % num = 0 && natDigits q == 1 :: List.replicate (digitCount q - 1) 0
    if exactPower then -((digitCount q : Int) - 1) else -(digitCount q : Int)

def stripZeros (d : Nat) (s : Int) (fuel : Nat) : Nat × Int :=
  match fuel with
  | 0 => (d, s)
  | f + 1 => if d ≠ 0 ∧ d % 10 = 0 then stripZeros (d / 10) (s + 1) f else (d, s)

def Digits.ofScaled (d : Nat) (s : Int) : Digits :=
  let (d, s) := stripZeros d s (digitCount d)
  let ds := natDigits d
  ⟨ds, ds.length + s⟩

/-- The shortest digits of the double `m · 2^e` (with `m > 0`); at a power
of two the double below is nearer by half the usual spacing. -/
def shortestOf (m : Nat) (e : Int) (atPowerOfTwo : Bool) : Digits :=
  -- the interval, in units of 2^(e-2)
  let t := e - 2
  let x := 4 * m
  let lo := if atPowerOfTwo then x - 1 else x - 2
  let hi := x + 2
  let inclusive := m % 2 = 0
  let inside (d : Nat) (s : Int) : Bool :=
    let cl := compareScaled d s lo t
    let ch := compareScaled d s hi t
    (cl == .gt || (inclusive && cl == .eq)) && (ch == .lt || (inclusive && ch == .eq))
  let (num, den) := ratio m e
  let k := floorLog10 num den
  let rec search : Nat → Digits
    | 0 => Digits.ofScaled m 0
    | f + 1 =>
      let p := 18 - (f + 1)
      let s := k - p + 1
      let n := num * Nat.pow 10 (-s).toNat
      let dd := den * Nat.pow 10 s.toNat
      let dlo := n / dd
      let okLo := inside dlo s
      let okHi := inside (dlo + 1) s
      if okLo && okHi then
        -- the nearer one; an exact tie goes to the even digit
        let c := compare (2 * (n - dlo * dd)) dd
        if c == .lt || (c == .eq && dlo % 2 = 0) then Digits.ofScaled dlo s
        else Digits.ofScaled (dlo + 1) s
      else if okLo then Digits.ofScaled dlo s
      else if okHi then Digits.ofScaled (dlo + 1) s
      else search f
  search 17

def shortest (x : Float) : Digits :=
  match parts x with
  | .finite _ m e =>
    if m = 0 then ⟨[], 0⟩
    else
      let field := ((x.toBits >>> 52) &&& 0x7FF).toNat
      shortestOf m e (m = Nat.pow 2 52 && field > 1)
  | _ => ⟨[], 0⟩

def significant (x : Float) (n : Nat) : Digits :=
  match parts x with
  | .finite _ m e =>
    if m = 0 then ⟨[], 0⟩
    else
      let (num, den) := ratio m e
      let k := floorLog10 num den
      let s := k - n + 1
      let d := roundHalfEven (num * Nat.pow 10 (-s).toNat) (den * Nat.pow 10 s.toNat)
      Digits.ofScaled d s
  | _ => ⟨[], 0⟩

/-- The digits of a finite double rounded to `places` digits after the
point. -/
def fixed (x : Float) (places : Nat) : Digits :=
  match parts x with
  | .finite _ m e =>
    let (num, den) := ratio m e
    let d := roundHalfEven (num * Nat.pow 10 places) den
    Digits.ofScaled d (-(places : Int))
  | _ => ⟨[], 0⟩

end MudClient.Number
