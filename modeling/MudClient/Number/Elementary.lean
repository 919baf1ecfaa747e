/-
# Elementary functions of doubles

The exponential, logarithms, trigonometric, hyperbolic and inverse
trigonometric functions and powers, each computed by a fixed sequence of
double operations, so that every result is determined to the last bit:

* the exponential reduces its argument by the nearest multiple of ln 2
  and a factor of sixteen, sums the Taylor series to the eighth power, squares four
  times and scales by a power of two, with the reduction, the series and
  the last squaring fused;
* the logarithm splits off the binary exponent and uses a rational
  approximation in `s = f / (2 + f)`;
* sine, cosine and tangent reduce by multiples of π/4, in three parts
  below `2^29` and with the binary digits of 4/π above, then use
  polynomials on the remaining octant;
* the hyperbolic functions are built on the exponential, with rational
  approximations near zero; the arc tangent reduces to `[0, 0.66]` and
  uses a rational approximation there;
* a power splits the exponent into its integer and fractional parts:
  the fractional part through the exponential and logarithm, the integer
  part by repeated squaring of the mantissa.

A fused multiply-add `x · y + z` is rounded once, computed exactly from the
parts of its operands.
-/
import MudClient.Number.Parse

namespace MudClient.Number.Elementary

def inf : Float := Float.ofBits 0x7FF0000000000000

def nan : Float := Float.ofBits 0x7FF8000000000001

/-- `x · y + z` with a single rounding to the nearest double, ties to even.
An exact zero sum is negative only when both terms are negative zeros;
with an infinite or NaN operand the unfused operations give the same
result. -/
def fma (x y z : Float) : Float :=
  match parts x, parts y, parts z with
  | .finite xn xm xe, .finite yn ym ye, .finite zn zm ze =>
    let pn := xn != yn
    let pe := xe + ye
    let e := min pe ze
    let p : Int := ((xm * ym * Nat.pow 2 (pe - e).toNat : Nat) : Int)
    let c : Int := ((zm * Nat.pow 2 (ze - e).toNat : Nat) : Int)
    let s := (if pn then -p else p) + (if zn then -c else c)
    if s = 0 then
      if p = 0 && c = 0 && pn && zn then -0.0 else 0.0
    else
      let (num, den) := if e ≥ 0 then (s.natAbs * Nat.pow 2 e.toNat, 1)
        else (s.natAbs, Nat.pow 2 (-e).toNat)
      match nearest (s < 0) num den with
      | some f => f
      | none => if s < 0 then -inf else inf
  | _, _, _ => x * y + z

def ldexp (x : Float) (k : Int) : Float :=
  match parts x with
  | .finite neg m e =>
    if m = 0 then x
    else
      let e := e + k
      let (num, den) := if e ≥ 0 then (m * Nat.pow 2 e.toNat, 1) else (m, Nat.pow 2 (-e).toNat)
      match nearest neg num den with
      | some f => f
      | none => if neg then -inf else inf
  | _ => x

/-- The integer part and the fractional part of a double, both with its
sign; an infinity has the infinity as integer part and NaN as fraction. -/
def modf (x : Float) : Float × Float :=
  if x < 1 then
    if x < 0 then
      let ax := -x
      if ax < 1 then (-0.0, x)
      else
        let i := ax.floor
        (-i, -(ax - i))
    else if x == 0 then (x, x)
    else (0.0, x)
  else
    let i := if x.isNaN then x else x.floor
    (i, x - i)

/-- The binary logarithm of e. (1.4426950408889634073599246810018920) -/
def log2e : Float := Float.ofBits 0x3FF71547652B82FE

/-- The upper part of the natural logarithm of 2, in the exponential's argument reduction. (0.69314718055966295651160180568695068359375) -/
def ln2Upper : Float := Float.ofBits 0x3FE62E42FEFA3000

/-- The lower part of the natural logarithm of 2, in the exponential's argument reduction. (0.28235290563031577122588448175013436025525412068e-12) -/
def ln2Lower : Float := Float.ofBits 0x3D53DE6AF278ECE6

/-- The largest argument whose exponential is finite. (7.09782712893384e+02) -/
def expOverflow : Float := Float.ofBits 0x40862E42FEFA39EF

/-- 1/6, a coefficient of the exponential's series. (1.6666666666666666667e-1) -/
def inv6 : Float := Float.ofBits 0x3FC5555555555555

/-- 1/24, a coefficient of the exponential's series. (4.1666666666666666667e-2) -/
def inv24 : Float := Float.ofBits 0x3FA5555555555555

/-- 1/120, a coefficient of the exponential's series. (8.3333333333333333333e-3) -/
def inv120 : Float := Float.ofBits 0x3F81111111111111

/-- 1/720, a coefficient of the exponential's series. (1.3888888888888888889e-3) -/
def inv720 : Float := Float.ofBits 0x3F56C16C16C16C17

/-- 1/5040, a coefficient of the exponential's series. (1.9841269841269841270e-4) -/
def inv5040 : Float := Float.ofBits 0x3F2A01A01A01A01A

/-- 1/40320, a coefficient of the exponential's series. (2.4801587301587301587e-5) -/
def inv40320 : Float := Float.ofBits 0x3EFA01A01A01A01A

/-- The upper part of the natural logarithm of 2, in the logarithm. (6.93147180369123816490e-01) -/
def ln2Hi : Float := Float.ofBits 0x3FE62E42FEE00000

/-- The lower part of the natural logarithm of 2, in the logarithm. (1.90821492927058770002e-10) -/
def ln2Lo : Float := Float.ofBits 0x3DEA39EF35793C76

/-- Coefficient 1 of the logarithm's series. (6.666666666666735130e-01) -/
def lg1 : Float := Float.ofBits 0x3FE5555555555593

/-- Coefficient 2 of the logarithm's series. (3.999999999940941908e-01) -/
def lg2 : Float := Float.ofBits 0x3FD999999997FA04

/-- Coefficient 3 of the logarithm's series. (2.857142874366239149e-01) -/
def lg3 : Float := Float.ofBits 0x3FD2492494229359

/-- Coefficient 4 of the logarithm's series. (2.222219843214978396e-01) -/
def lg4 : Float := Float.ofBits 0x3FCC71C51D8E78AF

/-- Coefficient 5 of the logarithm's series. (1.818357216161805012e-01) -/
def lg5 : Float := Float.ofBits 0x3FC7466496CB03DE

/-- Coefficient 6 of the logarithm's series. (1.531383769920937332e-01) -/
def lg6 : Float := Float.ofBits 0x3FC39A09D078C69F

/-- Coefficient 7 of the logarithm's series. (1.479819860511658591e-01) -/
def lg7 : Float := Float.ofBits 0x3FC2F112DF3E5244

/-- Half the square root of 2. (7.07106781186547524401e-01) -/
def halfSqrt2 : Float := Float.ofBits 0x3FE6A09E667F3BCD

/-- The first part of π/4 in the reduction of trigonometric arguments. (7.85398125648498535156e-1) -/
def pi4a : Float := Float.ofBits 0x3FE921FB40000000

/-- The second part of π/4 in the reduction of trigonometric arguments. (3.77489470793079817668e-8) -/
def pi4b : Float := Float.ofBits 0x3E64442D00000000

/-- The third part of π/4 in the reduction of trigonometric arguments. (2.69515142907905952645e-15) -/
def pi4c : Float := Float.ofBits 0x3CE8469898CC5170

/-- Coefficient 0 of the sine's series. (1.58962301576546568060e-10) -/
def sin0 : Float := Float.ofBits 0x3DE5D8FD1FD19CCD

def sin1 : Float := Float.ofBits 0xBE5AE5E5A9291F5D

/-- Coefficient 2 of the sine's series. (2.75573136213857245213e-6) -/
def sin2 : Float := Float.ofBits 0x3EC71DE3567D48A1

def sin3 : Float := Float.ofBits 0xBF2A01A019BFDF03

/-- Coefficient 4 of the sine's series. (8.33333333332211858878e-3) -/
def sin4 : Float := Float.ofBits 0x3F8111111110F7D0

def sin5 : Float := Float.ofBits 0xBFC5555555555548

def cos0 : Float := Float.ofBits 0xBDA8FA49A0861A9B

/-- Coefficient 1 of the cosine's series. (2.08757008419747316778e-9) -/
def cos1 : Float := Float.ofBits 0x3E21EE9D7B4E3F05

def cos2 : Float := Float.ofBits 0xBE927E4F7EAC4BC6

/-- Coefficient 3 of the cosine's series. (2.48015872888517045348e-5) -/
def cos3 : Float := Float.ofBits 0x3EFA01A019C844F5

def cos4 : Float := Float.ofBits 0xBF56C16C16C14F91

/-- Coefficient 5 of the cosine's series. (4.16666666666665929218e-2) -/
def cos5 : Float := Float.ofBits 0x3FA555555555554B

def tanP0 : Float := Float.ofBits 0xC0C992D8D24F3F38

/-- Coefficient P1 of the tangent's rational approximation. (1.15351664838587416140e6) -/
def tanP1 : Float := Float.ofBits 0x413199ECA5FC9DDD

def tanP2 : Float := Float.ofBits 0xC1711FEAD3299176

/-- Coefficient Q1 of the tangent's rational approximation. (1.36812963470692954678e4) -/
def tanQ1 : Float := Float.ofBits 0x40CAB8A5EEB36572

def tanQ2 : Float := Float.ofBits 0xC13427BC582ABC96

/-- Coefficient Q3 of the tangent's rational approximation. (2.50083801823357915839e7) -/
def tanQ3 : Float := Float.ofBits 0x4177D98FC2EAD8EF

def tanQ4 : Float := Float.ofBits 0xC189AFE03CBE5A31

def sinhP0 : Float := Float.ofBits 0xC1233FDEBA64BB4F

def sinhP1 : Float := Float.ofBits 0xC0F5F38B8605D22D

def sinhP2 : Float := Float.ofBits 0xC0A69C6C36DA2DFB

def sinhP3 : Float := Float.ofBits 0xC03A4E3DE8540779

def sinhQ0 : Float := Float.ofBits 0xC1233FDEBA64BB4F

/-- Coefficient Q1 of the hyperbolic sine's rational approximation. (0.1521517378790019070696485176e+5) -/
def sinhQ1 : Float := Float.ofBits 0x40CDB7963EAE91E1

def sinhQ2 : Float := Float.ofBits 0xC065B5B9FCD003BB

def tanhP0 : Float := Float.ofBits 0xBFEEDC5BAAFD6F4B

def tanhP1 : Float := Float.ofBits 0xC058D26A0E26682D

def tanhP2 : Float := Float.ofBits 0xC0993AC030580563

/-- Coefficient Q0 of the hyperbolic tangent's rational approximation. (1.12811678491632931402e2) -/
def tanhQ0 : Float := Float.ofBits 0x405C33F28A581B86

/-- Coefficient Q1 of the hyperbolic tangent's rational approximation. (2.23548839060100448583e3) -/
def tanhQ1 : Float := Float.ofBits 0x40A176FA0E5535FA

/-- Coefficient Q2 of the hyperbolic tangent's rational approximation. (4.84406305325125486048e3) -/
def tanhQ2 : Float := Float.ofBits 0x40B2EC102442040C

/-- The natural logarithm of 2^127. (8.8029691931113054295988e+01) -/
def maxLog : Float := Float.ofBits 0x405601E678FC457B

def atanP0 : Float := Float.ofBits 0xBFEC007FA1F72594

def atanP1 : Float := Float.ofBits 0xC03028545B6B807A

def atanP2 : Float := Float.ofBits 0xC052C08C36880273

def atanP3 : Float := Float.ofBits 0xC05EB8BF2D05BA25

def atanP4 : Float := Float.ofBits 0xC0503669FD28EC8E

/-- Coefficient Q0 of the arc tangent's rational approximation. (2.485846490142306297962e+01) -/
def atanQ0 : Float := Float.ofBits 0x4038DBC45B14603C

/-- Coefficient Q1 of the arc tangent's rational approximation. (1.650270098316988542046e+02) -/
def atanQ1 : Float := Float.ofBits 0x4064A0DD43B8FA25

/-- Coefficient Q2 of the arc tangent's rational approximation. (4.328810604912902668951e+02) -/
def atanQ2 : Float := Float.ofBits 0x407B0E18D2E2BE3B

/-- Coefficient Q3 of the arc tangent's rational approximation. (4.853903996359136964868e+02) -/
def atanQ3 : Float := Float.ofBits 0x407E563F13B049EA

/-- Coefficient Q4 of the arc tangent's rational approximation. (1.945506571482613964425e+02) -/
def atanQ4 : Float := Float.ofBits 0x4068519EFBBD62EC

/-- What π/2 exceeds its nearest double by. (6.123233995736765886130e-17) -/
def moreBits : Float := Float.ofBits 0x3C91A62633145C07

/-- The tangent of 3π/8. (2.41421356237309504880) -/
def tan3pio8 : Float := Float.ofBits 0x4003504F333F9DE6

/-- The double nearest π. (3.141592653589793) -/
def pi : Float := Float.ofBits 0x400921FB54442D18

/-- The double nearest π/2. (1.5707963267948966) -/
def halfPi : Float := Float.ofBits 0x3FF921FB54442D18

/-- The double nearest π/4. (0.7853981633974483) -/
def quarterPi : Float := Float.ofBits 0x3FE921FB54442D18

/-- The double nearest 3π/4. (2.356194490192345) -/
def threeQuarterPi : Float := Float.ofBits 0x4002D97C7F3321D2

/-- The double nearest 4/π. (1.2732395447351628) -/
def fourOverPi : Float := Float.ofBits 0x3FF45F306DC9C883

/-- The double nearest 1/ln 10. (0.4342944819032518) -/
def invLn10 : Float := Float.ofBits 0x3FDBCB7B1526E50E

/-! ## Exponential and logarithm -/

/-- The integer nearest a double, ties to the even one, in 32 bits: the
least 32-bit integer when it does not fit or is NaN. -/
def roundInt32 (x : Float) : Int :=
  match parts x with
  | .finite neg m e =>
    let n : Nat :=
      if e ≥ 0 then m * Nat.pow 2 e.toNat
      else
        let d := Nat.pow 2 (-e).toNat
        let q := m / d
        let r := m % d
        if 2 * r > d || (2 * r == d && q % 2 == 1) then q + 1 else q
    let n : Int := if neg then -(n : Int) else n
    if -2147483648 ≤ n ∧ n < 2147483648 then n else -2147483648
  | _ => -2147483648

/-- `e^x`.  With `k` the integer nearest `x / ln 2` and
`r = (x - k ln 2) / 16`, where `k ln 2` is taken off in two fused parts,
`e^r - 1` is a Taylor sum in fused Horner form, squared four times as
`y ↦ y (2 + y)` with the last step fused with the final `+ 1`, and the
result is scaled by `2^k` through the double with biased exponent
`k + 1023`: a result from `2^1024` on is infinite, one whose biased exponent
is zero is zero, and below that the scaling goes through the subnormals,
down to zero when `k + 1023 < -52`.  Beyond the overflow bound the result
is infinite. -/
def exp (x : Float) : Float :=
  if x.isNaN then x
  else if x.isInf then (if x > 0 then x else 0.0)
  else if x > expOverflow then inf
  else
    let k := roundInt32 (log2e * x)
    let kf := Float.ofInt k
    let r := fma (-ln2Upper) kf x
    let r := fma (-ln2Lower) kf r
    let r := r * 0.0625
    let p := [inv5040, inv720, inv120, inv24, inv6, 0.5, 1.0].foldl (fun p c => fma p r c) inv40320
    let y := p * r
    let y := (2.0 + y) * y
    let y := (2.0 + y) * y
    let y := (2.0 + y) * y
    let y := fma (2.0 + y) y 1.0
    let biased := k + 1023
    if biased < -52 then 0.0
    else if biased ≥ 2047 then inf
    else if biased = 0 then 0.0
    else ldexp y k

/-- The natural logarithm.  The argument's bits give `x = f · 2^k` with
`f` in `[1/2, 1)`, taken to `[√2/2, √2)`; with `s = (f - 1) / (f + 1)` a
rational approximation in `s` gives `log f`.  A zero gives minus infinity,
a negative number NaN, and infinity and NaN themselves. -/
def log (x : Float) : Float :=
  let bits := x.toBits
  if bits &&& 0x7FFFFFFFFFFFFFFF == 0 then -inf
  else if bits >>> 63 == 1 then nan
  else if bits ≥ 0x7FF0000000000000 then x
  else
    let f1 := Float.ofBits ((bits &&& 0x000FFFFFFFFFFFFF) ||| 0x3FE0000000000000)
    let k0 := Float.ofInt ((((bits >>> 52) &&& 0x7FF).toNat : Int) - 0x3FE)
    let (k, f1) := if f1 ≤ halfSqrt2 then (k0 - 1.0, f1 * 2.0) else (k0, f1)
    let f := f1 - 1.0
    let s := f / (2.0 + f)
    let s2 := s * s
    let s4 := s2 * s2
    let t1 := s2 * (lg1 + s4 * (lg3 + s4 * (lg5 + s4 * lg7)))
    let t2 := s4 * (lg2 + s4 * (lg4 + s4 * lg6))
    let r := t1 + t2
    let hfsq := 0.5 * f * f
    k * ln2Hi - ((hfsq - (s * (hfsq + r) + k * ln2Lo)) - f)

def log10 (x : Float) : Float := log x * invLn10

/-! ## Trigonometric functions -/

/-- The binary digits of 4/π in words of 64 bits: 4/π is the sum of the
`i`-th word times `2^(-64 i)`. -/
def fourOverPiWords : Array Nat := #[
  0x0000000000000001, 0x45F306DC9C882A53, 0xF84EAFA3EA69BB81, 0xB6C52B3278872083,
  0xFCA2C757BD778AC3, 0x6E48DC74849BA5C0, 0x0C925DD413A32439, 0xFC3BD63962534E7D,
  0xD1046BEA5D768909, 0xD338E04D68BEFC82, 0x7323AC7306A673E9, 0x3908BF177BF25076,
  0x3FF12FFFBC0B301F, 0xDE5E2316B414DA3E, 0xDA6CFD9E4F96136E, 0x9E8C7ECD3CBFD45A,
  0xEA4F758FD7CBE2F6, 0x7A0E73EF14A525D4, 0xD7F6BF623F1ABA10, 0xAC06608DF8F6D757]

def reduceThreshold : Float := 536870912.0

def word : Nat := 18446744073709551616

/-- The octant and the remainder of a large positive argument, by
Payne–Hanek reduction: the mantissa times the three words of 4/π that
matter gives the integer part modulo 8 in its top three bits and the
fraction below; an odd octant moves to the next one with the fraction less
one, and the fraction is scaled by π/4. -/
def trigReduce (x : Float) : Nat × Float :=
  if x < quarterPi then (0, x)
  else
    let bits := x.toBits.toNat
    let ex : Int := (((bits / Nat.pow 2 52) % 2048 : Nat) : Int) - 1075
    let ix := bits % Nat.pow 2 52 + Nat.pow 2 52
    let sh := (ex + 61).toNat
    let digit := sh / 64
    let shift := sh % 64
    let w (i : Nat) : Nat := fourOverPiWords.getD i 0
    let part (i : Nat) : Nat :=
      (w i * Nat.pow 2 shift) % word + w (i + 1) / Nat.pow 2 (64 - shift)
    let z0 := part digit
    let z1 := part (digit + 1)
    let z2 := part (digit + 2)
    let z2hi := z2 * ix / word
    let z1hi := z1 * ix / word
    let z1lo := z1 * ix % word
    let z0lo := z0 * ix % word
    let sum := z1lo + z2hi
    let lo := sum % word
    let hi := (z0lo + z1hi + sum / word) % word
    let j := hi / Nat.pow 2 61
    let hi := (hi * 8) % word + lo / Nat.pow 2 61
    let lz := if hi = 0 then 64 else 63 - Nat.log2 hi
    let e := 1023 - (lz + 1)
    let hi := (hi * Nat.pow 2 (lz + 1)) % word + lo / Nat.pow 2 (64 - (lz + 1))
    let hi := hi / Nat.pow 2 12 + e * Nat.pow 2 52
    let z := Float.ofBits hi.toUInt64
    let (j, z) := if j % 2 == 1 then ((j + 1) % 8, z - 1.0) else (j, z)
    (j, z * quarterPi)

/-- The octant of a nonnegative argument, rounded up to an even one, and
the remainder; below `2^29` by subtracting the octant's multiple of π/4 in
three parts. -/
def octant (x : Float) : Nat × Float :=
  if x ≥ reduceThreshold then trigReduce x
  else
    let j := (truncInt? (x * fourOverPi)).getD 0 |>.toNat
    let (j, y) := if j % 2 == 1 then (j + 1, Float.ofNat (j + 1)) else (j, Float.ofNat j)
    (j, ((x - y * pi4a) - y * pi4b) - y * pi4c)

def sinPoly (z : Float) : Float :=
  let zz := z * z
  z + z * zz * ((((((sin0 * zz) + sin1) * zz + sin2) * zz + sin3) * zz + sin4) * zz + sin5)

def cosPoly (z : Float) : Float :=
  let zz := z * z
  1.0 - 0.5 * zz + zz * zz * ((((((cos0 * zz) + cos1) * zz + cos2) * zz + cos3) * zz + cos4) * zz + cos5)

def sin (x : Float) : Float :=
  if x == 0 || x.isNaN then x
  else if x.isInf then nan
  else
    let (sign, x) := if x < 0 then (true, -x) else (false, x)
    let (j, z) := octant x
    let j := j % 8
    let (sign, j) := if j > 3 then (!sign, j - 4) else (sign, j)
    let y := if j == 1 || j == 2 then cosPoly z else sinPoly z
    if sign then -y else y

def cos (x : Float) : Float :=
  if x.isNaN || x.isInf then nan
  else
    let (j, z) := octant x.abs
    let j := j % 8
    let (sign, j) := if j > 3 then (true, j - 4) else (false, j)
    let sign := if j > 1 then !sign else sign
    let y := if j == 1 || j == 2 then sinPoly z else cosPoly z
    if sign then -y else y

def tan (x : Float) : Float :=
  if x == 0 || x.isNaN then x
  else if x.isInf then nan
  else
    let (sign, x) := if x < 0 then (true, -x) else (false, x)
    let (j, z) := octant x
    let zz := z * z
    let y := if zz > 1e-14 then
        z + z * (zz * (((tanP0 * zz) + tanP1) * zz + tanP2) /
          ((((zz + tanQ1) * zz + tanQ2) * zz + tanQ3) * zz + tanQ4))
      else z
    let y := if j % 4 ≥ 2 then -1.0 / y else y
    if sign then -y else y

/-! ## Hyperbolic functions -/

/-- The hyperbolic sine: half the exponential above 21, `(e^x - e^-x)/2`
above 1/2, and a rational approximation below. -/
def sinh (x : Float) : Float :=
  let (sign, x) := if x < 0 then (true, -x) else (false, x)
  let t :=
    if x > 21 then exp x * 0.5
    else if x > 0.5 then
      let ex := exp x
      (ex - 1.0 / ex) * 0.5
    else
      let sq := x * x
      let t := (((sinhP3 * sq + sinhP2) * sq + sinhP1) * sq + sinhP0) * x
      t / (((sq + sinhQ2) * sq + sinhQ1) * sq + sinhQ0)
  if sign then -t else t

/-- The hyperbolic cosine: half the exponential above 21, else
`(e^x + e^-x)/2`. -/
def cosh (x : Float) : Float :=
  let x := x.abs
  if x > 21 then exp x * 0.5
  else
    let ex := exp x
    (ex + 1.0 / ex) * 0.5

/-- The hyperbolic tangent: ±1 far from zero, `1 - 2/(e^(2|x|) + 1)` from
0.625 on, and a rational approximation below. -/
def tanh (x : Float) : Float :=
  let z := x.abs
  if z > 0.5 * maxLog then (if x < 0 then -1.0 else 1.0)
  else if z ≥ 0.625 then
    let s := exp (2.0 * z)
    let z := 1.0 - 2.0 / (s + 1.0)
    if x < 0 then -z else z
  else if x == 0 then x
  else
    let s := x * x
    x + x * s * ((tanhP0 * s + tanhP1) * s + tanhP2) / (((s + tanhQ0) * s + tanhQ1) * s + tanhQ2)

/-! ## Inverse trigonometric functions -/

def atanSeries (x : Float) : Float :=
  let z := x * x
  let z := z * ((((atanP0 * z + atanP1) * z + atanP2) * z + atanP3) * z + atanP4) /
    (((((z + atanQ0) * z + atanQ1) * z + atanQ2) * z + atanQ3) * z + atanQ4)
  x * z + x

def atanPositive (x : Float) : Float :=
  if x ≤ 0.66 then atanSeries x
  else if x > tan3pio8 then halfPi - atanSeries (1.0 / x) + moreBits
  else quarterPi + atanSeries ((x - 1.0) / (x + 1.0)) + 0.5 * moreBits

def atan (x : Float) : Float :=
  if x == 0 then x else if x > 0 then atanPositive x else -atanPositive (-x)

def copySign (x y : Float) : Float :=
  Float.ofBits ((x.toBits &&& 0x7FFFFFFFFFFFFFFF) ||| (y.toBits &&& 0x8000000000000000))

def signBit (x : Float) : Bool := x.toBits >>> 63 == 1

/-- The angle of the point `(x, y)`: the arc tangent of `y/x` moved to the
quadrant of the point, with the signed zeros and infinities on the axes
and diagonals. -/
def atan2 (y x : Float) : Float :=
  if y.isNaN || x.isNaN then nan
  else if y == 0 then
    if x ≥ 0 && !signBit x then copySign 0.0 y else copySign pi y
  else if x == 0 then copySign halfPi y
  else if x.isInf then
    if x > 0 then (if y.isInf then copySign quarterPi y else copySign 0.0 y)
    else (if y.isInf then copySign threeQuarterPi y else copySign pi y)
  else if y.isInf then copySign halfPi y
  else
    let q := atan (y / x)
    if x < 0 then (if q ≤ 0 then q + pi else q - pi) else q

def asin (x : Float) : Float :=
  if x == 0 then x
  else
    let (sign, x) := if x < 0 then (true, -x) else (false, x)
    if x > 1 then nan
    else
      let t := (1.0 - x * x).sqrt
      let t := if x > 0.7 then halfPi - atanPositive (t / x) else atanPositive (x / t)
      if sign then -t else t

def acos (x : Float) : Float := halfPi - asin x

/-! ## Powers -/

def isOddInt (x : Float) : Bool :=
  if x.abs ≥ 9007199254740992.0 then false
  else
    let (i, f) := modf x
    f == 0 && ((truncInt? i).getD 0) % 2 != 0

/-- Multiplies `a · 2^ae` by `x^i`, where `x = x1 · 2^xe`, by repeated
squaring of `x1` kept in `[1/2, 1)`; a binary exponent beyond `2^12` in
size stops the squaring and is left to the final scaling. -/
def powBits : Nat → Float → Int → Float → Int → Nat → Float × Int
  | 0, a, ae, _, _, _ => (a, ae)
  | fuel + 1, a, ae, x1, xe, i =>
    if i = 0 then (a, ae)
    else if xe < -4096 || 4096 < xe then (a, ae + xe)
    else
      let (a, ae) := if i % 2 == 1 then (a * x1, ae + xe) else (a, ae)
      let x1 := x1 * x1
      let xe := xe * 2
      let (x1, xe) := if x1 < 0.5 then (x1 + x1, xe - 1) else (x1, xe)
      powBits fuel a ae x1 xe (i / 2)

/-- `x^y`.  The special cases come first: a zero exponent or base one give
one, NaN gives NaN, zero and infinite bases and exponents follow the sign
rules, and the exponents ±1/2 are square roots.  A negative base with a
fractional exponent is NaN.  Otherwise the fractional part of `|y|`, taken
into `(-1/2, 1/2]`, goes through `e^(f log x)` and the integer part through
repeated squaring. -/
def pow (x y : Float) : Float :=
  if y == 0 || x == 1 then 1.0
  else if y == 1 then x
  else if x.isNaN || y.isNaN then nan
  else if x == 0 then
    if y < 0 then (if signBit x && isOddInt y then -inf else inf)
    else (if signBit x && isOddInt y then x else 0.0)
  else if y.isInf then
    if x == -1 then 1.0
    else if (x.abs < 1) == (y > 0) then 0.0
    else inf
  else if x.isInf then
    if x < 0 then
      -- the power of the reciprocal, a signed zero
      let x := 1.0 / x
      let y := -y
      if y < 0 then (if isOddInt y then -inf else inf)
      else (if isOddInt y then x else 0.0)
    else if y < 0 then 0.0
    else inf
  else if y == 0.5 then x.sqrt
  else if y == -0.5 then 1.0 / x.sqrt
  else
    let (yi, yf) := modf y.abs
    if yf != 0 && x < 0 then nan
    else if yi ≥ 9223372036854775808.0 then
      if x == -1 then 1.0
      else if (x.abs < 1) == (y > 0) then 0.0
      else inf
    else
      let (yi, yf) := if yf > 0.5 then (yi + 1.0, yf - 1.0) else (yi, yf)
      let a := if yf != 0 then exp (yf * log x) else 1.0
      let (x1, xe) := x.frExp
      let (a, ae) := powBits 64 a 0 x1 xe ((truncInt? yi).getD 0).toNat
      let (a, ae) := if y < 0 then (1.0 / a, -ae) else (a, ae)
      ldexp a ae

end MudClient.Number.Elementary
