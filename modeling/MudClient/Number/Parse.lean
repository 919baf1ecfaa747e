/-
# Reading numbers from text

Two readers, with the syntax of the usual library conversions:

* `parseInt?`: an optional sign and digits in a base from 2 to 36; base 0
  takes the base from a prefix (`0x`, `0o`, `0b`, or a leading `0` for
  octal, else decimal), and only then allows underscores between digits.
  The value must fit in 64 bits.
* `parseFloat?`: an optional sign and a decimal mantissa with an optional
  exponent, a hexadecimal mantissa with a binary exponent `p`, or `inf`,
  `infinity` or `nan` in any case.  The value is the double nearest to the
  exact value written; one that rounds beyond the largest double is refused,
  as is any text with something left over.

Both work on characters that stand for bytes, so text that is not ASCII is
simply not a number.
-/
import MudClient.Number.Decimal

namespace MudClient.Number

/-- The double nearest to `num / den`, negated when `neg`, of a positive
denominator; `none` when it rounds beyond the largest finite double.
Rounding is to nearest with ties to even, also among the subnormals. -/
def nearest (neg : Bool) (num den : Nat) : Option Float :=
  let sign : UInt64 := if neg then 0x8000000000000000 else 0
  if num = 0 || den = 0 then some (Float.ofBits sign)
  else
    let k0 : Int := (Nat.log2 num : Int) - (Nat.log2 den : Int)
    -- whether num / den ≥ 2 ^ p
    let atLeast (p : Int) : Bool :=
      if p ≥ 0 then num ≥ den * Nat.pow 2 p.toNat else num * Nat.pow 2 (-p).toNat ≥ den
    let k := if atLeast k0 then k0 else k0 - 1
    let scaleBy (s : Int) : Nat :=
      if s ≥ 0 then roundHalfEven (num * Nat.pow 2 s.toNat) den
      else roundHalfEven num (den * Nat.pow 2 (-s).toNat)
    if k ≥ -1022 then
      let q := scaleBy (52 - k)
      let (k, q) := if q = Nat.pow 2 53 then (k + 1, Nat.pow 2 52) else (k, q)
      if k > 1023 then none
      else some (Float.ofBits (sign ||| (((k + 1023).toNat.toUInt64) <<< 52) |||
        (q - Nat.pow 2 52).toUInt64))
    else
      some (Float.ofBits (sign ||| (scaleBy 1074).toUInt64))

def digitValue (c : Char) : Option Nat :=
  if '0' ≤ c && c ≤ '9' then some (c.toNat - '0'.toNat)
  else if 'a' ≤ c && c ≤ 'z' then some (c.toNat - 'a'.toNat + 10)
  else if 'A' ≤ c && c ≤ 'Z' then some (c.toNat - 'A'.toNat + 10)
  else none

def lowerAscii (c : Char) : Char :=
  if 'A' ≤ c && c ≤ 'Z' then Char.ofNat (c.toNat + 32) else c

/-- Whether the underscores of a number stand only between digits, or
between a base prefix and a digit. -/
def underscoresOk (s : List Char) : Bool :=
  let s := match s with | '+' :: r | '-' :: r => r | r => r
  let (hex, body, saw) : Bool × List Char × Char := match s with
    | '0' :: c :: r =>
      let l := lowerAscii c
      if l == 'b' || l == 'o' || l == 'x' then (l == 'x', r, '0') else (false, s, '^')
    | _ => (false, s, '^')
  let rec go (saw : Char) : List Char → Bool
    | [] => saw != '_'
    | c :: r =>
      if ('0' ≤ c && c ≤ '9') || (hex && 'a' ≤ lowerAscii c && lowerAscii c ≤ 'f') then go '0' r
      else if c == '_' then (if saw != '0' then false else go '_' r)
      else if saw == '_' then false
      else go '!' r
  go saw body

/-- Reads unsigned digits in a base, allowing underscores when `under`;
`none` on a bad digit or when the value passes `limit`. -/
def readDigits (base : Nat) (under : Bool) (limit : Nat) : List Char → Nat → Bool → Option (Nat × Bool)
  | [], n, u => some (n, u)
  | c :: r, n, u =>
    if c == '_' && under then readDigits base under limit r n true
    else match digitValue c with
      | some d => if d < base then
          let n := n * base + d
          if n > limit then none else readDigits base under limit r n u
        else none
      | none => none

/-- An integer in a base, as described above; `none` when the text is not
one or it does not fit in 64 bits. -/
def parseInt? (s : List Char) (base : Nat) : Option Int :=
  let (neg, body) := match s with
    | '+' :: r => (false, r) | '-' :: r => (true, r) | r => (false, r)
  let limit := if neg then Nat.pow 2 63 else Nat.pow 2 63 - 1
  if body.isEmpty then none
  else
    let (base, digits, under) : Nat × List Char × Bool :=
      if base = 0 then
        match body with
        | '0' :: c :: d :: r =>
          let l := lowerAscii c
          if l == 'b' then (2, d :: r, true)
          else if l == 'o' then (8, d :: r, true)
          else if l == 'x' then (16, d :: r, true)
          else (8, c :: d :: r, true)
        | '0' :: r => (8, r, true)
        | r => (10, r, true)
      else (base, body, false)
    if base < 2 || base > 36 then none
    else
      match readDigits base under limit digits 0 false with
      | some (n, u) =>
        if u && !underscoresOk s then none
        else some (if neg then -(n : Int) else n)
      | none => none

/-- The state of reading a mantissa: its digits as a natural, the number of
digits after the point, and what was seen. -/
structure Mantissa where
  value : Nat := 0
  fraction : Nat := 0
  sawDigit : Bool := false
  sawPoint : Bool := false
  sawUnderscore : Bool := false

/-- Reads a mantissa in a base, up to the first character that is not part
of it. -/
def readMantissa (base : Nat) (m : Mantissa) : List Char → Mantissa × List Char
  | [] => (m, [])
  | c :: r =>
    if c == '_' then readMantissa base { m with sawUnderscore := true } r
    else if c == '.' then
      if m.sawPoint then (m, c :: r) else readMantissa base { m with sawPoint := true } r
    else match digitValue c with
      | some d =>
        if d < base then
          readMantissa base { m with value := m.value * base + d, sawDigit := true,
                                     fraction := if m.sawPoint then m.fraction + 1 else m.fraction } r
        else (m, c :: r)
      | none => (m, c :: r)

def readExponentDigits : List Char → Nat → Bool → Nat × Bool × List Char
  | [], n, u => (n, u, [])
  | c :: r, n, u =>
    if c == '_' then readExponentDigits r n true
    else if '0' ≤ c && c ≤ '9' then
      readExponentDigits r (if n < 10000 then n * 10 + (c.toNat - '0'.toNat) else n) u
    else (n, u, c :: r)

/-- Reads a signed exponent whose first character after the sign is a
digit. -/
def readExponent (s : List Char) : Option (Int × Bool × List Char) :=
  let (neg, r) := match s with
    | '+' :: r => (false, r) | '-' :: r => (true, r) | r => (false, r)
  match r with
  | c :: _ =>
    if '0' ≤ c && c ≤ '9' then
      let (n, u, rest) := readExponentDigits r 0 false
      some (if neg then -(n : Int) else n, u, rest)
    else none
  | [] => none

def startsWithWord (s : List Char) (w : String) : Bool :=
  (s.take w.length).map lowerAscii == w.toList

def scaled (neg : Bool) (m : Nat) (base : Nat) (e : Int) : Option Float :=
  if m = 0 then nearest neg 0 1
  else if base = 10 && e + (digitCount m : Int) > 330 then none
  else if base = 10 && e + (digitCount m : Int) < -345 then nearest neg 0 1
  else if base = 2 && e + (Nat.log2 m : Int) > 1100 then none
  else if base = 2 && e + (Nat.log2 m : Int) < -1200 then nearest neg 0 1
  else if e ≥ 0 then nearest neg (m * Nat.pow base e.toNat) 1
  else nearest neg m (Nat.pow base (-e).toNat)

/-- A double read as described above, with whether it is in range: a
number beyond the largest finite double reads as the infinity of its sign,
out of range; none when the text is no number. -/
def readFloat? (s : List Char) : Option (Float × Bool) :=
  let (neg, hasSign, body) := match s with
    | '+' :: r => (false, true, r) | '-' :: r => (true, true, r) | r => (false, false, r)
  let special : Option Float :=
    if body.length = 3 && startsWithWord body "inf" then
      some (if neg then -(1.0 / 0.0) else 1.0 / 0.0)
    else if body.length = 8 && startsWithWord body "infinity" then
      some (if neg then -(1.0 / 0.0) else 1.0 / 0.0)
    else if !hasSign && body.length = 3 && startsWithWord body "nan" then some (0.0 / 0.0)
    else none
  match special with
  | some x => some (x, true)
  | none =>
    let (hex, digits) : Bool × List Char := match body with
      | '0' :: c :: r => if lowerAscii c == 'x' then (true, r) else (false, body)
      | _ => (false, body)
    let (m, rest) := readMantissa (if hex then 16 else 10) {} digits
    if !m.sawDigit then none
    else
      let expChar := if hex then 'p' else 'e'
      let exponent : Option (Int × Bool × List Char) :=
        match rest with
        | c :: r => if lowerAscii c == expChar then readExponent r else
            if hex then none else some (0, false, rest)
        | [] => if hex then none else some (0, false, [])
      match exponent with
      | none => none
      | some (e, u, rest) =>
        if !rest.isEmpty then none
        else if (m.sawUnderscore || u) && !underscoresOk s then none
        else
          let x := if hex then scaled neg m.value 2 (e - 4 * (m.fraction : Int))
            else scaled neg m.value 10 (e - (m.fraction : Int))
          match x with
          | some x => some (x, true)
          | none => some (if neg then -(1.0 / 0.0) else 1.0 / 0.0, false)

/-- A double, as described above; none when the text is no number or the
number is beyond the largest finite double. -/
def parseFloat? (s : List Char) : Option Float :=
  match readFloat? s with
  | some (x, true) => some x
  | _ => none

/-- Why a decimal integer could not be read: a character that is not a
digit, or a value outside 64 bits. -/
inductive IntError where
  | malformed | range
deriving DecidableEq, Repr

/-- Reads a decimal integer of 64 bits with an optional sign.  A value that
passes 64 unsigned bits is out of range at once, before any later bad
character is seen. -/
def readInt (s : List Char) : Except IntError Int :=
  let (neg, body) := match s with
    | '+' :: r => (false, r) | '-' :: r => (true, r) | r => (false, r)
  let rec go (n : Nat) : List Char → Except IntError Nat
    | [] => .ok n
    | c :: r =>
      if c.isDigit then
        let m := n * 10 + (c.toNat - 48)
        if m ≥ Nat.pow 2 64 then .error .range else go m r
      else .error .malformed
  if body.isEmpty then .error .malformed
  else
    match go 0 body with
    | .error e => .error e
    | .ok n =>
      if neg then (if n > Nat.pow 2 63 then .error .range else .ok (-(n : Int)))
      else if n ≥ Nat.pow 2 63 then .error .range else .ok n

end MudClient.Number
