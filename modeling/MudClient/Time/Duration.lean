/-
# Durations

A duration is a signed count of nanoseconds that fits 64 bits.  It is
written as a sequence of decimal numbers, each with an optional fraction and
a unit (`ns`, `us` or `µs`, `ms`, `s`, `m`, `h`), with an optional sign in
front: `300ms`, `-1.5h`, `2h45m`.  A lone `0` is zero.

The text of a duration puts hours, minutes and seconds with the fraction of
a second, leaving out leading zero units (`1h2m3.5s`, `4m0s`); below one
second it uses the largest of `ms`, `µs` and `ns` that keeps a whole part
(`1.5ms`), and zero is `0s`.
-/
import MudClient.Text.Bytes

namespace MudClient.Time

abbrev Duration := Int

def nanosecond : Nat := 1
def microsecond : Nat := 1000
def millisecond : Nat := 1000000
def second : Nat := 1000000000
def minute : Nat := 60 * second
def hour : Nat := 60 * minute

def limit : Nat := Nat.pow 2 63

/-- The text of a duration in an error message: between quotes, with
quotes and backslashes escaped and bytes outside printable ASCII written as
`\x` escapes. -/
def quoteText (s : String) : String :=
  let hex (n : Nat) : Char := "0123456789abcdef".toList.getD n '0'
  let bytes := (Bytes.ofString s).data.toList
  let body := bytes.flatMap fun b =>
    if b ≥ 0x80 || b < 0x20 then ['\\', 'x', hex (b.toNat / 16), hex (b.toNat % 16)]
    else if b == 34 || b == 92 then ['\\', Char.ofNat b.toNat]
    else [Char.ofNat b.toNat]
  String.ofList ('"' :: body ++ ['"'])

def unitOf : String → Option Nat
  | "ns" => some nanosecond
  | "us" | "µs" | "μs" => some microsecond
  | "ms" => some millisecond
  | "s" => some second
  | "m" => some minute
  | "h" => some hour
  | _ => none

def leadingInt (s : List Char) : Option (Nat × List Char) :=
  let rec go (x : Nat) : List Char → Option (Nat × List Char)
    | c :: cs =>
      if c.isDigit then
        if x > limit / 10 then none
        else
          let y := x * 10 + (c.toNat - 48)
          if y > limit then none else go y cs
      else some (x, c :: cs)
    | [] => some (x, [])
  go 0 s

/-- Reads the digits of a fraction, keeping those that fit: the value, the
power of ten it is scaled by, and the rest. -/
def leadingFraction (s : List Char) : Nat × Float × List Char :=
  let rec go (x : Nat) (scale : Float) (overflow : Bool) : List Char → Nat × Float × List Char
    | c :: cs =>
      if c.isDigit then
        if overflow then go x scale true cs
        else if x > (limit - 1) / 10 then go x scale true cs
        else
          let y := x * 10 + (c.toNat - 48)
          if y > limit then go x scale true cs else go y (scale * 10) false cs
      else (x, scale, c :: cs)
    | [] => (x, scale, [])
  go 0 1 false s

def parse (orig : String) : Except String Duration :=
  let invalid : Except String Duration := .error ("time: invalid duration " ++ quoteText orig)
  let (neg, s) := match orig.toList with
    | '-' :: cs => (true, cs)
    | '+' :: cs => (false, cs)
    | cs => (false, cs)
  if s == ['0'] then .ok 0
  else if s.isEmpty then invalid
  else
    let rec go (s : List Char) (d : Nat) (fuel : Nat) : Except String Nat :=
      match fuel with
      | 0 => .ok d
      | fuel + 1 =>
        match s with
        | [] => .ok d
        | c :: _ =>
          if !(c == '.' || c.isDigit) then .error ("time: invalid duration " ++ quoteText orig)
          else
            match leadingInt s with
            | none => .error ("time: invalid duration " ++ quoteText orig)
            | some (v, rest) =>
              let pre := rest.length != s.length
              let (f, scale, rest, post) := match rest with
                | '.' :: r =>
                  let (f, scale, r2) := leadingFraction r
                  (f, scale, r2, r2.length != r.length)
                | r => (0, 1, r, false)
              if !pre && !post then .error ("time: invalid duration " ++ quoteText orig)
              else
                let u := rest.takeWhile fun c => !(c == '.' || c.isDigit)
                let rest := rest.drop u.length
                if u.isEmpty then .error ("time: missing unit in duration " ++ quoteText orig)
                else
                  match unitOf (String.ofList u) with
                  | none => .error ("time: unknown unit " ++ quoteText (String.ofList u) ++ " in duration " ++ quoteText orig)
                  | some unit =>
                    if v > limit / unit then .error ("time: invalid duration " ++ quoteText orig)
                    else
                      let v := v * unit
                      let v := if f > 0 then v + (Float.ofNat f * (Float.ofNat unit / scale)).toUInt64.toNat else v
                      if v > limit then .error ("time: invalid duration " ++ quoteText orig)
                      else
                        let d := d + v
                        if d > limit then .error ("time: invalid duration " ++ quoteText orig)
                        else go rest d fuel
    match go s 0 (s.length + 1) with
    | .error e => .error e
    | .ok d =>
      if neg then .ok (-(d : Int))
      else if d > limit - 1 then invalid
      else .ok d

/-- The digits of a fraction `v / 10^prec` after the point, without
trailing zeros, and the whole part. -/
def fraction (v : Nat) (prec : Nat) : String × Nat :=
  let digits := (List.range prec).map fun i => (v / Nat.pow 10 i) % 10
  let kept := (digits.dropWhile (· == 0)).reverse
  let text := if kept.isEmpty then "" else "." ++ String.ofList (kept.map fun d => Char.ofNat (48 + d))
  (text, v / Nat.pow 10 prec)

def format (d : Duration) : String :=
  let neg := d < 0
  let u := d.natAbs
  let body :=
    if u < second then
      if u == 0 then "0s"
      else
        let (prec, unit) :=
          if u < microsecond then (0, "ns") else if u < millisecond then (3, "µs") else (6, "ms")
        let (frac, whole) := fraction u prec
        toString whole ++ frac ++ unit
    else
      let (frac, secs) := fraction u 9
      let s := toString (secs % 60) ++ frac ++ "s"
      let mins := secs / 60
      if mins == 0 then s
      else
        let s := toString (mins % 60) ++ "m" ++ s
        let hours := mins / 60
        if hours == 0 then s else toString hours ++ "h" ++ s
  if neg then "-" ++ body else body

end MudClient.Time
