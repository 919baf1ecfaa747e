/-
# Numbers as Lua text

A number is written as a 64-bit integer when converting it to one and back
gives it again (so `-0` is written `0`, and `2^63` is not an integer here),
and otherwise in the shortest form that reads back as the same double.

A string stands for a number when, stripped of spaces, tabs and newlines at
both ends, it is an integer with an optional base prefix, or else a double.
`tonumber` is stricter: text with a point is read as a double, and text
without one as an integer in the given base (by default 10, or 16 after a
`0x` prefix; base 0 reads the base from a `0b`, `0o`, `0x` or `0` prefix and
allows underscores between digits).
-/
import MudClient.Number.Parse
import MudClient.Number.Format
import MudClient.Text.Bytes

namespace MudClient.Lua

open MudClient.Number

def numberText (x : Float) : String :=
  if isInt64 x then writeInt (toInt64 x) else writeShortest x

def byteChars (b : Bytes) : List Char := b.data.toList.map fun c => Char.ofNat c.toNat

def trimChars (cut : List Char) (s : List Char) : List Char :=
  ((s.dropWhile (cut.contains ·)).reverse.dropWhile (cut.contains ·)).reverse

def parseNumber (s : Bytes) : Option Float :=
  let t := trimChars [' ', '\t', '\n'] (byteChars s)
  match parseInt? t 0 with
  | some n => some (Float.ofInt n)
  | none => parseFloat? t

def readNumber (s : Bytes) (base : Option Int) : Option Float :=
  let t := trimChars [' ', '\n', '\t'] (byteChars s)
  if t.contains '.' then parseFloat? t
  else
    let (b, t) : Int × List Char := match base with
      | some b => (b, t)
      | none =>
        match t with
        | '0' :: c :: r => if lowerAscii c == 'x' then (16, r) else (10, t)
        | _ => (10, t)
    if b ≠ 0 && (b < 2 || b > 36) then none
    else (parseInt? t b.toNat).map Float.ofInt

end MudClient.Lua
