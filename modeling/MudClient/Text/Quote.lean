/-
# Quoted text

Texts named inside messages are written between double quotes.  Inside the
quotes a double quote and a backslash stand behind a backslash, printable
characters stand for themselves, the seven named controls are written `\a`,
`\b`, `\f`, `\n`, `\r`, `\t` and `\v`, other ASCII controls and DEL as `\x`
with two hex digits, and every other character that is not printable as `\u`
with four or `\U` with eight lower-case hex digits.
-/
import MudClient.Text.Printable

namespace MudClient.Text

def hexDigit (n : Nat) : Char :=
  if n < 10 then Char.ofNat (48 + n) else Char.ofNat (87 + n)

def hexPadded (width n : Nat) : List Char :=
  (List.range width).reverse.map fun i => hexDigit (n / Nat.pow 16 i % 16)

def escapeChar (c : Char) : List Char :=
  if c = '"' || c = '\\' then ['\\', c]
  else if isPrint c then [c]
  else match c with
    | '\x07' => ['\\', 'a']
    | '\x08' => ['\\', 'b']
    | '\x0c' => ['\\', 'f']
    | '\n' => ['\\', 'n']
    | '\r' => ['\\', 'r']
    | '\t' => ['\\', 't']
    | '\x0b' => ['\\', 'v']
    | _ =>
      if c.toNat < 0x20 || c.toNat == 0x7F then '\\' :: 'x' :: hexPadded 2 c.toNat
      else if c.toNat < 0x10000 then '\\' :: 'u' :: hexPadded 4 c.toNat
      else '\\' :: 'U' :: hexPadded 8 c.toNat

def quote (s : String) : String :=
  String.ofList ('"' :: (s.toList.flatMap escapeChar ++ ['"']))

end MudClient.Text
