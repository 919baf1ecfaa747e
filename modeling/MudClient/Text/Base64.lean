/-
# Base64

Bytes written with the standard base64 alphabet, `A`–`Z`, `a`–`z`, `0`–`9`,
`+` and `/`, four characters for every three bytes, the last group padded
with `=` to four characters.  Line breaks (`\r` and `\n`) anywhere are
skipped.  A text whose characters do not make whole groups, with a
character outside the alphabet, or with padding anywhere but at the end of
its last group, does not decode; bits the padding leaves over are dropped
whatever they are.
-/

namespace MudClient.Text

def base64Value (c : UInt8) : Option Nat :=
  if 65 ≤ c && c ≤ 90 then some (c.toNat - 65)
  else if 97 ≤ c && c ≤ 122 then some (c.toNat - 97 + 26)
  else if 48 ≤ c && c ≤ 57 then some (c.toNat - 48 + 52)
  else if c == 43 then some 62
  else if c == 47 then some 63
  else none

/-- The bytes of groups of four characters, the last of which may be
padded. -/
def base64Groups : List UInt8 → Option (List UInt8)
  | [] => some []
  | [a, b, 61, 61] => do
    let n := (← base64Value a) * 64 + (← base64Value b)
    pure [(n / 16).toUInt8]
  | [a, b, c, 61] => do
    let n := ((← base64Value a) * 64 + (← base64Value b)) * 64 + (← base64Value c)
    pure [(n / 1024).toUInt8, (n / 4 % 256).toUInt8]
  | a :: b :: c :: d :: rest => do
    let n := (((← base64Value a) * 64 + (← base64Value b)) * 64 + (← base64Value c)) * 64 +
      (← base64Value d)
    let tail ← base64Groups rest
    pure ((n / 65536).toUInt8 :: (n / 256 % 256).toUInt8 :: (n % 256).toUInt8 :: tail)
  | _ => none

def base64Decode (text : List UInt8) : Option (List UInt8) :=
  base64Groups (text.filter fun c => c != 10 && c != 13)

end MudClient.Text
