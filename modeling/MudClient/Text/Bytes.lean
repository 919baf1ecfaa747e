/-
# Byte strings

Script strings are sequences of bytes: they may hold any byte, and their
length counts bytes.  Text is read from them as UTF-8, where each byte that
does not begin a well-formed sequence (a stray continuation byte, a
truncated or overlong sequence, a surrogate or a code point beyond U+10FFFF)
reads as one replacement character U+FFFD.

## Main statements

* `decodeAt`: the character at a byte offset and the number of bytes it
  takes (one for a byte that reads as the replacement character).
* `Bytes.toText`: the text of a byte string.
-/

namespace MudClient

/-- A string of bytes. -/
structure Bytes where
  data : Array UInt8
deriving DecidableEq, Hashable, Inhabited, Repr

namespace Bytes

def empty : Bytes := ⟨#[]⟩

def ofString (s : String) : Bytes := ⟨s.toUTF8.data⟩

instance : Coe String Bytes := ⟨ofString⟩

def size (b : Bytes) : Nat := b.data.size

def get (b : Bytes) (i : Nat) : UInt8 := b.data.getD i 0

def append (a b : Bytes) : Bytes := ⟨a.data ++ b.data⟩

instance : Append Bytes := ⟨append⟩

def extract (b : Bytes) (i j : Nat) : Bytes := ⟨b.data.extract i j⟩

/-- Whether the first string comes before the second byte by byte, a
proper prefix coming first. -/
def lt (a b : Bytes) : Bool := compareOfLessAndEq a.data.toList b.data.toList == .lt

def ofByte (c : UInt8) : Bytes := ⟨#[c]⟩

def drop (b : Bytes) (i : Nat) : Bytes := b.extract i b.size

/-- The first offset from `k` on whose byte satisfies `p`; the end of the
string when there is none, or `k` itself when it lies past the end. -/
def findFrom (b : Bytes) (p : UInt8 → Bool) (k : Nat) : Nat :=
  if k < b.size then (if p (b.get k) then k else b.findFrom p (k + 1)) else k
termination_by b.size - k

end Bytes

def isContinuation (c : UInt8) : Bool := c &&& 0xC0 == 0x80

/-- The character at offset `i` of a byte array and the number of bytes it
takes; a byte that starts no well-formed sequence gives the replacement
character and a width of one. -/
def decodeAt (b : Array UInt8) (i : Nat) : Char × Nat :=
  let bad : Char × Nat := ('�', 1)
  let at_ (k : Nat) : Nat := (b.getD (i + k) 0).toNat
  let inRange (k lo hi : Nat) : Bool := i + k < b.size && lo ≤ at_ k && at_ k ≤ hi
  let c0 := at_ 0
  if c0 < 0x80 then (Char.ofNat c0, 1)
  else if c0 < 0xC2 then bad
  else if c0 < 0xE0 then
    if inRange 1 0x80 0xBF then (Char.ofNat ((c0 &&& 0x1F) * 64 + (at_ 1 &&& 0x3F)), 2) else bad
  else if c0 < 0xF0 then
    let lo := if c0 = 0xE0 then 0xA0 else 0x80
    let hi := if c0 = 0xED then 0x9F else 0xBF
    if inRange 1 lo hi && inRange 2 0x80 0xBF then
      (Char.ofNat ((c0 &&& 0x0F) * 4096 + (at_ 1 &&& 0x3F) * 64 + (at_ 2 &&& 0x3F)), 3)
    else bad
  else if c0 < 0xF5 then
    let lo := if c0 = 0xF0 then 0x90 else 0x80
    let hi := if c0 = 0xF4 then 0x8F else 0xBF
    if inRange 1 lo hi && inRange 2 0x80 0xBF && inRange 3 0x80 0xBF then
      (Char.ofNat ((c0 &&& 0x07) * 262144 + (at_ 1 &&& 0x3F) * 4096 + (at_ 2 &&& 0x3F) * 64 +
        (at_ 3 &&& 0x3F)), 4)
    else bad
  else bad

def decodeFrom (b : Array UInt8) (i : Nat) : List Char :=
  if i < b.size then
    let (c, w) := decodeAt b i
    have : w = 0 ∨ 0 < w := Nat.eq_zero_or_pos w
    c :: decodeFrom b (i + max w 1)
  else []
termination_by b.size - i
decreasing_by omega

namespace Bytes

def chars (b : Bytes) : List Char := decodeFrom b.data 0

def toText (b : Bytes) : String := String.ofList b.chars

def isValidText (b : Bytes) : Bool := ofString b.toText == b

end Bytes

end MudClient
