/-
# White space

The white-space characters of Unicode: the ASCII controls from tab to carriage
return, the space, next-line U+0085, the no-break space, and the space
separators and line and paragraph separators beyond Latin-1.  Trimming removes
them from both ends of a text.
-/

namespace MudClient.Text

def isSpace (c : Char) : Bool :=
  let n := c.toNat
  if n < 0x100 then
    n == 0x20 || (0x09 ≤ n && n ≤ 0x0D) || n == 0x85 || n == 0xA0
  else
    n == 0x1680 || (0x2000 ≤ n && n ≤ 0x200A) || n == 0x2028 || n == 0x2029 ||
      n == 0x202F || n == 0x205F || n == 0x3000

def trimSpaceChars (cs : List Char) : List Char :=
  ((cs.dropWhile isSpace).reverse.dropWhile isSpace).reverse

def trimSpace (s : String) : String :=
  String.ofList (trimSpaceChars s.toList)

def trimLeftSpace (s : String) : String :=
  String.ofList (s.toList.dropWhile isSpace)

def isBlank (s : String) : Bool := s.toList.all isSpace

/-- The words of a text: its maximal runs of characters that are not white
space, in order. -/
def fields (s : String) : List String :=
  let rec go : List Char → List Char → List String
    | [], [] => []
    | [], w => [String.ofList w.reverse]
    | c :: cs, w =>
      if isSpace c then
        if w.isEmpty then go cs [] else String.ofList w.reverse :: go cs []
      else go cs (c :: w)
  go s.toList []

end MudClient.Text
