/-
# `string.format`

A format is text with directives `%[flags][width][.precision]verb`, the
flags being `#`, `0`, `+`, `-` and space, and `%%` standing for `%`.  Each
directive takes the next argument (an explicit `[n]` picks the n-th), and
the verb decides how it is written:

* a number under `d i b o O x X c q U` is written as the 64-bit integer it
  truncates to (in decimal, binary, octal, hexadecimal, as a character, as
  a quoted character, or as `U+XXXX`); under `e E f F g G` as a double;
  under `s q` as its text; under any other verb as an integer when it is
  one and as a double otherwise;
* a string under `d i` is written as itself when it stands for a number and
  as `0` otherwise; under `s v` as itself, `x X` as hex bytes, `q` quoted;
* any other value under `s v x X q` is written as its text.

A directive that cannot write its argument writes `%!verb(type=value)`; a
directive without an argument `%!verb(MISSING)`; arguments left over are
listed as `%!(EXTRA type=value, …)`.

Padding fills the width in characters, on the left unless `-` is given,
with zeros under `0` for numbers.
-/
import MudClient.Lua.World
import MudClient.Text.Quote

namespace MudClient.Lua

open MudClient.Number MudClient.Text

/-- The flags, width and precision of a directive. -/
structure Spec where
  minus : Bool := false
  plus : Bool := false
  sharp : Bool := false
  space : Bool := false
  zero : Bool := false
  wid : Option Nat := none
  prec : Option Nat := none

/-- The number of characters of a byte string, an invalid byte counting as
one. -/
def runeCount (b : Bytes) : Nat := b.chars.length

def padding (n : Nat) (zero : Bool) : Bytes :=
  ⟨Array.replicate n (if zero then 48 else 32)⟩

/-- Pads to the width: on the left with spaces (zeros under `0`) unless
`-`, then on the right with spaces. -/
def Spec.pad (sp : Spec) (b : Bytes) : Bytes :=
  match sp.wid with
  | none | some 0 => b
  | some w =>
    let n := w - runeCount b
    if sp.minus then b ++ padding n false else padding n sp.zero ++ b

def baseDigits (n base : Nat) (upper : Bool) : List Char :=
  let ds := Nat.toDigits base n
  if upper then ds.map Char.toUpper else ds

def Spec.integer (sp : Spec) (n : Int) (base : Nat) (upper : Bool) (verbO : Bool) : Bytes :=
  let neg := n < 0
  let u := n.natAbs
  match sp.prec with
  | some 0 =>
    if u = 0 then
      match sp.wid with
      | some w => padding w false
      | none => Bytes.empty
    else integerBody sp neg u base upper verbO 0
  | some p => integerBody sp neg u base upper verbO p
  | none =>
    let p := match sp.wid with
      | some w => if sp.zero then (if neg || sp.plus || sp.space then w - 1 else w) else 0
      | none => 0
    integerBody sp neg u base upper verbO p
where
  /-- The digits with at least `p` of them, the prefixes, the sign, and the
  padding with spaces. -/
  integerBody (sp : Spec) (neg : Bool) (u base : Nat) (upper verbO : Bool) (p : Nat) : Bytes :=
    let ds := baseDigits u base upper
    let ds := List.replicate (p - ds.length) '0' ++ ds
    let ds :=
      if sp.sharp then
        if base = 2 then '0' :: 'b' :: ds
        else if base = 8 then (if ds.head? == some '0' then ds else '0' :: ds)
        else if base = 16 then '0' :: (if upper then 'X' else 'x') :: ds
        else ds
      else ds
    let ds := if verbO then '0' :: 'o' :: ds else ds
    let ds := if neg then '-' :: ds else if sp.plus then '+' :: ds else if sp.space then ' ' :: ds else ds
    { sp with zero := false }.pad (Bytes.ofString (String.ofList ds))

/-- The bytes of the first `n` characters of a byte string, an invalid
byte counting as one character. -/
def runePrefix (b : Bytes) (n : Nat) : Bytes :=
  let rec go (i k : Nat) (fuel : Nat) : Nat :=
    match fuel with
    | 0 => i
    | fuel + 1 => if k = 0 || i ≥ b.size then i else go (i + max (decodeAt b.data i).2 1) (k - 1) fuel
  b.extract 0 (go 0 n (b.size + 1))

def Spec.truncate (sp : Spec) (s : Bytes) : Bytes :=
  match sp.prec with
  | some p => runePrefix s p
  | none => s

def Spec.string (sp : Spec) (s : Bytes) : Bytes := sp.pad (sp.truncate s)

/-- How a character is written inside a quoted string; invalid bytes as
`\x` escapes.  With `ascii`, every character beyond ASCII is escaped. -/
def quoteChars (b : Bytes) (ascii : Bool) : List Char :=
  let rec go (i : Nat) (fuel : Nat) : List Char :=
    match fuel with
    | 0 => []
    | fuel + 1 =>
      if i ≥ b.size then []
      else
        let (c, w) := decodeAt b.data i
        let here :=
          if c == '�' && w == 1 then '\\' :: 'x' :: hexPadded 2 (b.get i).toNat
          else if ascii && c.toNat ≥ 128 then
            if c.toNat < 0x10000 then '\\' :: 'u' :: hexPadded 4 c.toNat
            else '\\' :: 'U' :: hexPadded 8 c.toNat
          else escapeChar c
        here ++ go (i + w) fuel
  go 0 (b.size + 1)

/-- A string quoted with double quotes, or with back quotes under `#` when
it can be. -/
def Spec.quoted (sp : Spec) (s : Bytes) : Bytes :=
  let s := sp.truncate s
  let raw := s.isValidText && !(s.chars.any fun c => c == '\x60' || (c != '\t' && !isPrint c))
  if sp.sharp && raw then sp.pad (Bytes.ofString "`" ++ s ++ Bytes.ofString "`")
  else sp.pad (Bytes.ofString (String.ofList ('"' :: quoteChars s sp.plus ++ ['"'])))

def Spec.hexString (sp : Spec) (s : Bytes) (upper : Bool) : Bytes :=
  let s := match sp.prec with
    | some p => s.extract 0 p
    | none => s
  let bytes := s.data.toList
  let one (c : UInt8) : List Char :=
    let ds := hexPadded 2 c.toNat
    if upper then ds.map Char.toUpper else ds
  let body : List Char :=
    if sp.space then
      (bytes.map fun c => (if sp.sharp then ['0', if upper then 'X' else 'x'] else []) ++ one c)
        |>.intersperse [' '] |>.flatten
    else
      (if sp.sharp && !bytes.isEmpty then ['0', if upper then 'X' else 'x'] else []) ++
        bytes.flatMap one
  sp.pad (Bytes.ofString (String.ofList body))

/-- A character given by its code; codes that are no character give the
replacement character. -/
def runeOf (n : Int) : Char :=
  if n < 0 || n > 0x10FFFF || (0xD800 ≤ n && n ≤ 0xDFFF) then '�' else Char.ofNat n.toNat

def Spec.float (sp : Spec) (x : Float) (verb : Char) (defPrec : Option Nat) : Bytes :=
  let prec := match sp.prec with | some p => some p | none => defPrec
  let style : Style := match verb with
    | 'e' => .sci false | 'E' => .sci true | 'f' | 'F' => .pos | 'G' => .general true
    | _ => .general false
  let text := writeFloat x style prec
  let num : List Char := match text.toList with
    | '-' :: r => '-' :: r
    | '+' :: r => '+' :: r
    | r => '+' :: r
  let num := if sp.space && num.head? == some '+' && !sp.plus then ' ' :: num.tail else num
  if num.getD 1 ' ' == 'I' || num.getD 1 ' ' == 'N' then
    let num := if num.getD 1 ' ' == 'N' && !sp.space && !sp.plus then num.tail else num
    { sp with zero := false }.pad (Bytes.ofString (String.ofList num))
  else
    let num :=
      if sp.sharp then
        let digits0 : Int := match verb with
          | 'v' | 'g' | 'G' => (match prec with | some p => p | none => 6)
          | _ => 0
        let body := num.tail
        let (mant, tail) := match body.findIdx? (fun c => c == 'e' || c == 'E') with
          | some k => (body.take k, body.drop k)
          | none => (body, [])
        let hasPoint := mant.contains '.'
        let significant := (mant.dropWhile (fun c => c == '0' || c == '.')).filter (· != '.')
        let digits := digits0 - significant.length
        let (mant, digits) :=
          if hasPoint then (mant, digits)
          else (mant ++ ['.'], if mant == ['0'] then digits - 1 else digits)
        num.head! :: (mant ++ List.replicate digits.toNat '0' ++ tail)
      else num
    if sp.plus || num.head? != some '+' then
      match sp.wid with
      | some w =>
        if sp.zero && w > num.length then
          Bytes.ofString (String.ofList (num.head! :: (List.replicate (w - num.length) '0' ++ num.tail)))
        else sp.pad (Bytes.ofString (String.ofList num))
      | none => sp.pad (Bytes.ofString (String.ofList num))
    else sp.pad (Bytes.ofString (String.ofList num.tail))

def goTypeName : Value → String
  | .nil => "*lua.LNilType"
  | .bool _ => "lua.LBool"
  | .num _ => "lua.LNumber"
  | .str _ => "lua.LString"
  | .table _ => "*lua.LTable"
  | .func _ => "*lua.LFunction"
  | .thread _ => "*lua.LState"
  | .userdata _ => "*lua.LUserData"

def badVerb (verb : Char) (typeName : String) (value : Bytes) : Bytes :=
  Bytes.ofString ("%!" ++ String.singleton verb ++ "(" ++ typeName ++ "=") ++ value ++ Bytes.ofString ")"

def Spec.intVerb (sp : Spec) (n : Int) (verb : Char) : Bytes :=
  match verb with
  | 'v' | 'd' => sp.integer n 10 false false
  | 'b' => sp.integer n 2 false false
  | 'o' => sp.integer n 8 false false
  | 'O' => sp.integer n 8 false true
  | 'x' => sp.integer n 16 false false
  | 'X' => sp.integer n 16 true false
  | 'c' => sp.pad (Bytes.ofString (String.singleton (runeOf n)))
  | 'q' =>
    let c := runeOf n
    let inner : List Char :=
      if c == '\'' then ['\\', '\'']
      else if c == '"' then ['"']
      else escapeChar c
    sp.pad (Bytes.ofString (String.ofList ('\'' :: inner ++ ['\''])))
  | 'U' =>
    let u := if n < 0 then (n + 18446744073709551616).toNat else n.toNat
    let ds := (Nat.toDigits 16 u).map Char.toUpper
    let width := match sp.prec with | some p => max p 4 | none => 4
    let ds := List.replicate (width - ds.length) '0' ++ ds
    let shown : List Char :=
      if sp.sharp && u ≤ 0x10FFFF && !(0xD800 ≤ u && u ≤ 0xDFFF) && isPrint (Char.ofNat u) then
        [' ', '\'', Char.ofNat u, '\'']
      else []
    { sp with zero := false }.pad (Bytes.ofString ("U+" ++ String.ofList (ds ++ shown)))
  | _ => badVerb verb "int64" ({ sp with }.integer n 10 false false)

def Spec.floatVerb (sp : Spec) (x : Float) (verb : Char) : Bytes :=
  match verb with
  | 'v' => sp.float x 'g' none
  | 'g' | 'G' => sp.float x verb none
  | 'e' | 'E' | 'f' | 'F' => sp.float x verb (some 6)
  | _ => badVerb verb "float64" (sp.float x 'g' none)

def Spec.stringVerb (sp : Spec) (s : Bytes) (verb : Char) : Bytes :=
  match verb with
  | 'v' => if sp.sharp then { sp with sharp := false, plus := false }.quoted s else sp.string s
  | 's' => sp.string s
  | 'x' => sp.hexString s false
  | 'X' => sp.hexString s true
  | 'q' => sp.quoted s
  | _ => badVerb verb "string" (sp.string s)

/-- An argument under the address verb: values that are no reference are
refused and shown plainly; a reference shows where it lives, which this
model gives as a zero address. -/
def Spec.address (sp : Spec) (v : Value) : Bytes :=
  match v with
  | .num x => badVerb 'p' (goTypeName v) (sp.float x 'g' none)
  | .str s => badVerb 'p' (goTypeName v) (sp.string s)
  | .bool b => badVerb 'p' (goTypeName v) (sp.pad (Bytes.ofString (if b then "true" else "false")))
  | _ => sp.pad (Bytes.ofString "0x0")

def Spec.value (sp : Spec) (v : Value) (verb : Char) : Bytes :=
  if verb == 'T' then sp.string (Bytes.ofString (goTypeName v))
  else if verb == 'p' then sp.address v
  else
  match v with
  | .num x =>
    match verb with
    | 'q' | 's' => sp.stringVerb (Bytes.ofString (numberText x)) verb
    | 'b' | 'c' | 'd' | 'o' | 'x' | 'X' | 'U' => sp.intVerb (toInt64 x) verb
    | 'e' | 'E' | 'f' | 'F' | 'g' | 'G' => sp.floatVerb x verb
    | 'i' => sp.intVerb (toInt64 x) 'd'
    | _ =>
      -- under 'v' the sign and alternate flags change their meaning and do not apply to numbers
      let sp := if verb == 'v' then { sp with plus := false, sharp := false } else sp
      if isInt64 x then sp.intVerb (toInt64 x) verb else sp.floatVerb x verb
  | .str s =>
    match verb with
    | 'd' | 'i' =>
      match parseNumber s with
      | some _ => sp.stringVerb s 's'
      | none => sp.intVerb 0 'd'
    | _ => sp.stringVerb s verb
  | .bool b =>
    match verb with
    | 'v' => if sp.sharp then sp.pad v.text else sp.stringVerb v.text verb
    | 's' | 'x' | 'X' | 'q' => sp.stringVerb v.text verb
    | 't' => sp.pad (Bytes.ofString (if b then "true" else "false"))
    | _ => badVerb verb (goTypeName v) (Bytes.ofString (if b then "true" else "false"))
  | .nil =>
    match verb with
    | 'v' => if sp.sharp then Bytes.ofString "&lua.LNilType\x7b\x7d" else sp.stringVerb v.text verb
    | 's' | 'x' | 'X' | 'q' => sp.stringVerb v.text verb
    | _ => Bytes.ofString "&\x7b\x7d"
  | _ =>
    match verb with
    | 'v' | 's' | 'x' | 'X' | 'q' => sp.stringVerb v.text verb
    | _ => badVerb verb (goTypeName v) v.text

def extraText (v : Value) : Bytes :=
  Bytes.ofString (goTypeName v ++ "=") ++ ({} : Spec).value v 'v'

def readNum (f : Bytes) (i : Nat) : Option Nat × Nat :=
  let rec go (j : Nat) (n : Nat) (fuel : Nat) : Option Nat × Nat :=
    match fuel with
    | 0 => (some n, j)
    | fuel + 1 =>
      let c := f.get j
      if j < f.size && 48 ≤ c && c ≤ 57 then
        let n := n * 10 + (c.toNat - 48)
        if n > 1000000 then (none, f.size) else go (j + 1) n fuel
      else (if j = i then none else some n, j)
  go i 0 (f.size + 1)

/-- The state of writing a format: the output, the next argument, and
whether arguments were picked out of order. -/
structure Writer where
  out : Bytes := Bytes.empty
  argNum : Nat := 0
  reordered : Bool := false

/-- Reads an explicit argument index `[n]` at `i`: the new argument
number, the position after it, whether an index was read, and whether it
names an argument. -/
def readIndex (f : Bytes) (i : Nat) (argNum nargs : Nat) : Nat × Nat × Bool × Bool :=
  if i < f.size && f.get i == 91 then
    if f.size - i < 3 then (argNum, i + 1, false, false)
    else
      match (List.range (f.size - i - 1)).find? (fun k => f.get (i + 1 + k) == 93) with
      | none => (argNum, i + 1, false, false)
      | some k =>
        let close := i + 1 + k
        match readNum f (i + 1) with
        | (some n, j) =>
          if j == close then
            if n ≥ 1 && n ≤ nargs then (n - 1, close + 1, true, true)
            else (argNum, close + 1, true, false)
          else (argNum, close + 1, false, false)
        | (none, _) => (argNum, close + 1, false, false)
  else (argNum, i, false, true)

def formatBytes (f : Bytes) (args : Array Value) : Bytes :=
  let rec go (i : Nat) (w : Writer) (fuel : Nat) : Writer :=
    match fuel with
    | 0 => w
    | fuel + 1 =>
      if i ≥ f.size then w
      else if f.get i != 37 then
        let j := ((List.range (f.size - i)).find? (fun k => f.get (i + k) == 37)).map (i + ·) |>.getD f.size
        go j { w with out := w.out ++ f.extract i j } fuel
      else
        let rec flags (j : Nat) (sp : Spec) (fuel : Nat) : Nat × Spec :=
          match fuel with
          | 0 => (j, sp)
          | fuel + 1 =>
            match (f.get j).toNat with
            | 35 => flags (j + 1) { sp with sharp := true } fuel
            | 48 => flags (j + 1) { sp with zero := !sp.minus } fuel
            | 43 => flags (j + 1) { sp with plus := true } fuel
            | 45 => flags (j + 1) { sp with minus := true, zero := false } fuel
            | 32 => flags (j + 1) { sp with space := true } fuel
            | _ => (j, sp)
        let (j, sp) := flags (i + 1) {} (f.size + 1)
        let (argNum, j', afterIndex, good1) := readIndex f j w.argNum args.size
        let w := { w with argNum, reordered := w.reordered || f.get j == 91 }
        let j := j'
        let (sp, j, w, afterIndex, good2, badWidth) :=
          if j < f.size && f.get j == 42 then
            let w' := { w with argNum := w.argNum + 1 }
            if w.argNum < args.size then (sp, j + 1, w', false, true, true)
            else (sp, j + 1, w, false, true, true)
          else
            match readNum f j with
            | (some n, j') => ({ sp with wid := some n }, j', w, afterIndex, !afterIndex, false)
            | (none, j') => (sp, j', w, afterIndex, true, false)
        let (sp, j, w, afterIndex, good3, badPrec) :=
          if j + 1 < f.size && f.get j == 46 then
            let j := j + 1
            let good := !afterIndex
            let (argNum, j', afterIndex, good4) := readIndex f j w.argNum args.size
            let w := { w with argNum, reordered := w.reordered || f.get j == 91 }
            let j := j'
            if j < f.size && f.get j == 42 then
              let w' := if w.argNum < args.size then { w with argNum := w.argNum + 1 } else w
              (sp, j + 1, w', false, good && good4, true)
            else
              match readNum f j with
              | (some n, j') => ({ sp with prec := some n }, j', w, afterIndex, good && good4, false)
              | (none, j') => ({ sp with prec := some 0 }, j', w, afterIndex, good && good4, false)
          else (sp, j, w, afterIndex, true, false)
        let (argNum, j', _, good5) :=
          if !afterIndex then readIndex f j w.argNum args.size else (w.argNum, j, false, true)
        let w := { w with argNum, reordered := w.reordered || (!afterIndex && f.get j == 91) }
        let j := j'
        let pre : Bytes :=
          (if badWidth then Bytes.ofString "%!(BADWIDTH)" else Bytes.empty) ++
          (if badPrec then Bytes.ofString "%!(BADPREC)" else Bytes.empty)
        let w := { w with out := w.out ++ pre }
        if j ≥ f.size then { w with out := w.out ++ Bytes.ofString "%!(NOVERB)" }
        else
          let (verb, size) := decodeAt f.data j
          let j := j + size
          if verb == '%' then go j { w with out := w.out ++ Bytes.ofString "%" } fuel
          else if !(good1 && good2 && good3 && good5) then
            go j { w with out := w.out ++ Bytes.ofString ("%!" ++ String.singleton verb ++ "(BADINDEX)") } fuel
          else if w.argNum ≥ args.size then
            go j { w with out := w.out ++ Bytes.ofString ("%!" ++ String.singleton verb ++ "(MISSING)") } fuel
          else
            let v := args.getD w.argNum .nil
            go j { w with out := w.out ++ sp.value v verb, argNum := w.argNum + 1 } fuel
  let w := go 0 {} (f.size + 1)
  if !w.reordered && w.argNum < args.size then
    let extras := (args.extract w.argNum args.size).toList.map extraText
    w.out ++ Bytes.ofString "%!(EXTRA " ++
      (extras.intersperse (Bytes.ofString ", ")).foldl (· ++ ·) Bytes.empty ++ Bytes.ofString ")"
  else w.out

def directiveCount (f : Bytes) : Int :=
  let percents := (f.data.toList.filter (· == 37)).length
  let rec pairs (l : List UInt8) : Nat :=
    match l with
    | 37 :: 37 :: r => 1 + pairs r
    | _ :: r => pairs r
    | [] => 0
  (percents : Int) - pairs f.data.toList

end MudClient.Lua
