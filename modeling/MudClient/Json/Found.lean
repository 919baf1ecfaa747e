/-
# Values found in JSON text

A value found in JSON text is kept as its raw text, with its kind and, for
strings and numbers, the string and the number it stands for.  The readers
here are lenient scanners: they never reject a text but read as far as it
allows, so that a value can be picked out of text that is not well-formed
JSON, and they skip whatever cannot start a value.

* `parseText`: the value a whole text starts with.
* `Found.entries`: the keys and values of an object, or the values of an
  array, in order; a single value that is neither is its own one entry.
* `Found.value`: the host value a value stands for, the first of repeated
  keys winning.
* `Found.text`: the text a value reads as.
* `valid`: whether a text is exactly one well-formed JSON value.
* `quoteText`: a text as a JSON string literal that is safe to embed in
  markup.
-/
import MudClient.Text.Bytes
import MudClient.Number.Parse
import MudClient.Number.Format

namespace MudClient.JsonPath

open MudClient.Number

/-- The kind of a value found. -/
inductive Kind where
  | null | false | number | string | true | json
deriving DecidableEq, Repr, Inhabited

/-- A value found in JSON text: its kind, its raw text, and for strings and
numbers the string and number it stands for. -/
structure Found where
  kind : Kind := .null
  raw : Bytes := Bytes.empty
  str : Bytes := Bytes.empty
  num : Float := 0
deriving Inhabited

def Found.exists (f : Found) : Bool := f.kind != .null || f.raw.size > 0

def Found.isArray (f : Found) : Bool := f.kind == .json && f.raw.get 0 == 91

def Found.isObject (f : Found) : Bool := f.kind == .json && f.raw.get 0 == 123

/-- A host value a JSON value stands for. -/
inductive Value where
  | null
  | bool (b : Bool)
  | num (x : Float)
  | str (s : Bytes)
  | arr (items : Array Value)
  | obj (entries : Array (Bytes × Value))
deriving Inhabited

/-! ## Scanning -/

def isDigit (c : UInt8) : Bool := 48 ≤ c && c ≤ 57

/-- Whether a byte starts a number to the scanner: a sign, a digit, or the
first letter of an infinity or a NaN. -/
def startsNumber (c : UInt8) : Bool :=
  c == 43 || c == 45 || isDigit c || c == 105 || c == 73 || c == 78

/-- Whether a byte starts a value to the scanner: a quote, a bracket, a
brace, the first letter of a literal, or the start of a number. -/
def startsValue (c : UInt8) : Bool :=
  c == 34 || c == 123 || c == 91 || c == 110 || c == 116 || c == 102 || startsNumber c

/-- Whether the value at `k` is a literal (`true`, `false`, `null`) rather
than a number: an `n` starts a number (a NaN) when a byte other than `u`
follows it. -/
def startsLiteral (j : Bytes) (k : Nat) : Bool :=
  let c := j.get k
  c == 116 || c == 102 || (c == 110 && !(k + 1 < j.size && j.get (k + 1) != 117))

def literalKind (c : UInt8) : Kind :=
  if c == 116 then .true else if c == 102 then .false else .null

/-- The number of backslashes in a row that end at position `k`, going no
lower than position `lo`. -/
def backslashRun (j : Bytes) (lo : Nat) : Nat → Nat
  | 0 => if lo = 0 && j.get 0 == 92 then 1 else 0
  | k + 1 => if lo ≤ k + 1 && j.get (k + 1) == 92 then backslashRun j lo k + 1 else 0

/-- Whether position `k` holds the quote that closes a string whose text
starts at `s`: a quote not preceded by an odd run of backslashes. -/
def closesString (j : Bytes) (s k : Nat) : Bool :=
  j.get k == 34 && !(k ≥ 1 && j.get (k - 1) == 92 && backslashRun j s (k - 2) % 2 == 0)

/-- The closing quote of a string whose text starts at `s`, looking from
`k` on, and whether a backslash came before it; the end of the text when the
string is not closed. -/
def stringEnd (j : Bytes) (s : Nat) (k : Nat) (esc : Bool) : Nat × Bool :=
  if k < j.size then
    if closesString j s k then (k, esc) else stringEnd j s (k + 1) (esc || j.get k == 92)
  else (k, esc)
termination_by j.size - k

/-- The string whose text starts at `s`, after its opening quote: the
position after its closing quote, its raw text with both quotes, whether a
backslash occurs in it, and whether it is closed.  An open string runs to
the end of the text. -/
def stringAt (j : Bytes) (s : Nat) : Nat × Bytes × Bool × Bool :=
  let (e, esc) := stringEnd j s s false
  if e < j.size then (e + 1, j.extract (s - 1) (e + 1), esc, true)
  else (e, j.extract (s - 1) j.size, esc, false)

/-- The number starting at `i` and the position after it: it runs up to a
blank, a comma or a closing bracket or brace. -/
def numberAt (j : Bytes) (i : Nat) : Nat × Bytes :=
  let e := j.findFrom (fun c => c ≤ 32 || c == 44 || c == 93 || c == 125) (i + 1)
  (e, j.extract i e)

/-- The literal starting at `i` and the position after it: it runs up to
the first byte that is not a lower-case letter. -/
def literalAt (j : Bytes) (i : Nat) : Nat × Bytes :=
  let e := j.findFrom (fun c => c < 97 || c > 122) (i + 1)
  (e, j.extract i e)

/-- Where a group opened before `k` ends, `depth` groups deep, inside the
string whose text starts at `str` if there is one: after the bracket, brace
or parenthesis that closes it.  An unclosed group ends at the end of the
text, and one past it when a string is left open. -/
def groupEnd (j : Bytes) (depth : Nat) (str : Option Nat) (k : Nat) : Nat :=
  if k < j.size then
    match str with
    | some s => groupEnd j depth (if closesString j s k then none else some s) (k + 1)
    | none =>
      let c := j.get k
      if c == 34 then groupEnd j depth (some (k + 1)) (k + 1)
      else if c == 123 || c == 91 || c == 40 then groupEnd j (depth + 1) none (k + 1)
      else if c == 125 || c == 93 || c == 41 then
        if depth ≤ 1 then k + 1 else groupEnd j (depth - 1) none (k + 1)
      else groupEnd j depth none (k + 1)
  else if str.isSome then k + 1 else k
termination_by j.size - k

/-- The array or object opening at `i`, taken whole by its brackets and
quotes, and the position after it. -/
def squashAt (j : Bytes) (i : Nat) : Nat × Bytes :=
  let e := groupEnd j 1 none (i + 1)
  (e, j.extract i e)

/-- Where the value a text starts with ends, from `k` on, `depth` groups
deep: after the bracket that closes the first group, or after the quote
that closes a string standing at depth zero; the end of the text when it
does not close. -/
def prefixEnd (j : Bytes) (depth : Nat) (str : Option Nat) (k : Nat) : Nat :=
  if k < j.size then
    match str with
    | some s =>
      if closesString j s k then (if depth == 0 then k + 1 else prefixEnd j depth none (k + 1))
      else prefixEnd j depth str (k + 1)
    | none =>
      let c := j.get k
      if c == 34 then prefixEnd j depth (some (k + 1)) (k + 1)
      else if c == 123 || c == 91 || c == 40 then prefixEnd j (depth + 1) none (k + 1)
      else if c == 125 || c == 93 || c == 41 then
        if depth ≤ 1 then k + 1 else prefixEnd j (depth - 1) none (k + 1)
      else prefixEnd j depth none (k + 1)
  else j.size
termination_by j.size - k

/-- The value a text starts with, by brackets and quotes alone: a leading
string up to its closing quote, otherwise the group the first byte opens. -/
def squashPrefix (j : Bytes) : Bytes :=
  j.extract 0 (if j.get 0 == 34 then prefixEnd j 0 none 0 else prefixEnd j 1 none 1)

def trimBlank (s : Bytes) : Bytes :=
  let a := s.findFrom (fun c => c > 32) 0
  let b := (List.range s.size).foldl (fun e k => if k ≥ a && s.get k > 32 then k + 1 else e) a
  s.extract a b

/-! ## Strings -/

def hexValue (s : Bytes) (i : Nat) : Nat :=
  let ds := (List.range 4).map fun k => s.get (i + k)
  let digit (c : UInt8) : Option Nat :=
    if 48 ≤ c && c ≤ 57 then some (c.toNat - 48)
    else if 97 ≤ c && c ≤ 102 then some (c.toNat - 87)
    else if 65 ≤ c && c ≤ 70 then some (c.toNat - 55)
    else none
  match ds.mapM digit with
  | some [a, b, c, d] => ((a * 16 + b) * 16 + c) * 16 + d
  | _ => 0

/-- The bytes of a code point in UTF-8; surrogates and values past the
last code point give the replacement character. -/
def encodePoint (n : Nat) : Bytes :=
  if n ≥ 0xD800 && n ≤ 0xDFFF || n > 0x10FFFF then Bytes.ofString "�"
  else Bytes.ofString (String.singleton (Char.ofNat n))

/-- The text of a string's escaped contents: escapes are resolved, a
surrogate pair makes one code point, and the text stops at a control
character or a bad escape. -/
def unescape (s : Bytes) : Bytes :=
  let rec go (i : Nat) (out : Bytes) (fuel : Nat) : Bytes :=
    match fuel with
    | 0 => out
    | fuel + 1 =>
      if i ≥ s.size then out
      else
        let c := s.get i
        if c < 32 then out
        else if c != 92 then go (i + 1) (out ++ Bytes.ofByte c) fuel
        else if i + 1 ≥ s.size then out
        else
          let e := s.get (i + 1)
          let simple : Option UInt8 :=
            if e == 92 then some 92 else if e == 47 then some 47 else if e == 98 then some 8
            else if e == 102 then some 12 else if e == 110 then some 10 else if e == 114 then some 13
            else if e == 116 then some 9 else if e == 34 then some 34 else none
          match simple with
          | some b => go (i + 2) (out ++ Bytes.ofByte b) fuel
          | none =>
            if e != 117 then out
            else if i + 6 > s.size then out
            else
              let r := hexValue s (i + 2)
              if 0xD800 ≤ r && r < 0xE000 && i + 12 ≤ s.size && s.get (i + 6) == 92 && s.get (i + 7) == 117 then
                let r2 := hexValue s (i + 8)
                let point :=
                  if r < 0xDC00 && 0xDC00 ≤ r2 && r2 < 0xE000 then (r - 0xD800) * 0x400 + (r2 - 0xDC00) + 0x10000
                  else 0xFFFD
                go (i + 12) (out ++ encodePoint point) fuel
              else go (i + 6) (out ++ encodePoint r) fuel
  go 0 Bytes.empty (s.size + 1)

def Found.ofString (raw : Bytes) (esc : Bool) : Found :=
  let inner := raw.extract 1 (raw.size - 1)
  { kind := .string, raw, str := if esc then unescape inner else inner }

/-- A number's value as the host's float reader gives it: the nearest
double, an infinity past the largest one, and zero when the text is no
number. -/
def numberValue (raw : Bytes) : Float :=
  match readFloat? (raw.data.toList.map fun c => Char.ofNat c.toNat) with
  | some (x, _) => x
  | none => 0

def Found.ofNumber (raw : Bytes) : Found := { kind := .number, raw, num := numberValue raw }

/-- The string starting with the quote at `k`, read to the end of the text
when it is not closed. -/
def stringFrom (j : Bytes) (k : Nat) : Found :=
  match stringAt j (k + 1) with
  | (_, raw, esc, true) => Found.ofString raw esc
  | (_, _, esc, false) =>
    let rest := j.drop k
    { kind := .string, raw := rest, str := if esc then unescape (rest.drop 1) else rest.drop 1 }

/-! ## Reading values -/

/-- The value a whole text starts with, after blanks: an array or object
takes the rest of the text; nothing when the first byte starts no value. -/
def parseText (j : Bytes) : Found :=
  let k := j.findFrom (fun c => c > 32) 0
  if k ≥ j.size then {}
  else
    let c := j.get k
    if c == 123 || c == 91 then { kind := .json, raw := j.drop k }
    else if c == 34 then stringFrom j k
    else if startsLiteral j k then
      { kind := literalKind c, raw := (literalAt j k).2 }
    else if startsNumber c || c == 110 then Found.ofNumber (numberAt j k).2
    else {}

/-- The first value from position `k` on, skipping whatever cannot start
one, and the position after it; none when there is none or its string is
not closed. -/
def anyFrom (j : Bytes) (k : Nat) : Option (Found × Nat) :=
  let v := j.findFrom startsValue k
  if v ≥ j.size then none
  else
    let c := j.get v
    if c == 123 || c == 91 then
      let (e, raw) := squashAt j v
      some ({ kind := .json, raw }, e)
    else if c == 34 then
      match stringAt j (v + 1) with
      | (e, raw, esc, true) => some (Found.ofString raw esc, e)
      | _ => none
    else if startsLiteral j v then
      let (e, raw) := literalAt j v
      some ({ kind := literalKind c, raw }, e)
    else
      let (e, raw) := numberAt j v
      some (Found.ofNumber raw, e)

/-- The entries of an array or object text from position `k` on: for an
object each key (a string) and its value, for an array each value with its
index as key. -/
def entriesFrom (j : Bytes) (obj : Bool) : Nat → Nat → Array (Found × Found) → Nat →
    Array (Found × Found)
  | _, _, acc, 0 => acc
  | k, idx, acc, fuel + 1 =>
    if k ≥ j.size then acc
    else if obj && j.get k != 34 then entriesFrom j obj (k + 1) idx acc fuel
    else
      let key : Option (Found × Nat) :=
        if obj then
          match stringAt j (k + 1) with
          | (e, raw, esc, true) => some (Found.ofString raw esc, e)
          | _ => none
        else some ({ kind := .number, num := Float.ofNat idx }, k)
      match key with
      | none => acc
      | some (key, e) =>
        let v := j.findFrom (fun c => !(c ≤ 32 || c == 44 || c == 58)) e
        match anyFrom j v with
        | none => acc
        | some (value, e) => entriesFrom j obj (e + 1) (idx + 1) (acc.push (key, value)) fuel

/-- The entries of a value: the keys and values of an object or the
indexed values of an array; a value of another kind is its own one entry,
without a key. -/
def Found.entries (t : Found) : Array (Found × Found) :=
  if !t.exists then #[]
  else if t.kind != .json then #[({}, t)]
  else
    let j := t.raw
    let k := j.findFrom (fun c => c > 32) 0
    if k ≥ j.size then #[]
    else if j.get k == 123 then entriesFrom j true (k + 1) 0 #[] (j.size + 1)
    else if j.get k == 91 then entriesFrom j false (k + 1) 0 #[] (j.size + 1)
    else #[]

/-- The members of an array or object text from position `k` on, as the
host reads them: numbers start with a digit or a minus, every `n` is a
null, and whatever starts no member is skipped. -/
def membersFrom (j : Bytes) : Nat → Array Found → Nat → Array Found
  | _, acc, 0 => acc
  | k, acc, fuel + 1 =>
    if k ≥ j.size then acc
    else
      let c := j.get k
      if c ≤ 32 then membersFrom j (k + 1) acc fuel
      else if c == 93 || c == 125 then acc
      else
        let item : Option Found :=
          if isDigit c || c == 45 then some (Found.ofNumber (numberAt j k).2)
          else if c == 123 || c == 91 then some { kind := .json, raw := (squashAt j k).2 }
          else if c == 110 || c == 116 || c == 102 then some { kind := literalKind c, raw := (literalAt j k).2 }
          else if c == 34 then some (stringFrom j k)
          else none
        match item with
        | some v => membersFrom j (k + max v.raw.size 1) (acc.push v) fuel
        | none => membersFrom j (k + 1) acc fuel

def valueWithin : Nat → Found → Value
  | 0, _ => .null
  | n + 1, f =>
    match f.kind with
    | .null => .null
    | .false => .bool false
    | .true => .bool true
    | .number => .num f.num
    | .string => .str f.str
    | .json =>
      let j := f.raw
      let k := j.findFrom (fun c => c > 32) 0
      if k ≥ j.size then .null
      else
        let items := membersFrom j (k + 1) #[] (j.size + 1)
        if j.get k == 91 then .arr (items.map (valueWithin n))
        else if j.get k == 123 then
          let pairs := (List.range (items.size / 2)).map fun i =>
            ((items.getD (2 * i) {}).str, items.getD (2 * i + 1) {})
          let kept := pairs.foldl (fun (acc : Array (Bytes × Found)) (key, v) =>
            if acc.any (·.1 == key) then acc else acc.push (key, v)) #[]
          .obj (kept.map fun (key, v) => (key, valueWithin n v))
        else .null

/-- The host value of a value found: numbers as doubles, strings as their
text, arrays and objects member by member, the first of repeated keys
winning. -/
def Found.value (f : Found) : Value := valueWithin (f.raw.size + 1) f

/-- Whether a number's raw text is an integer as written: an optional
minus and digits only. -/
def integerText (raw : Bytes) : Bool :=
  let ds := if raw.get 0 == 45 then raw.data.toList.drop 1 else raw.data.toList
  ds.all isDigit

/-- The text a value reads as: a string's text, the raw text of JSON, the
words of the literals, and a number as written when it is an integer,
otherwise in the shortest positional form; nothing for a null. -/
def Found.text (f : Found) : Bytes :=
  match f.kind with
  | .null => Bytes.empty
  | .false => Bytes.ofString "false"
  | .true => Bytes.ofString "true"
  | .string => f.str
  | .json => f.raw
  | .number =>
    if f.raw.size > 0 && integerText f.raw then f.raw
    else Bytes.ofString (writeFloat f.num .pos none)

/-- The truth a value reads as: true, a nonzero number, or a string that
reads as true (`1`, `t` or `true` in any case). -/
def Found.truth (f : Found) : Bool :=
  match f.kind with
  | .true => true
  | .number => f.num != 0
  | .string =>
    let lower := f.str.data.toList.map fun c => if 65 ≤ c && c ≤ 90 then c + 32 else c
    lower == [49] || lower == [116] || lower == [116, 114, 117, 101]
  | _ => false

/-! ## Well-formed JSON -/

/-- Skips the blanks of JSON (space, tab, line feed, carriage return) from
`k` on. -/
def skipSpace (j : Bytes) (k : Nat) : Nat :=
  j.findFrom (fun c => !(c == 32 || c == 9 || c == 10 || c == 13)) k

def isHex (c : UInt8) : Bool := isDigit c || (97 ≤ c && c ≤ 102) || (65 ≤ c && c ≤ 70)

def validString (j : Bytes) (k : Nat) : Option Nat :=
  if k < j.size then
    let c := j.get k
    if c < 32 then none
    else if c == 34 then some (k + 1)
    else if c == 92 then
      let e := j.get (k + 1)
      if k + 1 ≥ j.size then none
      else if e == 34 || e == 92 || e == 47 || e == 98 || e == 102 || e == 110 || e == 114 || e == 116 then
        validString j (k + 2)
      else if e == 117 then
        if k + 5 < j.size && isHex (j.get (k + 2)) && isHex (j.get (k + 3)) && isHex (j.get (k + 4))
            && isHex (j.get (k + 5)) then validString j (k + 6)
        else none
      else none
    else validString j (k + 1)
  else none
termination_by j.size - k

def skipDigits (j : Bytes) (k : Nat) : Nat := j.findFrom (fun c => !isDigit c) k

/-- The end of a well-formed number starting at `k`: an optional minus,
an integer without leading zeros, an optional fraction and an optional
exponent, each with at least one digit. -/
def validNumber (j : Bytes) (k : Nat) : Option Nat :=
  let k := if j.get k == 45 then k + 1 else k
  if k ≥ j.size || !isDigit (j.get k) then none
  else
    let k := if j.get k == 48 then k + 1 else skipDigits j k
    let frac : Option Nat :=
      if k < j.size && j.get k == 46 then
        if k + 1 < j.size && isDigit (j.get (k + 1)) then some (skipDigits j (k + 1)) else none
      else some k
    match frac with
    | none => none
    | some k =>
      if k < j.size && (j.get k == 101 || j.get k == 69) then
        let k := if k + 1 < j.size && (j.get (k + 1) == 43 || j.get (k + 1) == 45) then k + 2 else k + 1
        if k < j.size && isDigit (j.get k) then some (skipDigits j k) else none
      else some k

def validWord (j : Bytes) (k : Nat) (rest : List UInt8) : Option Nat :=
  if (List.range rest.length).all (fun i => k + i < j.size && j.get (k + i) == rest.getD i 0) then
    some (k + rest.length)
  else none

/-- The position of a separator (a comma or the closing byte `close`) after
blanks from `k` on. -/
def validComma (j : Bytes) (k : Nat) (close : UInt8) : Option Nat :=
  let k := skipSpace j k
  if k < j.size && (j.get k == 44 || j.get k == close) then some k else none

mutual

/-- The end of a well-formed value after blanks from `k` on, within a
depth. -/
def validValue : Nat → Bytes → Nat → Option Nat
  | 0, _, _ => none
  | n + 1, j, k =>
    let k := skipSpace j k
    if k ≥ j.size then none
    else
      let c := j.get k
      if c == 123 then validObject n j (k + 1)
      else if c == 91 then validArray n j (k + 1)
      else if c == 34 then validString j (k + 1)
      else if c == 45 || isDigit c then validNumber j k
      else if c == 116 then validWord j (k + 1) [114, 117, 101]
      else if c == 102 then validWord j (k + 1) [97, 108, 115, 101]
      else if c == 110 then validWord j (k + 1) [117, 108, 108]
      else none

def validObject : Nat → Bytes → Nat → Option Nat
  | 0, _, _ => none
  | n + 1, j, k =>
    let k := skipSpace j k
    if k ≥ j.size then none
    else if j.get k == 125 then some (k + 1)
    else if j.get k == 34 then validMembers n j k
    else none

/-- The end of a well-formed object from the opening quote of a key at
`k`. -/
def validMembers : Nat → Bytes → Nat → Option Nat
  | 0, _, _ => none
  | n + 1, j, k =>
    match validString j (k + 1) with
    | none => none
    | some k =>
      let k := skipSpace j k
      if k ≥ j.size || j.get k != 58 then none
      else
        match validValue n j (k + 1) with
        | none => none
        | some k =>
          match validComma j k 125 with
          | none => none
          | some k =>
            if j.get k == 125 then some (k + 1)
            else
              let k := skipSpace j (k + 1)
              if k < j.size && j.get k == 34 then validMembers n j k else none

def validArray : Nat → Bytes → Nat → Option Nat
  | 0, _, _ => none
  | n + 1, j, k =>
    let k := skipSpace j k
    if k ≥ j.size then none
    else if j.get k == 93 then some (k + 1)
    else validElements n j k

/-- The end of a well-formed array from the element after blanks at
`k`. -/
def validElements : Nat → Bytes → Nat → Option Nat
  | 0, _, _ => none
  | n + 1, j, k =>
    match validValue n j k with
    | none => none
    | some k =>
      match validComma j k 93 with
      | none => none
      | some k => if j.get k == 93 then some (k + 1) else validElements n j (k + 1)

end

def valid (j : Bytes) : Bool :=
  match validValue (2 * j.size + 2) j 0 with
  | some k => skipSpace j k ≥ j.size
  | none => false

/-! ## Quoting -/

def hexByte (n : Nat) : UInt8 := if n < 10 then (48 + n).toUInt8 else (87 + n).toUInt8

def hexEscape (c : Nat) : List UInt8 :=
  [92, 117, hexByte (c / 4096 % 16), hexByte (c / 256 % 16), hexByte (c / 16 % 16), hexByte (c % 16)]

/-- The escaped bytes of a text from position `k` on: control characters
escaped (by name when they have one), `<`, `>` and `&` as hexadecimal
escapes, quotes and backslashes with a backslash, bytes that are no UTF-8
as the escaped replacement character, and the line and paragraph
separators escaped. -/
def quoteFrom (s : Bytes) : Nat → Nat → Array UInt8 → Array UInt8
  | _, 0, acc => acc
  | k, fuel + 1, acc =>
    if k ≥ s.size then acc
    else
      let c := s.get k
      if c < 32 then
        let esc : List UInt8 :=
          if c == 8 then [92, 98] else if c == 12 then [92, 102] else if c == 10 then [92, 110]
          else if c == 13 then [92, 114] else if c == 9 then [92, 116] else hexEscape c.toNat
        quoteFrom s (k + 1) fuel (acc ++ esc.toArray)
      else if c == 60 || c == 62 || c == 38 then quoteFrom s (k + 1) fuel (acc ++ (hexEscape c.toNat).toArray)
      else if c == 92 then quoteFrom s (k + 1) fuel (acc ++ #[92, 92])
      else if c == 34 then quoteFrom s (k + 1) fuel (acc ++ #[92, 34])
      else if c > 127 then
        let (ch, w) := decodeAt s.data k
        let w := max w 1
        let out : Array UInt8 :=
          if ch.toNat == 0xFFFD && w == 1 then (hexEscape 0xFFFD).toArray
          else if ch.toNat == 0x2028 || ch.toNat == 0x2029 then (hexEscape ch.toNat).toArray
          else (s.extract k (k + w)).data
        quoteFrom s (k + w) fuel (acc ++ out)
      else quoteFrom s (k + 1) fuel (acc.push c)

/-- A text as a JSON string literal, escaped so that it can stand inside
markup as well. -/
def quoteText (s : Bytes) : Bytes := ⟨(quoteFrom s 0 (s.size + 1) #[34]).push 34⟩

end MudClient.JsonPath
