/-
# Reading JSON text

`readValue` reads the first JSON value of a text, as a tree, and leaves
whatever follows it unread.  A text of nothing but blanks holds no value; a
text that ends inside a value is cut short; any other fault is the first
byte that cannot stand where it stands, reported with what the reader was
looking for there:

* `looking for beginning of value`, `looking for beginning of object key
  string`;
* `after object key`, `after object key:value pair`, `after array element`;
* `in string literal`;
* `in numeric literal`, `after decimal point in numeric literal`, `in
  exponent of numeric literal`;
* `in literal true (expecting 'r')` and the like for the three literals.

An escape in a string that stands for nothing is reported with its bytes:
the backslash and the byte after it, or a `\u` and four bytes after it (or
what is left, when that could not begin an escape).

Strings are decoded: escapes are resolved, a `\u` escape of half a
surrogate pair that has no partner, and every byte that is not part of
well-formed UTF-8, become the replacement character.
-/
import MudClient.Text.Bytes
import MudClient.Text.Quote
import MudClient.Text.Space

namespace MudClient.Json

/-- A JSON value; numbers keep their text, objects their members in order,
repeated keys included. -/
inductive Node where
  | null
  | bool (b : Bool)
  | number (text : String)
  | string (s : String)
  | array (items : Array Node)
  | object (members : Array (String × Node))
deriving Inhabited, Repr

/-- Why no value could be read. -/
inductive ReadError where
  /-- The text ends inside a value. -/
  | cutShort
  /-- A byte that cannot stand here, and what was looked for. -/
  | invalid (c : UInt8) (context : String)
  /-- An escape in a string that stands for nothing: its bytes. -/
  | badEscape (what : Bytes)
deriving Repr

/-- A byte as an error message shows it: between single quotes, escaped
as a quoted string escapes it. -/
def showByte (c : UInt8) : String :=
  if c == 39 then "'\\''"
  else if c == 34 then "'\"'"
  else
    let ch := Char.ofNat c.toNat
    let body : String :=
      if c == 92 then "\\\\"
      else if c == 7 then "\\a" else if c == 8 then "\\b" else if c == 12 then "\\f"
      else if c == 10 then "\\n" else if c == 13 then "\\r" else if c == 9 then "\\t"
      else if c == 11 then "\\v"
      else if c < 32 || c == 127 then
        let h := Nat.toDigits 16 c.toNat
        "\\x" ++ String.ofList (List.replicate (2 - h.length) '0' ++ h)
      else if c ≥ 0x80 && c < 0xA0 then
        let h := Nat.toDigits 16 c.toNat
        "\\u00" ++ String.ofList (List.replicate (2 - h.length) '0' ++ h)
      else if c == 0xAD then "\\u00ad"
      else String.singleton ch
    "'" ++ body ++ "'"

/-- An escape as a message shows it: between back quotes, or quoted when
it holds a back quote, a byte that is no character, white space, or a
character that is not printable. -/
def showEscape (what : Bytes) : String :=
  let cs := what.chars
  if cs.any (fun c => c == '\x60' || c == '�' || Text.isSpace c || !Text.isPrint c) then
    Text.quote (String.ofList cs)
  else "`" ++ String.ofList cs ++ "`"

def ReadError.message : ReadError → String
  | .cutShort => "unexpected EOF"
  | .invalid c ctx => "invalid character " ++ showByte c ++ " " ++ ctx
  | .badEscape what => "invalid escape sequence " ++ showEscape what ++ " in string"

def isBlank (c : UInt8) : Bool := c == 32 || c == 9 || c == 10 || c == 13

def isDigit (c : UInt8) : Bool := 48 ≤ c && c ≤ 57

def isHex (c : UInt8) : Bool := isDigit c || (97 ≤ c && c ≤ 102) || (65 ≤ c && c ≤ 70)

def hexVal (c : UInt8) : Nat :=
  if isDigit c then c.toNat - 48 else if 97 ≤ c then c.toNat - 87 else c.toNat - 55

section Reading

variable (s : Bytes)

def skipBlanks (i : Nat) : Nat :=
  let rec go (k : Nat) (fuel : Nat) : Nat :=
    match fuel with
    | 0 => k
    | fuel + 1 => if k < s.size && isBlank (s.get k) then go (k + 1) fuel else k
  go i (s.size + 1)

def utf8 (n : Nat) : List UInt8 := (Bytes.ofString (String.singleton (Char.ofNat n))).data.toList

/-- Reads the rest of a string after its opening quote: its decoded bytes
and the position after the closing quote. -/
def readString (i : Nat) : Except ReadError (String × Nat) :=
  let rec go (k : Nat) (acc : Array UInt8) (fuel : Nat) : Except ReadError (Array UInt8 × Nat) :=
    match fuel with
    | 0 => .error .cutShort
    | fuel + 1 =>
      if k ≥ s.size then .error .cutShort
      else
        let c := s.get k
        if c == 34 then .ok (acc, k + 1)
        else if c < 32 then .error (.invalid c "in string literal")
        else if c != 92 then go (k + 1) (acc.push c) fuel
        else if k + 1 ≥ s.size then .error .cutShort
        else
          let e := s.get (k + 1)
          let simple : Option UInt8 :=
            if e == 98 then some 8 else if e == 102 then some 12 else if e == 110 then some 10
            else if e == 114 then some 13 else if e == 116 then some 9 else if e == 92 then some 92
            else if e == 47 then some 47 else if e == 34 then some 34 else none
          match simple with
          | some b => go (k + 2) (acc.push b) fuel
          | none =>
            if e != 117 then .error (.badEscape (s.extract k (k + 2)))
            else if k + 6 > s.size then
              -- the text ends within the escape: cut short if what is
              -- there could begin one
              if (List.range (s.size - k - 2)).all (fun d => isHex (s.get (k + 2 + d))) then .error .cutShort
              else .error (.badEscape (s.extract k s.size))
            else
              let digits := (List.range 4).map fun d => s.get (k + 2 + d)
              match (List.range 4).find? (fun d => !isHex (s.get (k + 2 + d))) with
              | some _ => .error (.badEscape (s.extract k (k + 6)))
              | none =>
                let r := digits.foldl (fun n c => n * 16 + hexVal c) 0
                let next := k + 6
                if 0xD800 ≤ r && r < 0xDC00 then
                  -- a high surrogate takes a following low one
                  let lowOk := next + 6 ≤ s.size && s.get next == 92 && s.get (next + 1) == 117 &&
                    (List.range 4).all (fun d => isHex (s.get (next + 2 + d)))
                  if lowOk then
                    let r2 := ((List.range 4).map fun d => s.get (next + 2 + d)).foldl (fun n c => n * 16 + hexVal c) 0
                    if 0xDC00 ≤ r2 && r2 < 0xE000 then
                      go (next + 6) (acc ++ (utf8 ((r - 0xD800) * 0x400 + (r2 - 0xDC00) + 0x10000)).toArray) fuel
                    else go next (acc ++ (utf8 0xFFFD).toArray) fuel
                  else go next (acc ++ (utf8 0xFFFD).toArray) fuel
                else if 0xDC00 ≤ r && r < 0xE000 then go next (acc ++ (utf8 0xFFFD).toArray) fuel
                else go next (acc ++ (utf8 r).toArray) fuel
  match go i #[] (s.size + 1) with
  | .ok (bytes, e) => .ok ((Bytes.mk bytes).toText, e)
  | .error err => .error err

def readNumber (i : Nat) : Except ReadError (String × Nat) :=
  let digitsFrom (k : Nat) : Nat :=
    let rec go (m : Nat) (fuel : Nat) : Nat :=
      match fuel with
      | 0 => m
      | fuel + 1 => if m < s.size && isDigit (s.get m) then go (m + 1) fuel else m
    go k (s.size + 1)
  let need (k : Nat) (ctx : String) : Except ReadError Unit :=
    if k ≥ s.size then .error .cutShort
    else if isDigit (s.get k) then .ok () else .error (.invalid (s.get k) ctx)
  let text (e : Nat) : String := String.ofList ((s.extract i e).data.toList.map fun c => Char.ofNat c.toNat)
  do
    let k := if s.get i == 45 then i + 1 else i
    need k "in numeric literal"
    let k := if s.get k == 48 then k + 1 else digitsFrom k
    let k ← if k < s.size && s.get k == 46 then do
        need (k + 1) "after decimal point in numeric literal"
        pure (digitsFrom (k + 1))
      else pure k
    let k ← if k < s.size && (s.get k == 101 || s.get k == 69) then do
        let k1 := if k + 1 < s.size && (s.get (k + 1) == 43 || s.get (k + 1) == 45) then k + 2 else k + 1
        need k1 "in exponent of numeric literal"
        pure (digitsFrom k1)
      else pure k
    pure (text k, k)

def readWord (i : Nat) (word : String) (v : Node) : Except ReadError (Node × Nat) :=
  let w := (Bytes.ofString word).data
  match (List.range w.size).find? (fun d => d > 0 && (i + d ≥ s.size || s.get (i + d) != w.getD d 0)) with
  | some d =>
    if i + d ≥ s.size then .error .cutShort
    else .error (.invalid (s.get (i + d))
      s!"in literal {word} (expecting {showByte (w.getD d 0)})")
  | none => .ok (v, i + w.size)

/-- Reads a value whose first byte, not blank, is at `i`, given fuel for
the nesting depth. -/
def readAt : Nat → Nat → Except ReadError (Node × Nat)
  | 0, _ => .error .cutShort
  | n + 1, i =>
    if i ≥ s.size then .error .cutShort
    else
      let c := s.get i
      if c == 123 then readObject n (i + 1) #[] true
      else if c == 91 then readArray n (i + 1) #[] true
      else if c == 34 then do
        let (str, e) ← readString s (i + 1)
        pure (.string str, e)
      else if c == 45 || isDigit c then do
        let (t, e) ← readNumber s i
        pure (.number t, e)
      else if c == 116 then readWord s i "true" (.bool true)
      else if c == 102 then readWord s i "false" (.bool false)
      else if c == 110 then readWord s i "null" .null
      else .error (.invalid c "looking for beginning of value")
where
  /-- Reads the members of an object after `{` or a comma. -/
  readObject : Nat → Nat → Array (String × Node) → Bool → Except ReadError (Node × Nat)
    | 0, _, _, _ => .error .cutShort
    | n + 1, i, acc, first =>
      let k := skipBlanks s i
      if k ≥ s.size then .error .cutShort
      else
        let c := s.get k
        if first && c == 125 then .ok (.object acc, k + 1)
        else if c != 34 then .error (.invalid c "looking for beginning of object key string")
        else do
          let (key, e) ← readString s (k + 1)
          let k := skipBlanks s e
          if k ≥ s.size then .error .cutShort
          else if s.get k != 58 then .error (.invalid (s.get k) "after object key")
          else
            let k := skipBlanks s (k + 1)
            let (v, e) ← readAt n k
            let acc := acc.push (key, v)
            let k := skipBlanks s e
            if k ≥ s.size then .error .cutShort
            else
              let c := s.get k
              if c == 44 then readObject n (k + 1) acc false
              else if c == 125 then .ok (.object acc, k + 1)
              else .error (.invalid c "after object key:value pair")
  /-- Reads the elements of an array after `[` or a comma. -/
  readArray : Nat → Nat → Array Node → Bool → Except ReadError (Node × Nat)
    | 0, _, _, _ => .error .cutShort
    | n + 1, i, acc, first =>
      let k := skipBlanks s i
      if k ≥ s.size then .error .cutShort
      else if first && s.get k == 93 then .ok (.array acc, k + 1)
      else do
        let (v, e) ← readAt n k
        let acc := acc.push v
        let k := skipBlanks s e
        if k ≥ s.size then .error .cutShort
        else
          let c := s.get k
          if c == 44 then readArray n (k + 1) acc false
          else if c == 93 then .ok (.array acc, k + 1)
          else .error (.invalid c "after array element")

end Reading

def readValue (s : Bytes) : Except ReadError (Option Node) :=
  let k := skipBlanks s 0
  if k ≥ s.size then .ok none
  else match readAt s (2 * s.size + 2) k with
    | .ok (v, _) => .ok (some v)
    | .error e => .error e

end MudClient.Json
