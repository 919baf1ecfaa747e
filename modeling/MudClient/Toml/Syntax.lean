/-
# Reading TOML text

A TOML document is a sequence of expressions, one per line: a key and its
value, a `[table]` header or an `[[array table]]` header, each optionally
followed by a comment.  `readExpressions` reads them in order and stops at
the first fault, keeping the expressions read before it: a reader that
acts on each expression as it comes sees those first.

Values keep the text they were written with where a later reader needs
it: integers and floats are read only when their value is asked for, so
that a fault in one shows only where it is used.
-/
import MudClient.Text.Bytes

namespace MudClient.Toml

/-- The kinds of date and time values. -/
inductive TimeKind where
  | offsetDateTime | localDateTime | localDate | localTime
deriving DecidableEq, Repr, Inhabited

/-- A TOML value.  Numbers, booleans and dates keep their text. -/
inductive Value where
  | string (s : String)
  | integer (text : String)
  | float (text : String)
  | bool (b : Bool) (text : String)
  | dateTime (kind : TimeKind) (text : String)
  | array (items : List Value)
  | inline (pairs : List (List String × Value))
deriving Inhabited, Repr

/-- An expression of a document. -/
inductive Expr where
  | keyValue (key : List String) (value : Value)
  | table (key : List String)
  | arrayTable (key : List String)
deriving Inhabited, Repr

def byteChar (c : UInt8) : Char := Char.ofNat c.toNat

/-- A byte as a code point in messages: `U+0078 'x'`, without the quoted
character when it is not printable. -/
def codePoint (c : UInt8) : String :=
  let h := Nat.toDigits 16 c.toNat |>.map Char.toUpper
  let hex := "U+" ++ String.ofList (List.replicate (4 - h.length) '0' ++ h)
  if c < 0x20 || c == 0x7F || (c ≥ 0x80 && c < 0xA0) || c == 0xAD then hex
  else hex ++ " '" ++ String.singleton (byteChar c) ++ "'"

section Reading

variable (b : Bytes)

def at? (i : Nat) : Option UInt8 := if i < b.size then some (b.get i) else none

def isDigit (c : UInt8) : Bool := 48 ≤ c && c ≤ 57

def isBareKeyChar (c : UInt8) : Bool :=
  isDigit c || (65 ≤ c && c ≤ 90) || (97 ≤ c && c ≤ 122) || c == 95 || c == 45

def follows (i : Nat) (w : String) : Bool :=
  let ws := (Bytes.ofString w).data
  i + ws.size ≤ b.size && (List.range ws.size).all fun k => b.get (i + k) == ws.getD k 0

def skipSpaces (i : Nat) : Nat :=
  let rec go (k fuel : Nat) : Nat :=
    match fuel with
    | 0 => k
    | fuel + 1 => if k < b.size && (b.get k == 32 || b.get k == 9) then go (k + 1) fuel else k
  go i (b.size + 1)

/-- The size of the well-formed character at a place that may stand in a
string or a comment, or zero. -/
def charSize (i : Nat) : Nat :=
  let c := b.get i
  if c < 0x80 then (if c == 9 || (c ≥ 0x20 && c != 0x7F) then 1 else 0)
  else
    let (w, lead) : Nat × Nat :=
      if c &&& 0xE0 == 0xC0 then (2, (c &&& 0x1F).toNat)
      else if c &&& 0xF0 == 0xE0 then (3, (c &&& 0x0F).toNat)
      else if c &&& 0xF8 == 0xF0 then (4, (c &&& 0x07).toNat)
      else (0, 0)
    if w == 0 || i + w > b.size then 0
    else
      let tail := (List.range (w - 1)).map fun k => b.get (i + 1 + k)
      if tail.any (fun t => t &&& 0xC0 != 0x80) then 0
      else
        let v := tail.foldl (fun v t => v * 64 + (t &&& 0x3F).toNat) lead
        if (w == 2 && v < 0x80) || (w == 3 && v < 0x800) || (w == 4 && v < 0x10000) ||
            (0xD800 ≤ v && v ≤ 0xDFFF) || v > 0x10FFFF then 0
        else w

def commentEnd (i : Nat) : Except String Nat :=
  let rec go (k fuel : Nat) : Except String Nat :=
    match fuel with
    | 0 => .ok k
    | fuel + 1 =>
      if k ≥ b.size then .ok k
      else if b.get k == 10 then .ok k
      else if k + 1 < b.size && b.get k == 13 && b.get (k + 1) == 10 then .ok (k + 1)
      else
        let n := charSize b k
        if n == 0 then .error "invalid character in comment" else go (k + n) fuel
  go (i + 1) (b.size + 1)

def textOf (i j : Nat) : String := (b.extract i j).toText

def hexEscape (i len : Nat) : Except String Nat := do
  if i + len > b.size then
    throw s!"unicode point needs {len} character, not {b.size - i}"
  let v ← (List.range len).foldlM (fun v k =>
    let c := b.get (i + k)
    if isDigit c then .ok (v * 16 + (c.toNat - 48))
    else if 97 ≤ c && c ≤ 102 then .ok (v * 16 + (c.toNat - 87))
    else if 65 ≤ c && c ≤ 70 then .ok (v * 16 + (c.toNat - 55))
    else .error "non-hex character") 0
  if v > 0x10FFFF || (0xD800 ≤ v && v < 0xE000) then
    throw "escape sequence is invalid Unicode code point"
  pure v

def utf8Of (v : Nat) : Array UInt8 := (Bytes.ofString (String.singleton (Char.ofNat v))).data

def unescape (i j : Nat) (multiline : Bool) : Except String (Array UInt8) :=
  let isWs (c : UInt8) := c == 32 || c == 9 || c == 10 || c == 13
  let rec go (k : Nat) (acc : Array UInt8) (fuel : Nat) : Except String (Array UInt8) :=
    match fuel with
    | 0 => .ok acc
    | fuel + 1 =>
      if k ≥ j then .ok acc
      else
        let c := b.get k
        if c != 92 then go (k + 1) (acc.push c) fuel
        else
          -- a backslash that ends a line trims the blanks after it
          let rest := (List.range (j - k - 1)).map fun d => b.get (k + 1 + d)
          let lineEnd := multiline &&
            (match rest.dropWhile (fun c => c == 32 || c == 9) with
             | 10 :: _ => true
             | 13 :: 10 :: _ => true
             | _ => false)
          if lineEnd then
            let skipped := (rest.takeWhile isWs).length
            go (k + 1 + skipped) acc fuel
          else
            let e := b.get (k + 1)
            match e with
            | 34 => go (k + 2) (acc.push 34) fuel
            | 92 => go (k + 2) (acc.push 92) fuel
            | 98 => go (k + 2) (acc.push 8) fuel
            | 102 => go (k + 2) (acc.push 12) fuel
            | 110 => go (k + 2) (acc.push 10) fuel
            | 114 => go (k + 2) (acc.push 13) fuel
            | 116 => go (k + 2) (acc.push 9) fuel
            | 101 => go (k + 2) (acc.push 27) fuel
            | 117 => do
              let v ← hexEscape (b.extract 0 j) (k + 2) 4
              go (k + 6) (acc ++ utf8Of v) fuel
            | 85 => do
              let v ← hexEscape (b.extract 0 j) (k + 2) 8
              go (k + 10) (acc ++ utf8Of v) fuel
            | _ => .error ("invalid escaped character " ++ codePoint e)
  go i #[] (j - i + 1)

def plainBody (i j : Nat) (multiline : Bool) : Bool :=
  let rec go (k fuel : Nat) : Bool :=
    match fuel with
    | 0 => true
    | fuel + 1 =>
      if k ≥ j then true
      else if multiline && (b.get k == 10 || b.get k == 13) then go (k + 1) fuel
      else
        let n := charSize b k
        n != 0 && go (k + n) fuel
  go i (j - i + 1)

def basicString (i : Nat) : Except String (String × Nat) := do
  let rec scan (k : Nat) (escaped : Bool) (fuel : Nat) : Except String (Nat × Bool) :=
    match fuel with
    | 0 => .error "basic string not terminated by \""
    | fuel + 1 =>
      if k ≥ b.size then .error "basic string not terminated by \""
      else
        let c := b.get k
        if c == 34 then .ok (k, escaped)
        else if c == 10 || c == 13 then .error "basic strings cannot have new lines"
        else if c == 92 then
          if k + 1 ≥ b.size then .error "need a character after \\" else scan (k + 2) true fuel
        else scan (k + 1) escaped fuel
  let (close, escaped) ← scan (i + 1) false (b.size + 1)
  if !escaped then
    if plainBody b (i + 1) close false then pure (textOf b (i + 1) close, close + 1)
    else throw "invalid UTF-8"
  else
    let bytes ← unescape b (i + 1) close false
    pure ((Bytes.mk bytes).toText, close + 1)

def literalString (i : Nat) : Except String (String × Nat) :=
  let rec scan (k fuel : Nat) : Except String Nat :=
    match fuel with
    | 0 => .error "unterminated literal string"
    | fuel + 1 =>
      if k ≥ b.size then .error "unterminated literal string"
      else
        let c := b.get k
        if c == 39 then .ok k
        else if c == 10 || c == 13 then .error "literal strings cannot have new lines"
        else
          let n := charSize b k
          if n == 0 then .error "invalid character" else scan (k + n) fuel
  match scan (i + 1) (b.size + 1) with
  | .ok close => .ok (textOf b (i + 1) close, close + 1)
  | .error e => .error e

def multilineString (i : Nat) (quote : UInt8) : Except String (String × Nat) := do
  let basic := quote == 34
  let rec scan (k : Nat) (escaped : Bool) (fuel : Nat) : Except String (Nat × Nat × Bool) :=
    match fuel with
    | 0 => .error "multiline string not terminated"
    | fuel + 1 =>
      if k ≥ b.size then
        .error (if basic then "multiline basic string not terminated by \"\"\""
          else "multiline literal string not terminated by '''")
      else
        let c := b.get k
        if c == quote && at? b (k + 1) == some quote && at? b (k + 2) == some quote then
          let extra := if at? b (k + 3) == some quote then (if at? b (k + 4) == some quote then 2 else 1) else 0
          if at? b (k + 3 + extra) == some quote && extra == 2 then
            .error (if basic then "\"\"\" not allowed in multiline basic string"
              else "''' not allowed in multiline literal string")
          else .ok (k + extra, k + extra + 3, escaped)
        else if basic && c == 92 then
          if k + 1 ≥ b.size then .error "need a character after \\" else scan (k + 2) true fuel
        else if c == 13 then
          if at? b (k + 1) != some 10 then .error "need a \\n after \\r" else scan (k + 2) escaped fuel
        else scan (k + 1) escaped fuel
  let (close, after, escaped) ← scan (i + 3) false (b.size + 1)
  let start := if at? b (i + 3) == some 10 then i + 4
    else if at? b (i + 3) == some 13 && at? b (i + 4) == some 10 then i + 5 else i + 3
  let start := min start close
  if basic && escaped then
    let bytes ← unescape b start close true
    pure ((Bytes.mk bytes).toText, after)
  else if plainBody b start close true then pure (textOf b start close, after)
  else throw "invalid UTF-8"

def simpleKey (i : Nat) : Except String (String × Nat) :=
  match at? b i with
  | none => .error "expected key but found none"
  | some c =>
    if c == 39 then literalString b i
    else if c == 34 then basicString b i
    else if isBareKeyChar c then
      let rec go (k fuel : Nat) : Nat :=
        match fuel with
        | 0 => k
        | fuel + 1 => if k < b.size && isBareKeyChar (b.get k) then go (k + 1) fuel else k
      let e := go i (b.size + 1)
      .ok (textOf b i e, e)
    else .error ("invalid character at start of key: " ++ String.singleton (byteChar c))

def key (i : Nat) : Except String (List String × Nat) := do
  let (first, k) ← simpleKey b i
  let rec more (k : Nat) (acc : List String) (fuel : Nat) : Except String (List String × Nat) :=
    match fuel with
    | 0 => .ok (acc, k)
    | fuel + 1 =>
      let k2 := skipSpaces b k
      if at? b k2 == some 46 then do
        let (part, k3) ← simpleKey b (skipSpaces b (k2 + 1))
        more k3 (acc ++ [part]) fuel
      else .ok (acc, k2)
  more k [first] (b.size + 1)

def expectByte (i : Nat) (c : UInt8) : Except String Nat :=
  match at? b i with
  | none => .error ("expected character " ++ String.singleton (byteChar c) ++ " but the document ended here")
  | some d => if d == c then .ok (i + 1) else .error ("expected character " ++ String.singleton (byteChar c))

/-- Reads a date or time, whose text runs over digits, separators and one
space before a digit. -/
def dateTime (i : Nat) : Value × Nat :=
  let rec go (k : Nat) (date time zone space : Bool) (fuel : Nat) : Nat × Bool × Bool × Bool :=
    match fuel with
    | 0 => (k, date, time, zone)
    | fuel + 1 =>
      if k ≥ b.size then (k, date, time, zone)
      else
        let c := b.get k
        if isDigit c then go (k + 1) date time zone space fuel
        else if c == 45 then go (k + 1) true time (zone || k - i ≥ 8) space fuel
        else if c == 84 || c == 116 || c == 58 || c == 46 then go (k + 1) date true zone space fuel
        else if c == 43 then go (k + 1) date time true space fuel
        else if c == 90 || c == 122 then (k + 1, date, time, true)
        else if c == 32 && !space && k + 1 < b.size && isDigit (b.get (k + 1)) then
          if k + 2 ≥ b.size then (k + 2, date, time, zone)
          else go (k + 3) date true zone true fuel
        else (k, date, time, zone)
  let (e, date, time, zone) := go i false false false false (b.size + 1)
  let kind :=
    if time then (if date then (if zone then TimeKind.offsetDateTime else .localDateTime) else .localTime)
    else .localDate
  (.dateTime kind (textOf b i e), e)

def number (i : Nat) : Except String (Value × Nat) :=
  let c0 := b.get i
  if b.size > i + 2 && c0 == 48 && b.get (i + 1) != 46 && b.get (i + 1) != 101 && b.get (i + 1) != 69 then
    let c1 := b.get (i + 1)
    let valid : Option (UInt8 → Bool) :=
      if c1 == 120 then some fun c => isDigit c || (97 ≤ c && c ≤ 102) || (65 ≤ c && c ≤ 70) || c == 95
      else if c1 == 111 then some fun c => (48 ≤ c && c ≤ 55) || c == 95
      else if c1 == 98 then some fun c => c == 48 || c == 49 || c == 95
      else none
    match valid with
    | none => .ok (.integer "0", i + 1)
    | some p =>
      let rec prefixed (k fuel : Nat) : Nat :=
        match fuel with
        | 0 => k
        | fuel + 1 => if k < b.size && p (b.get k) then prefixed (k + 1) fuel else k
      let e := prefixed (i + 2) (b.size + 1)
      .ok (.integer (textOf b i e), e)
  else
    let rec go (k : Nat) (isFloat : Bool) (fuel : Nat) : Except String (Value × Nat) :=
      match fuel with
      | 0 => .error "incomplete number"
      | fuel + 1 =>
        if k ≥ b.size then
          if k == i then .error "incomplete number"
          else .ok (if isFloat then .float (textOf b i k) else .integer (textOf b i k), k)
        else
          let c := b.get k
          if isDigit c || c == 43 || c == 45 || c == 95 then go (k + 1) isFloat fuel
          else if c == 46 || c == 101 || c == 69 then go (k + 1) true fuel
          else if c == 105 then
            if follows b k "inf" then .ok (.float (textOf b i (k + 3)), k + 3)
            else .error "unexpected character 'i' while scanning for a number"
          else if c == 110 then
            if follows b k "nan" then .ok (.float (textOf b i (k + 3)), k + 3)
            else .error "unexpected character 'n' while scanning for a number"
          else if k == i then .error "incomplete number"
          else .ok (if isFloat then .float (textOf b i k) else .integer (textOf b i k), k)
    go i false (b.size + 1)

/-- Reads a number, or a date or time when its first characters look like
one. -/
def numberOrDate (i : Nat) : Except String (Value × Nat) :=
  let c := b.get i
  if c == 105 then
    if follows b i "inf" then .ok (.float "inf", i + 3) else .error "expected 'inf'"
  else if c == 110 then
    if follows b i "nan" then .ok (.float "nan", i + 3) else .error "expected 'nan'"
  else if c == 43 || c == 45 then number b i
  else if b.size - i < 3 then number b i
  else
    let s := min 5 (b.size - i)
    let firstNonDigit := (List.range s).find? fun k => !isDigit (b.get (i + k))
    match firstNonDigit with
    | some k =>
      if (k == 2 && b.get (i + k) == 58) || (k == 4 && b.get (i + k) == 45) then .ok (dateTime b i)
      else number b i
    | none => number b i

def arraySpace (i : Nat) : Except String Nat :=
  let rec go (k fuel : Nat) : Except String Nat :=
    match fuel with
    | 0 => .ok k
    | fuel + 1 => do
      let k := skipSpaces b k
      if at? b k == some 35 then
        let e ← commentEnd b k
        go e fuel
      else if at? b k == some 10 then go (k + 1) fuel
      else if at? b k == some 13 && at? b (k + 1) == some 10 then go (k + 2) fuel
      else pure k
  go i (b.size + 1)

mutual

def value (i : Nat) : Nat → Except String (Value × Nat)
  | 0 => .error "document is nested too deeply"
  | fuel + 1 =>
    match at? b i with
    | none => .error "expected value, not eof"
    | some c =>
      if c == 34 then
        if follows b i "\"\"\"" then do
          let (s, e) ← multilineString b i 34
          pure (.string s, e)
        else do
          let (s, e) ← basicString b i
          pure (.string s, e)
      else if c == 39 then
        if follows b i "'''" then do
          let (s, e) ← multilineString b i 39
          pure (.string s, e)
        else do
          let (s, e) ← literalString b i
          pure (.string s, e)
      else if c == 116 then
        if follows b i "true" then .ok (.bool true "true", i + 4) else .error "expected 'true'"
      else if c == 102 then
        if follows b i "false" then .ok (.bool false "false", i + 5) else .error "expected 'false'"
      else if c == 91 then array (i + 1) [] true fuel
      else if c == 123 then inlineTable (i + 1) [] true fuel
      else numberOrDate b i
termination_by n => n

def array (i : Nat) (acc : List Value) (first : Bool) : Nat → Except String (Value × Nat)
  | 0 => .error "document is nested too deeply"
  | fuel + 1 => do
    let k ← arraySpace b i
    if k ≥ b.size then throw "array is incomplete"
    if b.get k == 93 then return (.array acc, k + 1)
    let k ← if b.get k == 44 then
        if first then throw "array cannot start with comma"
        else arraySpace b (k + 1)
      else if !first then throw "array elements must be separated by commas"
      else pure k
    if at? b k == some 93 then return (.array acc, k + 1)
    let (v, k) ← value k fuel
    array k (acc ++ [v]) false fuel
termination_by n => n

def inlineTable (i : Nat) (acc : List (List String × Value)) (first : Bool) :
    Nat → Except String (Value × Nat)
  | 0 => .error "document is nested too deeply"
  | fuel + 1 => do
    let k := skipSpaces b i
    if k ≥ b.size then throw "inline table is incomplete"
    if b.get k == 125 then return (.inline acc, k + 1)
    let k ← if !first then do
        let k ← expectByte b k 44
        pure (skipSpaces b k)
      else pure k
    let (kv, k) ← keyValue k fuel
    inlineTable k (acc ++ [kv]) false fuel
termination_by n => n

def keyValue (i : Nat) : Nat → Except String ((List String × Value) × Nat)
  | 0 => .error "document is nested too deeply"
  | fuel + 1 => do
    let (k, j) ← key b i
    let j := skipSpaces b j
    if j ≥ b.size then throw "expected = after a key, but the document ends there"
    let j ← expectByte b j 61
    let j := skipSpaces b j
    let (v, j) ← value j fuel
    pure ((k, v), j)
termination_by n => n

end

def header (i : Nat) : Except String (Expr × Nat) := do
  if at? b (i + 1) == some 91 then
    let (k, j) ← key b (skipSpaces b (i + 2))
    let j ← expectByte b (skipSpaces b j) 93
    let j ← expectByte b j 93
    pure (.arrayTable k, j)
  else
    let (k, j) ← key b (skipSpaces b (i + 1))
    let j ← expectByte b (skipSpaces b j) 93
    pure (.table k, j)

/-- Reads what stands on a line: nothing, a comment, or an expression with
an optional comment. -/
def expression (i : Nat) : Except String (Option Expr × Nat) := do
  let k := skipSpaces b i
  if k ≥ b.size then return (none, k)
  let c := b.get k
  if c == 35 then return (none, ← commentEnd b k)
  if c == 10 || c == 13 then return (none, k)
  let (e, j) ← if c == 91 then header b k else do
      let ((key, v), j) ← keyValue b k (b.size + 2)
      pure (Expr.keyValue key v, j)
  let j := skipSpaces b j
  if at? b j == some 35 then return (some e, ← commentEnd b j)
  pure (some e, j)

def newline (i : Nat) : Except String Nat :=
  match at? b i with
  | some 10 => .ok (i + 1)
  | some 13 =>
    match at? b (i + 1) with
    | some 10 => .ok (i + 2)
    | some _ => .error "windows new line should be \\r\\n"
    | none => .error "windows new line expected"
  | some c => .error ("expected newline but got " ++ codePoint c)
  | none => .ok i

end Reading

/-- Reads the expressions of a document in order, with the fault that
stopped reading, if any. -/
def readExpressions (b : Bytes) : List Expr × Option String :=
  let rec go (i : Nat) (first : Bool) (acc : Array Expr) (fuel : Nat) : List Expr × Option String :=
    match fuel with
    | 0 => (acc.toList, none)
    | fuel + 1 =>
      if i ≥ b.size then (acc.toList, none)
      else
        match (if first then .ok i else newline b i) with
        | .error e => (acc.toList, some e)
        | .ok i =>
          if i ≥ b.size then (acc.toList, none)
          else
            match expression b i with
            | .error e => (acc.toList, some e)
            | .ok (some e, j) => go j false (acc.push e) fuel
            | .ok (none, j) => go j false acc fuel
  go 0 true #[] (b.size + 2)

end MudClient.Toml
