/-
# Reading Lua source into tokens

The reader walks the source a byte at a time, counting lines and columns.
A line feed, a carriage return, or either followed by the other, ends a
line.  Blanks, tabs and line ends separate tokens; comments run from `--`
to the end of the line, or over a long bracket `--[[ … ]]`, `--[==[ … ]==]`.

Names are ASCII letters, digits and underscores, not starting with a digit;
reserved words are names.  Numbers are decimal, with an optional fraction
and exponent, or hexadecimal after `0x`.  Short strings are quoted with `'`
or `"` and may not cross a line end; their escapes are the letters
`a b f n r t v`, a backslash, either quote, a line end, and up to three
decimal digits giving a byte; any other escaped character stands for
itself.  Long strings are written in long brackets, whose first line end is
dropped.

A reading error stops the reader; the tokens before it are kept, so that a
syntax error the parser finds earlier is reported first.

## Main statements

* `tokenize`: the tokens of a source and the reading error that ends them,
  if any.
-/
import MudClient.Lua.Token

namespace MudClient.Lua

/-- The reader's state: the source, the offset of the next byte, the line
and column, and whether the end was met. -/
structure Reader where
  src : Array UInt8
  i : Nat := 0
  line : Nat := 1
  col : Nat := 0
  ended : Bool := false

def Reader.pos (r : Reader) : Pos := if r.ended then ⟨none, 0⟩ else ⟨some r.line, r.col⟩

def eofCode : Int := -1

abbrev ReadM := EStateM SyntaxError Reader

def peek : ReadM Int := do
  let r ← get
  pure (match r.src[r.i]? with | some c => (c.toNat : Int) | none => eofCode)

/-- Reads the next byte: a line end of either kind, or a pair of them, reads
as one line feed and starts a new line. -/
def next : ReadM Int := do
  let r ← get
  match r.src[r.i]? with
  | none => set { r with ended := true, col := 0 }; pure eofCode
  | some c =>
    if c = 10 ∨ c = 13 then
      let j := r.i + 1
      let pair : Bool := match r.src[j]? with
        | some d => (c == 10 && d == 13) || (c == 13 && d == 10)
        | none => false
      set { r with i := if pair then j + 1 else j, line := r.line + 1, col := 0 }
      pure 10
    else
      set { r with i := r.i + 1, col := r.col + 1 }
      pure (c.toNat : Int)

def readError (token : Array UInt8) (message : String) : ReadM α := do
  throw { pos := (← get).pos, message, token := ⟨token⟩ }

def isDecimal (c : Int) : Bool := 48 ≤ c ∧ c ≤ 57

def isHexDigit (c : Int) : Bool := isDecimal c || (97 ≤ c ∧ c ≤ 102) || (65 ≤ c ∧ c ≤ 70)

def isNameCode (c : Int) (first : Bool) : Bool :=
  c = 95 || (65 ≤ c ∧ c ≤ 90) || (97 ≤ c ∧ c ≤ 122) || (!first && isDecimal c)

def byteOf (c : Int) : UInt8 := (c % 256).toNat.toUInt8

/-- Reads past blanks (and line ends when `lines`), answering the first
other code read. -/
def skipBlanks (lines : Bool) : Nat → ReadM Int
  | 0 => next
  | f + 1 => do
    let c ← next
    if c = 32 ∨ c = 9 ∨ (lines ∧ c = 10) then skipBlanks lines f else pure c

def readNameRest (buf : Array UInt8) : Nat → ReadM (Array UInt8)
  | 0 => pure buf
  | f + 1 => do
    if isNameCode (← peek) false then readNameRest (buf.push (byteOf (← next))) f else pure buf

def readDecimals (buf : Array UInt8) : Nat → ReadM (Array UInt8)
  | 0 => pure buf
  | f + 1 => do
    if isDecimal (← peek) then readDecimals (buf.push (byteOf (← next))) f else pure buf

def readHexDigits (buf : Array UInt8) : Nat → ReadM (Array UInt8)
  | 0 => pure buf
  | f + 1 => do
    if isHexDigit (← peek) then readHexDigits (buf.push (byteOf (← next))) f else pure buf

def scanNumeral (c : Int) (fuel : Nat) : ReadM (Array UInt8) := do
  if c = 48 then
    let p ← peek
    if p = 120 ∨ p = 88 then
      let x ← next
      let buf ← readHexDigits #[byteOf c, byteOf x] fuel
      if buf.size = 2 then readError buf "illegal hexadecimal number" else pure buf
    else
      let c ← if p ≠ 46 ∧ isDecimal p then next else pure c
      scanNumeralBody c fuel
  else scanNumeralBody c fuel
where
  scanNumeralBody (c : Int) (fuel : Nat) : ReadM (Array UInt8) := do
    let buf ← readDecimals #[byteOf c] fuel
    let buf ← if (← peek) = 46 then readDecimals (buf.push (byteOf (← next))) fuel else pure buf
    let p ← peek
    if p = 101 ∨ p = 69 then
      let buf := buf.push (byteOf (← next))
      let q ← peek
      let buf ← if q = 45 ∨ q = 43 then pure (buf.push (byteOf (← next))) else pure buf
      readDecimals (buf.push (byteOf (← next))) fuel
    else pure buf

def readEscapeDigits (digits : List Nat) : Nat → ReadM (List Nat)
  | 0 => pure digits
  | f + 1 => do
    if isDecimal (← peek) then
      let d ← next
      readEscapeDigits (digits ++ [(d - 48).toNat]) f
    else pure digits

def readEscape (buf : Array UInt8) : ReadM (Array UInt8) := do
  let c ← next
  match c with
  | 97 => pure (buf.push 7) | 98 => pure (buf.push 8) | 102 => pure (buf.push 12)
  | 110 => pure (buf.push 10) | 114 => pure (buf.push 13) | 116 => pure (buf.push 9)
  | 118 => pure (buf.push 11) | 92 => pure (buf.push 92) | 34 => pure (buf.push 34)
  | 39 => pure (buf.push 39) | 10 => pure (buf.push 10)
  | _ =>
    if isDecimal c then
      let ds ← readEscapeDigits [(c - 48).toNat] 2
      pure (buf.push (ds.foldl (fun n d => n * 10 + d) 0).toUInt8)
    else pure (buf.push (byteOf c))

def readShortString (quote : Int) (buf : Array UInt8) : Nat → ReadM (Array UInt8)
  | 0 => readError buf "unterminated string"
  | f + 1 => do
    let c ← next
    if c = quote then pure buf
    else if c = 10 ∨ c < 0 then readError buf "unterminated string"
    else if c = 92 then readShortString quote (← readEscape buf) f
    else readShortString quote (buf.push (byteOf c)) f

/-- Counts the `=` signs of a long bracket, answering the count and the code
after them. -/
def countLevel (c : Int) (n : Nat) : Nat → ReadM (Nat × Int)
  | 0 => pure (n, c)
  | f + 1 => do if c = 61 then countLevel (← next) (n + 1) f else pure (n, c)

def readLongBody (level : Nat) (c : Int) (buf : Array UInt8) : Nat → ReadM (Array UInt8)
  | 0 => readError buf "unterminated multiline string"
  | f + 1 => do
    if c < 0 then readError buf "unterminated multiline string"
    else if c = 93 then
      let (n, d) ← countLevel (← next) 0 f
      if n = level ∧ d = 93 then pure buf
      else readLongBody level d ((buf.push 93) ++ Array.replicate n 61) f
    else readLongBody level (← next) (buf.push (byteOf c)) f

/-- Reads a long string whose opening `[` was read and whose next code `c`
(a `[` or `=`) was read too. -/
def readLongString (c : Int) (fuel : Nat) : ReadM (Array UInt8) := do
  let (level, d) ← countLevel c 0 fuel
  if d ≠ 91 then readError #[byteOf d] "invalid multiline string"
  else
    let e ← next
    let e ← if e = 10 then next else pure e
    readLongBody level e #[] fuel

def skipLine (c : Int) : Nat → ReadM Unit
  | 0 => pure ()
  | f + 1 => do if c = 10 ∨ c < 0 then pure () else skipLine (← next) f

/-- Reads a comment after its `--`; a long bracket right after the dashes
opens a long comment. -/
def skipComment (fuel : Nat) : ReadM Unit := do
  if (← peek) = 91 then
    let c ← next
    let p ← peek
    if p = 91 ∨ p = 61 then
      let d ← next
      let r ← get
      match (readLongString d fuel).run r with
      | .ok _ r => set r
      | .error e r =>
        set r
        let token := if e.message = "invalid multiline string" then Bytes.empty else e.token
        throw { e with message := "invalid multiline comment", token }
    else skipLine c fuel
  else skipLine 45 fuel

def singleSymbols : List Nat := [43, 42, 47, 37, 94, 35, 40, 41, 123, 125, 93, 59, 44]

def token (kind : TokenKind) (text : Array UInt8) (start : Pos) : ReadM Token := do
  pure { kind, text := ⟨text⟩, start, stop := (← get).pos }

def readToken (fuel : Nat) : Nat → ReadM Token
  | 0 => do token .eof #[] (← get).pos
  | f + 1 => do
    let c ← skipBlanks false fuel
    let c ← if c = 10 then skipBlanks true fuel else pure c
    let start := (← get).pos
    let sym (s : String) : ReadM Token := token (.symbol s) s.toUTF8.data start
    if isNameCode c true then
      let buf ← readNameRest #[byteOf c] fuel
      let word := (Bytes.toText ⟨buf⟩)
      token (if keywords.contains word then .keyword word else .name) buf start
    else if isDecimal c then token .number (← scanNumeral c fuel) start
    else if c < 0 then token .eof #[] start
    else match c.toNat with
      | 45 =>
        if (← peek) = 45 then do
          let _ ← next
          skipComment fuel
          readToken fuel f
        else sym "-"
      | 34 => token .string (← readShortString 34 #[] fuel) start
      | 39 => token .string (← readShortString 39 #[] fuel) start
      | 91 =>
        let p ← peek
        if p = 91 ∨ p = 61 then token .string (← readLongString (← next) fuel) start
        else sym "["
      | 61 => if (← peek) = 61 then do let _ ← next; sym "==" else sym "="
      | 126 =>
        if (← peek) = 61 then do let _ ← next; sym "~="
        else readError #[126] "Invalid '~' token"
      | 60 => if (← peek) = 61 then do let _ ← next; sym "<=" else sym "<"
      | 62 => if (← peek) = 61 then do let _ ← next; sym ">=" else sym ">"
      | 46 =>
        let p ← peek
        if isDecimal p then token .number (← scanNumeral c fuel) start
        else if p = 46 then
          let _ ← next
          if (← peek) = 46 then do let _ ← next; sym "..." else sym ".."
        else token (.symbol ".") #[] start  -- a lone dot keeps no text
      | 58 => if (← peek) = 58 then do let _ ← next; sym "::" else sym ":"
      | n =>
        if singleSymbols.contains n then sym (String.singleton (Char.ofNat n))
        else readError #[byteOf c] "Invalid token"

/-- The tokens of a source, in order, and the reading error that stopped
the reader, if any; without an error the last token is the end token. -/
structure Lexed where
  tokens : Array Token
  error : Option SyntaxError

def readAll (acc : Array Token) (fuel : Nat) : Nat → Reader → Lexed
  | 0, _ => { tokens := acc, error := none }
  | f + 1, r =>
    match (readToken fuel fuel).run r with
    | .ok t r => if t.kind = .eof then { tokens := acc.push t, error := none } else readAll (acc.push t) fuel f r
    | .error e _ => { tokens := acc, error := some e }

def tokenize (src : Bytes) : Lexed :=
  let fuel := src.size + 2
  readAll #[] fuel fuel { src := src.data }

end MudClient.Lua
