/-
# Scanning YAML text into tokens

The scanner walks the characters of a text and hands out tokens one at a
time, on demand.  Indentation in the block context opens and closes block
collections: a deeper key or entry opens one, a shallower line closes
every deeper one.  A plain or quoted scalar, an alias, an anchor, a tag or
an opening bracket may turn out to be a key when a `:` follows it on the
same line within 1024 characters; such a candidate stays pending, and the
tokens after it are held back until it is settled.  A candidate at the
indentation of its block must be a key.

The scanner keeps at least three tokens ahead of the reader, so a fault a
few tokens on is found before the reader acts on the tokens before it.
-/
import MudClient.Yaml.Token

namespace MudClient.Yaml

def isBlank (c : Char) : Bool := c == ' ' || c == '\t'

def isBreak (c : Char) : Bool :=
  c == '\r' || c == '\n' || c == '\x85' || c == '\u2028' || c == '\u2029'

def isEnd (c : Char) : Bool := c == '\x00'

def isBlankEnd (c : Char) : Bool := isBlank c || isBreak c || isEnd c

def isBreakEnd (c : Char) : Bool := isBreak c || isEnd c

def isWordChar (c : Char) : Bool :=
  ('0' ≤ c && c ≤ '9') || ('a' ≤ c && c ≤ 'z') || ('A' ≤ c && c ≤ 'Z') || c == '_' || c == '-'

def isHexChar (c : Char) : Bool :=
  ('0' ≤ c && c ≤ '9') || ('a' ≤ c && c ≤ 'f') || ('A' ≤ c && c ≤ 'F')

def hexValue (c : Char) : Nat :=
  if '0' ≤ c && c ≤ '9' then c.toNat - 48
  else if 'a' ≤ c && c ≤ 'f' then c.toNat - 87
  else c.toNat - 55

/-- A place that may start a key, while it is undecided. -/
structure KeyCandidate where
  possible : Bool := false
  required : Bool := false
  /-- The number of the token the key would stand before. -/
  tokenNumber : Nat := 0
  mark : Mark := {}
deriving Inhabited

/-- The scanner: where it stands, the tokens not yet taken, the open
indentation levels and the pending key candidates, one per flow level. -/
structure Scanner where
  text : Array Char
  mark : Mark := {}
  started : Bool := false
  ended : Bool := false
  flowLevel : Nat := 0
  queue : Array Token := #[]
  taken : Nat := 0
  available : Bool := false
  indent : Int := -1
  indents : List Int := []
  keyAllowed : Bool := false
  keys : Array KeyCandidate := #[]
deriving Inhabited

/-- Text gathered while folding lines of a scalar. -/
structure Folding where
  text : String := ""
  leadingBreak : String := ""
  trailingBreaks : String := ""
  whitespaces : String := ""
  leadingBlanks : Bool := false

/-- Joins the blanks and breaks read into the text: a single line break
folds to a space, more breaks stay as breaks. -/
def Folding.joined (f : Folding) : String :=
  if f.leadingBlanks then
    if !f.leadingBreak.isEmpty && f.leadingBreak.front == '\n' then
      if f.trailingBreaks.isEmpty then f.text.push ' ' else f.text ++ f.trailingBreaks
    else f.text ++ f.leadingBreak ++ f.trailingBreaks
  else f.text ++ f.whitespaces

/-- Joins pending blanks and breaks before more characters of a plain
scalar. -/
def Folding.flush (f : Folding) : Folding :=
  if f.leadingBlanks then
    let text :=
      if f.leadingBreak.front == '\n' then
        (if f.trailingBreaks.isEmpty then f.text.push ' ' else f.text ++ f.trailingBreaks)
      else f.text ++ f.leadingBreak ++ f.trailingBreaks
    { f with text, leadingBreak := "", trailingBreaks := "", leadingBlanks := false }
  else if !f.whitespaces.isEmpty then { f with text := f.text ++ f.whitespaces, whitespaces := "" }
  else f

namespace Scanner

def ahead (s : Scanner) (k : Nat) : Char := s.text.getD (s.mark.index + k) '\x00'

def skip (s : Scanner) : Scanner :=
  { s with mark := { s.mark with index := s.mark.index + 1, column := s.mark.column + 1 } }

def skipLine (s : Scanner) : Scanner :=
  if s.ahead 0 == '\r' && s.ahead 1 == '\n' then
    { s with mark := { index := s.mark.index + 2, line := s.mark.line + 1, column := 0 } }
  else if isBreak (s.ahead 0) then
    { s with mark := { index := s.mark.index + 1, line := s.mark.line + 1, column := 0 } }
  else s

/-- Reads a line break into a text: a line feed, except that the line and
paragraph separators stay as they are. -/
def readLine (s : Scanner) (acc : String) : Scanner × String :=
  let c := s.ahead 0
  if c == '\r' || c == '\n' || c == '\x85' then (s.skipLine, acc.push '\n')
  else if c == '\u2028' || c == '\u2029' then (s.skipLine, acc.push c)
  else (s, acc)

def atDocumentMarker (s : Scanner) : Bool :=
  s.mark.column == 0 &&
    ((s.ahead 0 == '-' && s.ahead 1 == '-' && s.ahead 2 == '-') ||
     (s.ahead 0 == '.' && s.ahead 1 == '.' && s.ahead 2 == '.')) &&
    isBlankEnd (s.ahead 3)

/-- Puts a token in the queue, at the end or at a place counted from the
first token not yet taken. -/
def insertToken (s : Scanner) (pos : Option Nat) (t : Token) : Scanner :=
  match pos with
  | none => { s with queue := s.queue.push t }
  | some p => { s with queue := (s.queue.extract 0 p).push t ++ s.queue.extract p s.queue.size }

def emit (s : Scanner) (kind : TokenKind) (start : Mark) : Scanner :=
  s.insertToken none ⟨kind, start, s.mark⟩

/-! ## Key candidates -/

/-- Whether the candidate at a level still stands: it lapses once the
line is left or 1024 characters are passed, which is a fault for a
required key. -/
def checkKey (s : Scanner) (i : Nat) : Except Fault (Bool × Scanner) :=
  let k := s.keys.getD i {}
  if !k.possible then .ok (false, s)
  else if k.mark.line < s.mark.line || k.mark.index + 1024 < s.mark.index then
    if k.required then .error (scanFault k.mark s.mark "could not find expected ':'")
    else .ok (false, { s with keys := s.keys.modify i fun k => { k with possible := false } })
  else .ok (true, s)

def removeKey (s : Scanner) : Except Fault Scanner :=
  let i := s.keys.size - 1
  let k := s.keys.getD i {}
  if k.possible then
    if k.required then .error (scanFault k.mark s.mark "could not find expected ':'")
    else .ok { s with keys := s.keys.modify i fun k => { k with possible := false } }
  else .ok s

def saveKey (s : Scanner) : Except Fault Scanner :=
  if s.keyAllowed then do
    let k : KeyCandidate :=
      { possible := true, required := s.flowLevel == 0 && s.indent == (s.mark.column : Int),
        tokenNumber := s.taken + s.queue.size, mark := s.mark }
    let s ← s.removeKey
    pure { s with keys := s.keys.modify (s.keys.size - 1) fun _ => k }
  else .ok s

/-! ## Indentation -/

/-- Opens a block collection when a column is deeper than the current
indentation; the token goes before the token of the given number. -/
def rollIndent (s : Scanner) (column : Nat) (number : Option Nat) (kind : TokenKind)
    (mark : Mark) : Scanner :=
  if s.flowLevel > 0 then s
  else if s.indent < (column : Int) then
    let s := { s with indents := s.indent :: s.indents, indent := column }
    s.insertToken (number.map (· - s.taken)) ⟨kind, mark, mark⟩
  else s

def unrollIndent (s : Scanner) (column : Int) (scanMark : Mark) : Scanner :=
  if s.flowLevel > 0 then s
  else
    let blockMark := { scanMark with index := scanMark.index - 1 }
    let rec go (s : Scanner) : List Int → Scanner
      | [] => s
      | i :: rest =>
        if s.indent > column then
          go { (s.insertToken none ⟨.blockEnd, blockMark, blockMark⟩) with indent := i, indents := rest } rest
        else s
    go s s.indents

/-! ## Blanks and comments -/

/-- Moves past spaces, tabs where they are allowed, comments and line
breaks, up to the next token. -/
def toNextToken (s : Scanner) : Scanner :=
  let rec go (s : Scanner) (fuel : Nat) : Scanner :=
    match fuel with
    | 0 => s
    | fuel + 1 =>
      let s := if s.mark.column == 0 && s.ahead 0 == '\uFEFF' then s.skip else s
      let rec blanks (s : Scanner) (fuel : Nat) : Scanner :=
        match fuel with
        | 0 => s
        | fuel + 1 =>
          if s.ahead 0 == ' ' || ((s.flowLevel > 0 || !s.keyAllowed) && s.ahead 0 == '\t') then
            blanks s.skip fuel
          else s
      let s := blanks s (s.text.size + 1)
      let rec comment (s : Scanner) (fuel : Nat) : Scanner :=
        match fuel with
        | 0 => s
        | fuel + 1 => if isBreakEnd (s.ahead 0) then s else comment s.skip fuel
      let s := if s.ahead 0 == '#' then comment s (s.text.size + 1) else s
      if isBreak (s.ahead 0) then
        let s := s.skipLine
        go (if s.flowLevel == 0 then { s with keyAllowed := true } else s) fuel
      else s
  go s (s.text.size + 1)

def skipBlanks (s : Scanner) : Scanner :=
  let rec go (s : Scanner) (fuel : Nat) : Scanner :=
    match fuel with
    | 0 => s
    | fuel + 1 => if isBlank (s.ahead 0) then go s.skip fuel else s
  go s (s.text.size + 1)

def readWhile (s : Scanner) (p : Char → Bool) : Scanner × String :=
  let rec go (s : Scanner) (acc : String) (fuel : Nat) : Scanner × String :=
    match fuel with
    | 0 => (s, acc)
    | fuel + 1 => if p (s.ahead 0) then go s.skip (acc.push (s.ahead 0)) fuel else (s, acc)
  go s "" (s.text.size + 1)

def skipToBreak (s : Scanner) : Scanner := (s.readWhile fun c => !isBreakEnd c).1

/-! ## Directives -/

def versionNumber (s : Scanner) (start : Mark) : Except Fault (Nat × Scanner) :=
  let (s2, digits) := s.readWhile Char.isDigit
  if digits.length > 9 then
    .error (scanFault start (s.readWhile fun c => c.isDigit).1.mark "found extremely long version number")
  else if digits.isEmpty then .error (scanFault start s.mark "did not find expected version number")
  else .ok (digits.foldl (fun n c => n * 10 + (c.toNat - 48)) 0, s2)

def tagHandle (s : Scanner) (directive : Bool) (start : Mark) : Except Fault (String × Scanner) :=
  if s.ahead 0 != '!' then .error (scanFault start s.mark "did not find expected '!'")
  else
    let (s, word) := s.skip.readWhile isWordChar
    let h := "!" ++ word
    if s.ahead 0 == '!' then .ok (h ++ "!", s.skip)
    else if directive && h != "!" then .error (scanFault start s.mark "did not find expected '!'")
    else .ok (h, s)

def isUriChar (c : Char) (verbatim : Bool) : Bool :=
  isWordChar c || ";/?:@&=+$.%!~*'()".toList.contains c || (verbatim && ",[]".toList.contains c)

def tagUri (s : Scanner) (verbatim : Bool) (head : String) (start : Mark) :
    Except Fault (String × Scanner) :=
  let rec go (s : Scanner) (acc : String) (fuel : Nat) : Except Fault (String × Scanner) :=
    match fuel with
    | 0 => .ok (acc, s)
    | fuel + 1 =>
      let c := s.ahead 0
      if !isUriChar c verbatim then .ok (acc, s)
      else if c == '%' then
        if isHexChar (s.ahead 1) && isHexChar (s.ahead 2) then
          go s.skip.skip.skip (acc.push (Char.ofNat (hexValue (s.ahead 1) * 16 + hexValue (s.ahead 2)))) fuel
        else .error (scanFault start s.mark "did not find URI escaped octet")
      else go s.skip (acc.push c) fuel
  match go s (head.drop 1).toString (s.text.size + 1) with
  | .error e => .error e
  | .ok (uri, s2) =>
    if head.length ≤ 1 && s2.mark.index == s.mark.index then
      .error (scanFault start s2.mark "did not find expected tag URI")
    else .ok (uri, s2)

def scanDirective (s : Scanner) : Except Fault (Token × Scanner) := do
  let start := s.mark
  let (s, name) := s.skip.readWhile isWordChar
  if name.isEmpty then throw (scanFault start s.mark "could not find expected directive name")
  if !isBlankEnd (s.ahead 0) then throw (scanFault start s.mark "found unexpected non-alphabetical character")
  let (kind, s) ← if name == "YAML" then do
      let s := s.skipBlanks
      let (major, s) ← s.versionNumber start
      if s.ahead 0 != '.' then throw (scanFault start s.mark "did not find expected digit or '.' character")
      let (minor, s) ← s.skip.versionNumber start
      pure (TokenKind.versionDirective major minor, s)
    else if name == "TAG" then do
      let s := s.skipBlanks
      let (handle, s) ← s.tagHandle true start
      if !isBlank (s.ahead 0) then throw (scanFault start s.mark "did not find expected whitespace")
      let s := s.skipBlanks
      let (pre, s) ← s.tagUri true "" start
      if !isBlankEnd (s.ahead 0) then
        throw (scanFault start s.mark "did not find expected whitespace or line break")
      pure (TokenKind.tagDirective handle pre, s)
    else throw (scanFault start s.mark "found unknown directive name")
  let stop := s.mark
  let s := s.skipBlanks
  let s := if s.ahead 0 == '#' then s.skipToBreak else s
  if !isBreakEnd (s.ahead 0) then
    throw (scanFault start s.mark "did not find expected comment or line break")
  let s := if isBreak (s.ahead 0) then s.skipLine else s
  pure (⟨kind, start, stop⟩, s)

/-! ## Anchors and tags -/

def scanAnchor (s : Scanner) (isAlias : Bool) : Except Fault (Token × Scanner) :=
  let start := s.mark
  let (s, name) := s.skip.readWhile isWordChar
  let c := s.ahead 0
  if name.isEmpty || !(isBlankEnd c || "?:,]\x7d%@".toList.contains c || c.toNat == 96) then
    .error (scanFault start s.mark "did not find expected alphabetic or numeric character")
  else .ok (⟨if isAlias then .alias name else .anchor name, start, s.mark⟩, s)

def scanTag (s : Scanner) : Except Fault (Token × Scanner) := do
  let start := s.mark
  let (handle, suffix, s) ← if s.ahead 1 == '<' then do
      let (suffix, s) ← s.skip.skip.tagUri true "" start
      if s.ahead 0 != '>' then throw (scanFault start s.mark "did not find the expected '>'")
      pure ("", suffix, s.skip)
    else do
      let (handle, s) ← s.tagHandle false start
      if handle.length > 1 && handle.back == '!' then
        let (suffix, s) ← s.tagUri false "" start
        pure (handle, suffix, s)
      else
        let (suffix, s) ← s.tagUri false handle start
        if suffix.isEmpty then pure ("", "!", s) else pure ("!", suffix, s)
  if !isBlankEnd (s.ahead 0) && (s.flowLevel == 0 || s.ahead 0 != ',') then
    throw (scanFault start s.mark "did not find expected whitespace or line break")
  pure (⟨.tag handle suffix, start, s.mark⟩, s)

/-! ## Block scalars -/

/-- Moves past indentation and empty lines before a line of a block
scalar, and settles the indentation when it is not yet known. -/
def blockBreaks (s : Scanner) (indent : Nat) (breaks : String) (start : Mark) :
    Except Fault (Scanner × Nat × String × Mark) :=
  let rec go (s : Scanner) (breaks : String) (stop : Mark) (maxIndent : Nat) (fuel : Nat) :
      Except Fault (Scanner × String × Mark × Nat) :=
    match fuel with
    | 0 => .ok (s, breaks, stop, maxIndent)
    | fuel + 1 =>
      let rec spaces (s : Scanner) (fuel : Nat) : Scanner :=
        match fuel with
        | 0 => s
        | fuel + 1 =>
          if (indent == 0 || s.mark.column < indent) && s.ahead 0 == ' ' then spaces s.skip fuel else s
      let s := spaces s (s.text.size + 1)
      let maxIndent := max maxIndent s.mark.column
      if (indent == 0 || s.mark.column < indent) && s.ahead 0 == '\t' then
        .error (scanFault start s.mark "found a tab character where an indentation space is expected")
      else if !isBreak (s.ahead 0) then .ok (s, breaks, stop, maxIndent)
      else
        let (s, breaks) := s.readLine breaks
        go s breaks s.mark maxIndent fuel
  match go s breaks s.mark 0 (s.text.size + 1) with
  | .error e => .error e
  | .ok (s2, breaks, stop, maxIndent) =>
    let indent :=
      if indent == 0 then max (max maxIndent (s2.indent + 1).toNat) 1 else indent
    .ok (s2, indent, breaks, stop)

def scanBlockScalar (s : Scanner) (literal : Bool) : Except Fault (Token × Scanner) := do
  let start := s.mark
  let s := s.skip
  let sign (c : Char) : Int := if c == '+' then 1 else -1
  let (chomping, increment, s) ← if s.ahead 0 == '+' || s.ahead 0 == '-' then do
      let ch := sign (s.ahead 0)
      let s := s.skip
      if (s.ahead 0).isDigit then
        if s.ahead 0 == '0' then
          throw (scanFault start s.mark "found an indentation indicator equal to 0")
        pure (ch, (s.ahead 0).toNat - 48, s.skip)
      else pure (ch, 0, s)
    else if (s.ahead 0).isDigit then do
      if s.ahead 0 == '0' then throw (scanFault start s.mark "found an indentation indicator equal to 0")
      let inc := (s.ahead 0).toNat - 48
      let s := s.skip
      if s.ahead 0 == '+' || s.ahead 0 == '-' then pure (sign (s.ahead 0), inc, s.skip)
      else pure ((0 : Int), inc, s)
    else pure ((0 : Int), 0, s)
  let s := s.skipBlanks
  let s := if s.ahead 0 == '#' then s.skipToBreak else s
  if !isBreakEnd (s.ahead 0) then
    throw (scanFault start s.mark "did not find expected comment or line break")
  let s := if isBreak (s.ahead 0) then s.skipLine else s
  let indent : Nat := if increment > 0 then
      (if s.indent ≥ 0 then s.indent.toNat + increment else increment) else 0
  let (s, indent, trailing, stop) ← s.blockBreaks indent "" start
  let rec lines (s : Scanner) (text leading trailing : String) (leadingBlank : Bool) (stop : Mark)
      (fuel : Nat) : Except Fault (Scanner × String × String × String × Mark) :=
    match fuel with
    | 0 => .ok (s, text, leading, trailing, stop)
    | fuel + 1 =>
      if !(s.mark.column == indent && !isEnd (s.ahead 0)) then .ok (s, text, leading, trailing, stop)
      else
        let trailingBlank := isBlank (s.ahead 0)
        let text :=
          if !literal && !leadingBlank && !trailingBlank && leading.front == '\n' && !leading.isEmpty then
            (if trailing.isEmpty then text.push ' ' else text)
          else text ++ leading
        let text := text ++ trailing
        let leadingBlank := isBlank (s.ahead 0)
        let (s, line) := s.readWhile fun c => !isBreakEnd c
        let text := text ++ line
        let (s, leading) := s.readLine ""
        match s.blockBreaks indent "" start with
        | .error e => .error e
        | .ok (s, _, trailing, stop) => lines s text leading trailing leadingBlank stop fuel
  let (s, text, leading, trailing, stop) ← lines s "" "" trailing false stop (s.text.size + 1)
  let text := if chomping != -1 then text ++ leading else text
  let text := if chomping == 1 then text ++ trailing else text
  pure (⟨.scalar text (if literal then .literal else .folded), start, stop⟩, s)

/-! ## Quoted scalars -/

/-- The character of a one-letter escape in a double-quoted scalar, or the
number of hexadecimal digits that follow. -/
def escapeOf (c : Char) : Option (Sum Char Nat) :=
  match c with
  | '0' => some (.inl '\x00') | 'a' => some (.inl '\x07') | 'b' => some (.inl '\x08')
  | 't' => some (.inl '\t') | '\t' => some (.inl '\t') | 'n' => some (.inl '\n')
  | 'v' => some (.inl '\x0b') | 'f' => some (.inl '\x0c') | 'r' => some (.inl '\r')
  | 'e' => some (.inl '\x1b') | ' ' => some (.inl ' ') | '"' => some (.inl '"')
  | '/' => some (.inl '/') | '\'' => some (.inl '\'') | '\\' => some (.inl '\\')
  | 'N' => some (.inl '\x85') | '_' => some (.inl '\xa0') | 'L' => some (.inl '\u2028')
  | 'P' => some (.inl '\u2029') | 'x' => some (.inr 2) | 'u' => some (.inr 4)
  | 'U' => some (.inr 8)
  | _ => none

/-- Reads the characters of a quoted scalar up to a blank, a break or the
closing quote; also says whether an escaped line break was read. -/
def quotedChars (single : Bool) (start : Mark) :
    Scanner → String → Nat → Except Fault (Scanner × String × Bool)
  | s, text, 0 => .ok (s, text, false)
  | s, text, fuel + 1 =>
    let c := s.ahead 0
    if isBlankEnd c then .ok (s, text, false)
    else if single && c == '\'' && s.ahead 1 == '\'' then quotedChars single start s.skip.skip (text.push '\'') fuel
    else if single && c == '\'' then .ok (s, text, false)
    else if !single && c == '"' then .ok (s, text, false)
    else if !single && c == '\\' && isBreak (s.ahead 1) then .ok (s.skip.skipLine, text, true)
    else if !single && c == '\\' then
      match escapeOf (s.ahead 1) with
      | none => .error (scanFault start s.mark "found unknown escape character")
      | some (.inl e) => quotedChars single start s.skip.skip (text.push e) fuel
      | some (.inr n) =>
        let s := s.skip.skip
        let digits := (List.range n).map fun k => s.ahead k
        match (List.range n).find? fun k => !isHexChar (s.ahead k) with
        | some _ => .error (scanFault start s.mark "did not find expected hexdecimal number")
        | none =>
          let v := digits.foldl (fun v c => v * 16 + hexValue c) 0
          if (0xD800 ≤ v && v ≤ 0xDFFF) || v > 0x10FFFF then
            .error (scanFault start s.mark "found invalid Unicode character escape code")
          else
            let s := (List.range n).foldl (fun s _ => s.skip) s
            quotedChars single start s (text.push (Char.ofNat v)) fuel
    else quotedChars single start s.skip (text.push c) fuel

def quotedBlanks : Scanner → Folding → Nat → Scanner × Folding
  | s, f, 0 => (s, f)
  | s, f, fuel + 1 =>
    let c := s.ahead 0
    if isBlank c then
      if !f.leadingBlanks then quotedBlanks s.skip { f with whitespaces := f.whitespaces.push c } fuel
      else quotedBlanks s.skip f fuel
    else if isBreak c then
      if !f.leadingBlanks then
        let (s, lb) := s.readLine ""
        quotedBlanks s { f with whitespaces := "", leadingBreak := lb, leadingBlanks := true } fuel
      else
        let (s, tb) := s.readLine f.trailingBreaks
        quotedBlanks s { f with trailingBreaks := tb } fuel
    else (s, f)

def scanQuoted (s : Scanner) (single : Bool) : Except Fault (Token × Scanner) :=
  let start := s.mark
  let rec go (s : Scanner) (text : String) (fuel : Nat) : Except Fault (Scanner × String) :=
    match fuel with
    | 0 => .ok (s, text)
    | fuel + 1 =>
      if s.atDocumentMarker then .error (scanFault start s.mark "found unexpected document indicator")
      else if isEnd (s.ahead 0) then .error (scanFault start s.mark "found unexpected end of stream")
      else
        match quotedChars single start s text (s.text.size + 1) with
        | .error e => .error e
        | .ok (s, text, lb) =>
          let c := s.ahead 0
          if (single && c == '\'') || (!single && c == '"') then .ok (s, text)
          else
            let (s, f) := quotedBlanks s { text, leadingBlanks := lb } (s.text.size + 1)
            go s f.joined fuel
  match go s.skip "" (s.text.size + 1) with
  | .error e => .error e
  | .ok (s, text) =>
    let s := s.skip
    .ok (⟨.scalar text (if single then .single else .double), start, s.mark⟩, s)

/-! ## Plain scalars -/

/-- Reads the characters of a plain scalar up to a blank or an indicator
that ends it. -/
def plainChars : Scanner → Folding → Mark → Nat → Scanner × Folding × Mark
  | s, f, stop, 0 => (s, f, stop)
  | s, f, stop, fuel + 1 =>
    let c := s.ahead 0
    if isBlankEnd c then (s, f, stop)
    else if (c == ':' && isBlankEnd (s.ahead 1)) ||
        (s.flowLevel > 0 && (c == ',' || c == '?' || c == '[' || c == ']' || c == '{' || c == '}')) then
      (s, f, stop)
    else
      let f := f.flush
      let s := s.skip
      plainChars s { f with text := f.text.push c } s.mark fuel

def plainBlanks (indent : Int) (start : Mark) : Scanner → Folding → Nat → Except Fault (Scanner × Folding)
  | s, f, 0 => .ok (s, f)
  | s, f, fuel + 1 =>
    let c := s.ahead 0
    if isBlank c then
      if f.leadingBlanks && (s.mark.column : Int) < indent && c == '\t' then
        .error (scanFault start s.mark "found a tab character that violates indentation")
      else if !f.leadingBlanks then
        plainBlanks indent start s.skip { f with whitespaces := f.whitespaces.push c } fuel
      else plainBlanks indent start s.skip f fuel
    else if isBreak c then
      if !f.leadingBlanks then
        let (s, lb) := s.readLine ""
        plainBlanks indent start s { f with whitespaces := "", leadingBreak := lb, leadingBlanks := true } fuel
      else
        let (s, tb) := s.readLine f.trailingBreaks
        plainBlanks indent start s { f with trailingBreaks := tb } fuel
    else .ok (s, f)

/-- Scans a plain scalar, which may run over several lines while they are
indented deeper than the current block. -/
def scanPlain (s : Scanner) : Except Fault (Token × Scanner) :=
  let start := s.mark
  let indent := s.indent + 1
  let rec go (s : Scanner) (f : Folding) (stop : Mark) (fuel : Nat) : Except Fault (Scanner × Folding × Mark) :=
    match fuel with
    | 0 => .ok (s, f, stop)
    | fuel + 1 =>
      if s.atDocumentMarker || s.ahead 0 == '#' then .ok (s, f, stop)
      else
        let (s, f, stop) := plainChars s f stop (s.text.size + 1)
        if !(isBlank (s.ahead 0) || isBreak (s.ahead 0)) then .ok (s, f, stop)
        else
          match plainBlanks indent start s f (s.text.size + 1) with
          | .error e => .error e
          | .ok (s, f) =>
            if s.flowLevel == 0 && (s.mark.column : Int) < indent then .ok (s, f, stop)
            else go s f stop fuel
  match go s {} start (s.text.size + 1) with
  | .error e => .error e
  | .ok (s, f, stop) =>
    let s := if f.leadingBlanks then { s with keyAllowed := true } else s
    .ok (⟨.scalar f.text .plain, start, stop⟩, s)

/-! ## Tokens -/

def fetchStreamStart (s : Scanner) : Scanner :=
  let s := { s with indent := -1, keys := s.keys.push {}, keyAllowed := true, started := true }
  s.emit .streamStart s.mark

def fetchStreamEnd (s : Scanner) : Except Fault Scanner := do
  let s := if s.mark.column != 0 then
      { s with mark := { s.mark with column := 0, line := s.mark.line + 1 } } else s
  let s := s.unrollIndent (-1) s.mark
  let s ← s.removeKey
  let s := { s with keyAllowed := false, ended := true }
  pure (s.emit .streamEnd s.mark)

def withToken (s : Scanner) (scan : Scanner → Except Fault (Token × Scanner)) : Except Fault Scanner := do
  let (t, s) ← scan s
  pure (s.insertToken none t)

def fetchFlowStart (s : Scanner) (seq : Bool) : Except Fault Scanner := do
  let s ← s.saveKey
  let s := { s with keys := s.keys.push { mark := s.mark }, flowLevel := s.flowLevel + 1,
                    keyAllowed := true }
  pure (s.skip.emit (if seq then .flowSequenceStart else .flowMappingStart) s.mark)

def fetchFlowEnd (s : Scanner) (seq : Bool) : Except Fault Scanner := do
  let s ← s.removeKey
  let s := if s.flowLevel > 0 then { s with flowLevel := s.flowLevel - 1, keys := s.keys.pop } else s
  let s := { s with keyAllowed := false }
  pure (s.skip.emit (if seq then .flowSequenceEnd else .flowMappingEnd) s.mark)

def fetchFlowEntry (s : Scanner) : Except Fault Scanner := do
  let s ← s.removeKey
  pure ({ s with keyAllowed := true }.skip.emit .flowEntry s.mark)

/-- A `-` entry of a block sequence, which opens the sequence when it is
deeper than the current block. -/
def fetchBlockEntry (s : Scanner) : Except Fault Scanner := do
  let s ← if s.flowLevel == 0 then
      if !s.keyAllowed then
        throw (scanFault s.mark s.mark "block sequence entries are not allowed in this context")
      else pure (s.rollIndent s.mark.column none .blockSequenceStart s.mark)
    else pure s
  let s ← s.removeKey
  pure ({ s with keyAllowed := true }.skip.emit .blockEntry s.mark)

def fetchExplicitKey (s : Scanner) : Except Fault Scanner := do
  let s ← if s.flowLevel == 0 then
      if !s.keyAllowed then
        throw (scanFault s.mark s.mark "mapping keys are not allowed in this context")
      else pure (s.rollIndent s.mark.column none .blockMappingStart s.mark)
    else pure s
  let s ← s.removeKey
  pure ({ s with keyAllowed := s.flowLevel == 0 }.skip.emit .key s.mark)

/-- A `:` before a value: the pending candidate, if it still stands,
becomes a key, and may open a block mapping. -/
def fetchValue (s : Scanner) : Except Fault Scanner := do
  let i := s.keys.size - 1
  let (valid, s) ← s.checkKey i
  let s ← if valid then
      let k := s.keys.getD i {}
      let s := s.insertToken (some (k.tokenNumber - s.taken)) ⟨.key, k.mark, k.mark⟩
      let s := s.rollIndent k.mark.column (some k.tokenNumber) .blockMappingStart k.mark
      pure { s with keys := s.keys.modify i (fun k => { k with possible := false }), keyAllowed := false }
    else if s.flowLevel == 0 then
      if !s.keyAllowed then
        throw (scanFault s.mark s.mark "mapping values are not allowed in this context")
      else pure { (s.rollIndent s.mark.column none .blockMappingStart s.mark) with keyAllowed := true }
    else pure { s with keyAllowed := false }
  pure (s.skip.emit .value s.mark)

def fetchDocumentMarker (s : Scanner) (start : Bool) : Except Fault Scanner := do
  let s := s.unrollIndent (-1) s.mark
  let s ← s.removeKey
  let s := { s with keyAllowed := false }
  pure (s.skip.skip.skip.emit (if start then .documentStart else .documentEnd) s.mark)

def fetchDirective (s : Scanner) : Except Fault Scanner := do
  let s := s.unrollIndent (-1) s.mark
  let s ← s.removeKey
  { s with keyAllowed := false }.withToken scanDirective

def fetchKeyLike (s : Scanner) (scan : Scanner → Except Fault (Token × Scanner)) :
    Except Fault Scanner := do
  let s ← s.saveKey
  { s with keyAllowed := false }.withToken scan

def fetchBlockScalar (s : Scanner) (literal : Bool) : Except Fault Scanner := do
  let s ← s.removeKey
  { s with keyAllowed := true }.withToken fun s => s.scanBlockScalar literal

def startsPlain (s : Scanner) : Bool :=
  let c := s.ahead 0
  !(isBlankEnd c || "-?:,[]\x7b\x7d#&*!|>'\"%@".toList.contains c || c.toNat == 96) ||
    (c == '-' && !isBlank (s.ahead 1)) ||
    (s.flowLevel == 0 && (c == '?' || c == ':') && !isBlankEnd (s.ahead 1))

def fetchAt (s : Scanner) : Except Fault Scanner :=
  let c := s.ahead 0
  if isEnd c then s.fetchStreamEnd
  else if s.mark.column == 0 && c == '%' then s.fetchDirective
  else if s.atDocumentMarker then s.fetchDocumentMarker (c == '-')
  else if c == '[' || c == '{' then s.fetchFlowStart (c == '[')
  else if c == ']' || c == '}' then s.fetchFlowEnd (c == ']')
  else if c == ',' then s.fetchFlowEntry
  else if c == '-' && isBlankEnd (s.ahead 1) then s.fetchBlockEntry
  else if c == '?' && (s.flowLevel > 0 || isBlankEnd (s.ahead 1)) then s.fetchExplicitKey
  else if c == ':' && (s.flowLevel > 0 || isBlankEnd (s.ahead 1)) then s.fetchValue
  else if c == '*' || c == '&' then s.fetchKeyLike fun s => s.scanAnchor (c == '*')
  else if c == '!' then s.fetchKeyLike scanTag
  else if (c == '|' || c == '>') && s.flowLevel == 0 then s.fetchBlockScalar (c == '|')
  else if c == '\'' || c == '"' then s.fetchKeyLike fun s => s.scanQuoted (c == '\'')
  else if s.startsPlain then s.fetchKeyLike scanPlain
  else .error (scanFault s.mark s.mark "found character that cannot start any token")

def fetchNext (s : Scanner) : Except Fault Scanner :=
  if !s.started then .ok s.fetchStreamStart
  else
    let scanMark := s.mark
    let s := s.toNextToken
    (s.unrollIndent s.mark.column scanMark).fetchAt

/-- Whether more tokens must be read before the first one can be handed
out: fewer than three are queued, or the first may still turn out to be
preceded by a key. -/
def needsMore (s : Scanner) : Except Fault (Bool × Scanner) :=
  if s.queue.size > 2 then
    match (List.range s.keys.size).reverse.find? (fun i =>
        let k := s.keys.getD i {}
        k.possible && k.tokenNumber == s.taken) with
    | none => .ok (false, s)
    | some i => s.checkKey i
  else .ok (!s.ended || s.queue.isEmpty, s)

def fill (s : Scanner) : Except Fault Scanner :=
  let rec go (s : Scanner) (fuel : Nat) : Except Fault Scanner :=
    match fuel with
    | 0 => .ok s
    | fuel + 1 => do
      let (more, s) ← s.needsMore
      if more && !(s.ended && !s.queue.isEmpty) then go (← s.fetchNext) fuel
      else pure s
  go s (2 * s.text.size + 16)

def peek (s : Scanner) : Except Fault (Token × Scanner) := do
  let s ← if s.available then pure s else s.fill
  let s := { s with available := true }
  match s.queue[0]? with
  | some t => pure (t, s)
  | none => pure (⟨.streamEnd, s.mark, s.mark⟩, s)

def take (s : Scanner) : Scanner :=
  { s with queue := s.queue.extract 1 s.queue.size, taken := s.taken + 1, available := false }

end Scanner

/-- Checks the characters of a text, as read from UTF-8: each must be a
printable character, a tab or a line break. -/
def checkCharacters (b : Array UInt8) : Except Fault (Array Char) :=
  let fault (p : String) : Except Fault (Array Char) := .error { stage := .reader, problem := p }
  let rec go (i : Nat) (acc : Array Char) (fuel : Nat) : Except Fault (Array Char) :=
    match fuel with
    | 0 => .ok acc
    | fuel + 1 =>
      if i ≥ b.size then .ok acc
      else
        let c := b.getD i 0
        let (width, lead) : Nat × Nat :=
          if c &&& 0x80 == 0 then (1, (c &&& 0x7F).toNat)
          else if c &&& 0xE0 == 0xC0 then (2, (c &&& 0x1F).toNat)
          else if c &&& 0xF0 == 0xE0 then (3, (c &&& 0x0F).toNat)
          else if c &&& 0xF8 == 0xF0 then (4, (c &&& 0x07).toNat)
          else (0, 0)
        if width == 0 then fault "invalid leading UTF-8 octet"
        else if i + width > b.size then fault "incomplete UTF-8 octet sequence"
        else
          let tail := (List.range (width - 1)).map fun k => b.getD (i + 1 + k) 0
          if tail.any (fun t => t &&& 0xC0 != 0x80) then fault "invalid trailing UTF-8 octet"
          else
            let v := tail.foldl (fun v t => v * 64 + (t &&& 0x3F).toNat) lead
            if !(width == 1 || (width == 2 && v ≥ 0x80) || (width == 3 && v ≥ 0x800) ||
                (width == 4 && v ≥ 0x10000)) then fault "invalid length of a UTF-8 sequence"
            else if (0xD800 ≤ v && v ≤ 0xDFFF) || v > 0x10FFFF then fault "invalid Unicode character"
            else if !(v == 0x09 || v == 0x0A || v == 0x0D || (0x20 ≤ v && v ≤ 0x7E) || v == 0x85 ||
                (0xA0 ≤ v && v ≤ 0xD7FF) || (0xE000 ≤ v && v ≤ 0xFFFD) || (0x10000 ≤ v && v ≤ 0x10FFFF)) then
              fault "control characters are not allowed"
            else go (i + width) (acc.push (Char.ofNat v)) fuel
  let start := if b.size ≥ 3 && b.getD 0 0 == 0xEF && b.getD 1 0 == 0xBB && b.getD 2 0 == 0xBF then 3 else 0
  go start #[] (b.size + 1)

end MudClient.Yaml
