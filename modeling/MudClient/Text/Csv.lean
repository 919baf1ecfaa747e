/-
# The first record of comma-separated text

A record is one line of fields divided by commas.  A field may be quoted:
it then runs to the next lone quote, a doubled quote stands for one quote,
and it may span lines.  A quote inside a field that is not quoted, or a
closing quote followed by anything but a comma or the end of the line, is
refused, with the line and the column (counted in bytes from 1) where it
stands.  Empty lines before the record are skipped; text with no record at
all is refused as ended.  Lines end at a line feed, and a carriage return
before it belongs to the ending.
-/
import MudClient.Text.Space

namespace MudClient.Text.Csv

/-- What is wrong with a record. -/
inductive Flaw where
  /-- A quote in a field that is not quoted. -/
  | bareQuote
  /-- A quote that neither closes a quoted field nor is doubled, or a
  quoted field that never closes. -/
  | quote
deriving DecidableEq, Repr

def Flaw.text : Flaw → String
  | .bareQuote => "bare \" in non-quoted-field"
  | .quote => "extraneous or missing \" in quoted-field"

/-- A refused record: where it starts, where the flaw stands, and what it is. -/
structure Refusal where
  startLine : Nat
  line : Nat
  column : Nat
  flaw : Flaw
deriving DecidableEq, Repr

def Refusal.message (r : Refusal) : String :=
  let at_ := "parse error on line " ++ toString r.line ++ ", column " ++ toString r.column ++ ": " ++ r.flaw.text
  if r.startLine != r.line then "record on line " ++ toString r.startLine ++ "; " ++ at_ else at_

/-- Why no record could be read: the text ended first, or the record was
refused. -/
inductive NoRecord where
  | ended
  | refused (r : Refusal)
deriving DecidableEq, Repr

def NoRecord.message : NoRecord → String
  | .ended => "EOF"
  | .refused r => r.message

/-- The lines of a text, each with its line feed when it has one; a
carriage return before a line feed, or at the very end, is dropped. -/
def lines (cs : List Char) : List (List Char) :=
  let parts := (String.ofList cs).splitOn "\n"
  let n := parts.length
  let shaped := parts.zipIdx.map fun (p, i) =>
    let p := p.toList
    let p := if p.getLast? == some '\r' then p.dropLast else p
    if i + 1 < n then p ++ ['\n'] else p
  shaped.filter (!·.isEmpty)

def width (cs : List Char) : Nat := cs.foldl (fun n c => n + c.utf8Size) 0

def blank (l : List Char) : Bool := l == ['\n']

def indexOf (l : List Char) (c : Char) : Option Nat := l.findIdx? (· == c)

/-- The fields of a record that starts on line `start`: `line` is the rest
of the current line, numbered `n`, at column `col`, and `more` the lines
after it; `acc` holds the fields so far and `cur` the quoted text read so
far of the field being read.  Each round consumes text, so a round per
character and line suffices. -/
def fields (start : Nat) : Nat → List Char → Nat → Nat → List (List Char) → List String →
    Option (List Char) → Except Refusal (List String)
  | 0, _, _, _, _, acc, _ => .ok acc
  | fuel + 1, line, n, col, more, acc, none =>
    if line.head? != some '"' then
      let field := match indexOf line ',' with
        | some i => line.take i
        | none => if line.getLast? == some '\n' then line.dropLast else line
      match indexOf field '"' with
      | some j => .error ⟨start, n, col + width (field.take j), .bareQuote⟩
      | none =>
        let acc := acc ++ [String.ofList field]
        match indexOf line ',' with
        | some i => fields start fuel (line.drop (i + 1)) n (col + width (line.take i) + 1) more acc none
        | none => .ok acc
    else fields start fuel (line.drop 1) n (col + 1) more acc (some [])
  | fuel + 1, line, n, col, more, acc, some cur =>
    match indexOf line '"' with
    | some i =>
      let seg := line.take i
      let cur := cur ++ seg
      let col := col + width seg + 1
      let line := line.drop (i + 1)
      match line with
      | '"' :: rest => fields start fuel rest n (col + 1) more acc (some (cur ++ ['"']))
      | ',' :: rest => fields start fuel rest n (col + 1) more (acc ++ [String.ofList cur]) none
      | [] | ['\n'] => .ok (acc ++ [String.ofList cur])
      | _ => .error ⟨start, n, col - 1, .quote⟩
    | none =>
      if line.isEmpty then .error ⟨start, n, col, .quote⟩
      else
        let cur := cur ++ line
        match more with
        | next :: rest => fields start fuel next (n + 1) 1 rest acc (some cur)
        | [] => fields start fuel [] n (col + width line) [] acc (some cur)

def firstRecord (s : String) : Except NoRecord (List String) :=
  let ls := lines s.toList
  let skipped := (ls.takeWhile blank).length
  match ls.drop skipped with
  | [] => .error .ended
  | line :: more =>
    let n := skipped + 1
    match fields n (s.length + ls.length + 2) line n 1 more [] none with
    | .ok fs => .ok fs
    | .error r => .error (.refused r)

end MudClient.Text.Csv
