/-
# Tokens of Lua source

A token is a name, a reserved word, a number, a string or a symbol, with the
text it was read from and two positions: where it begins, which gives the
line of the syntax built from it, and where the reader stood once it was
read, which is where a syntax error at that token is reported.

Positions count lines from 1 and columns in bytes; once the reader has met
the end of the source its position is *at the end*, with no line.
-/
import MudClient.Text.Bytes

namespace MudClient.Lua

/-- A position of the source reader. -/
structure Pos where
  /-- The line, or none once the end of the source was read. -/
  line : Option Nat
  col : Nat
deriving DecidableEq, Repr, Inhabited

/-- The kinds of tokens. -/
inductive TokenKind where
  | name
  | keyword (word : String)
  | number
  | string
  | symbol (sym : String)
  | eof
deriving DecidableEq, Repr, Inhabited

/-- A token. -/
structure Token where
  kind : TokenKind
  /-- The name, number text, string contents or symbol. -/
  text : Bytes
  /-- Where the token begins. -/
  start : Pos
  /-- Where the reader stood after reading it. -/
  stop : Pos
deriving Repr, Inhabited

def Token.line (t : Token) : Nat := t.start.line.getD 0

/-- A syntax or reading error: where the reader stood, what went wrong and
the text of the token it concerns. -/
structure SyntaxError where
  pos : Pos
  message : String
  token : Bytes
deriving Repr, Inhabited

def SyntaxError.render (e : SyntaxError) (chunk : Bytes) : Bytes :=
  match e.pos.line with
  | none => chunk ++ Bytes.ofString (" at EOF:   " ++ e.message ++ "\n")
  | some l =>
    chunk ++ Bytes.ofString (" line:" ++ toString l ++ "(column:" ++ toString e.pos.col ++
      ") near '") ++ e.token ++ Bytes.ofString ("':   " ++ e.message ++ "\n")

def keywords : List String :=
  ["and", "break", "do", "else", "elseif", "end", "false", "for", "function", "goto", "if", "in",
   "local", "nil", "not", "or", "repeat", "return", "then", "true", "until", "while"]

end MudClient.Lua
