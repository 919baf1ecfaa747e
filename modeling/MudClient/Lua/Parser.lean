/-
# Parsing Lua chunks

A recursive-descent parser over the tokens of a chunk.  The grammar is that
of Lua 5.1 with labels and `goto`; `return` and `break` end a block, and a
lone `;` is an empty statement.  Binary operators bind, from loosest to
tightest: `or`; `and`; the comparisons; `..` (to the right); `+ -`;
`* / %`; the unary operators `not - #`; and `^` (to the right), so
`-x^2` is `-(x^2)`.

A syntax error is reported at the first token that no chunk could continue
with, at the position the reader reached after that token, with the
message `syntax error`.  An expression that stands as a statement without
being a call is refused with the message `parse error` at the token after
it.  Fields of a table constructor may be divided by several separators.

## Main statements

* `parseChunk`: the chunk a source holds, or the first syntax or reading
  error in it.
-/
import MudClient.Lua.Lexer
import MudClient.Lua.Syntax

namespace MudClient.Lua

/-- The parser's state: the tokens, the reading error after them, and the
index of the next token. -/
structure Cursor where
  toks : Array Token
  lexError : Option SyntaxError
  i : Nat := 0

abbrev ParseM := EStateM SyntaxError Cursor

def cur : ParseM Token := do
  let s ← get
  match s.toks[s.i]? with
  | some t => pure t
  | none =>
    match s.lexError with
    | some e => throw e
    | none => pure (s.toks.back?.getD default)

def lookahead : ParseM Token := do
  let s ← get
  match s.toks[s.i + 1]? with
  | some t => pure t
  | none => pure default

def advance : ParseM Unit := modify fun s => { s with i := s.i + 1 }

def syntaxError : ParseM α := do
  let t ← cur
  throw { pos := t.stop, message := "syntax error", token := t.text }

/-- Fails at the next token on an expression that stands as a statement but
is no call. -/
def notCallable : ParseM α := do
  let t ← cur
  throw { pos := t.stop, message := "parse error", token := t.text }

def Token.isSym (t : Token) (s : String) : Bool := t.kind == .symbol s

def Token.isKw (t : Token) (k : String) : Bool := t.kind == .keyword k

def expectSym (s : String) : ParseM Token := do
  let t ← cur
  if t.isSym s then advance; pure t else syntaxError

def expectKw (k : String) : ParseM Token := do
  let t ← cur
  if t.isKw k then advance; pure t else syntaxError

def expectName : ParseM (String × Token) := do
  let t ← cur
  if t.kind == .name then advance; pure (t.text.toText, t) else syntaxError

/-- The binary operator a token stands for, with its left and right binding
powers. -/
def binaryOp (t : Token) : Option (Nat × Nat × (Expr → Expr → Nat → Expr)) :=
  let op (o : BinOp) (l r : Nat) := some (l, r, fun a b ln => Expr.binop o a b ln)
  match t.kind with
  | .keyword "or" => some (1, 1, fun a b ln => Expr.or a b ln)
  | .keyword "and" => some (2, 2, fun a b ln => Expr.and a b ln)
  | .symbol "<" => op .lt 3 3 | .symbol ">" => op .gt 3 3 | .symbol "<=" => op .le 3 3
  | .symbol ">=" => op .ge 3 3 | .symbol "~=" => op .ne 3 3 | .symbol "==" => op .eq 3 3
  | .symbol ".." => op .concat 5 4
  | .symbol "+" => op .add 6 6 | .symbol "-" => op .sub 6 6
  | .symbol "*" => op .mul 7 7 | .symbol "/" => op .div 7 7 | .symbol "%" => op .mod 7 7
  | .symbol "^" => op .pow 10 9
  | _ => none

def unaryOp (t : Token) : Option UnOp :=
  match t.kind with
  | .keyword "not" => some .not
  | .symbol "-" => some .neg
  | .symbol "#" => some .len
  | _ => none

def unaryPower : Nat := 8

def endsBlock (t : Token) : Bool :=
  t.isKw "end" || t.isKw "else" || t.isKw "elseif" || t.isKw "until" || t.kind == .eof

def beginsExpr (t : Token) : Bool :=
  match t.kind with
  | .name | .number | .string => true
  | .keyword k => k = "nil" || k = "true" || k = "false" || k = "function" || k = "not"
  | .symbol s => s = "..." || s = "\x7b" || s = "(" || s = "-" || s = "#"
  | .eof => false

def Expr.isTarget : Expr → Bool
  | .name .. | .index .. => true
  | _ => false

namespace Parse

mutual

/-- Parses a block: statements up to a token that ends it, or up to a
`return` or `break` with its optional `;`. -/
def block : Nat → List Stmt → ParseM (List Stmt)
  | 0, _ => syntaxError
  | f + 1, acc => do
    let t ← cur
    if endsBlock t then pure acc.reverse
    else if t.isSym ";" then advance; block f acc
    else if t.isKw "return" then
      advance
      let n ← cur
      let values ← if beginsExpr n then exprList f [] else pure []
      if (← cur).isSym ";" then advance
      pure (Stmt.ret values t.line :: acc).reverse
    else if t.isKw "break" then
      advance
      if (← cur).isSym ";" then advance
      pure (Stmt.brk t.line :: acc).reverse
    else
      let s ← statement f
      block f (s :: acc)

def statement : Nat → ParseM Stmt
  | 0 => syntaxError
  | f + 1 => do
    let t ← cur
    match t.kind with
    | .keyword "if" =>
      advance
      let c ← expr f 0
      let _ ← expectKw "then"
      let b ← block f []
      ifRest f [(c, b)] t.line
    | .keyword "while" =>
      advance
      let c ← expr f 0
      let _ ← expectKw "do"
      let b ← block f []
      let _ ← expectKw "end"
      pure (.while c b t.line)
    | .keyword "do" =>
      advance
      let b ← block f []
      let _ ← expectKw "end"
      pure (.block b t.line)
    | .keyword "repeat" =>
      advance
      let b ← block f []
      let _ ← expectKw "until"
      let c ← expr f 0
      pure (.repeat b c t.line)
    | .keyword "for" =>
      advance
      let (n, _) ← expectName
      let u ← cur
      if u.isSym "=" then
        advance
        let a ← expr f 0
        let _ ← expectSym ","
        let b ← expr f 0
        let step ← if (← cur).isSym "," then do advance; pure (some (← expr f 0)) else pure none
        let _ ← expectKw "do"
        let body ← block f []
        let _ ← expectKw "end"
        pure (.numFor n a b step body t.line)
      else
        let names ← nameList f [n]
        let _ ← expectKw "in"
        let es ← exprList f []
        let _ ← expectKw "do"
        let body ← block f []
        let _ ← expectKw "end"
        pure (.genFor names es body t.line)
    | .keyword "function" =>
      advance
      let (n, _) ← expectName
      let (path, m) ← funcName f [n]
      let body ← funcBody f none
      pure (.funcDef path m body t.line)
    | .keyword "local" =>
      advance
      if (← cur).isKw "function" then
        advance
        let (n, _) ← expectName
        let body ← funcBody f none
        pure (.localFunc n body t.line)
      else
        let (n, _) ← expectName
        let names ← nameList f [n]
        if (← cur).isSym "=" then
          advance
          let es ← exprList f []
          pure (.local names es t.line)
        else pure (.local names [] t.line)
    | .symbol "::" =>
      advance
      let (n, _) ← expectName
      let _ ← expectSym "::"
      pure (.label n t.line)
    | .keyword "goto" =>
      advance
      let (n, _) ← expectName
      pure (.goto n t.line)
    | _ =>
      let (e, target) ← suffixedExpr f
      let u ← cur
      match e with
      | .call .. | .method .. =>
        if u.isSym "=" || u.isSym "," then syntaxError else pure (.call e e.line)
      | _ =>
        if target && (u.isSym "=" || u.isSym ",") then
          let targets ← targetList f [e]
          let _ ← expectSym "="
          let es ← exprList f []
          pure (.assign targets es e.line)
        else notCallable

def ifRest : Nat → List (Expr × List Stmt) → Nat → ParseM Stmt
  | 0, _, _ => syntaxError
  | f + 1, clauses, line => do
    let t ← cur
    if t.isKw "elseif" then
      advance
      let c ← expr f 0
      let _ ← expectKw "then"
      let b ← block f []
      ifRest f (clauses ++ [(c, b)]) line
    else if t.isKw "else" then
      advance
      let b ← block f []
      let _ ← expectKw "end"
      pure (.ifThen clauses (some b) line)
    else
      let _ ← expectKw "end"
      pure (.ifThen clauses none line)

def targetList : Nat → List Expr → ParseM (List Expr)
  | 0, _ => syntaxError
  | f + 1, acc => do
    if (← cur).isSym "," then
      advance
      let (e, target) ← suffixedExpr f
      if target then targetList f (e :: acc) else do
        let u ← cur
        if u.isSym "=" || u.isSym "," then syntaxError else syntaxError
    else pure acc.reverse

def nameList : Nat → List String → ParseM (List String)
  | 0, _ => syntaxError
  | f + 1, acc => do
    if (← cur).isSym "," then
      advance
      let (n, _) ← expectName
      nameList f (n :: acc)
    else pure acc.reverse

def funcName : Nat → List String → ParseM (List String × Option String)
  | 0, _ => syntaxError
  | f + 1, acc => do
    let t ← cur
    if t.isSym "." then
      advance
      let (n, _) ← expectName
      funcName f (n :: acc)
    else if t.isSym ":" then
      advance
      let (n, _) ← expectName
      pure (acc.reverse, some n)
    else pure (acc.reverse, none)

/-- Parses a function's parameters and body; the line is that of the
opening parenthesis unless given. -/
def funcBody : Nat → Option Nat → ParseM FuncBody
  | 0, _ => syntaxError
  | f + 1, line => do
    let lp ← expectSym "("
    let (params, vararg) ← paramList f []
    let _ ← expectSym ")"
    let body ← block f []
    let e ← expectKw "end"
    pure (.mk params vararg body (line.getD lp.line) e.line)

def paramList : Nat → List String → ParseM (List String × Bool)
  | 0, _ => syntaxError
  | f + 1, acc => do
    let t ← cur
    if t.isSym "..." then advance; pure (acc.reverse, true)
    else if acc.isEmpty && t.isSym ")" then pure ([], false)
    else
      let (n, _) ← expectName
      if (← cur).isSym "," then advance; paramList f (n :: acc)
      else pure ((n :: acc).reverse, false)

def exprList : Nat → List Expr → ParseM (List Expr)
  | 0, _ => syntaxError
  | f + 1, acc => do
    let e ← expr f 0
    if (← cur).isSym "," then advance; exprList f (e :: acc)
    else pure (e :: acc).reverse

def expr : Nat → Nat → ParseM Expr
  | 0, _ => syntaxError
  | f + 1, limit => do
    let t ← cur
    let e ← match unaryOp t with
      | some op => do
        advance
        let e ← expr f unaryPower
        pure (Expr.unop op e e.line)
      | none => simpleExpr f
    binaryRest f limit e

def binaryRest : Nat → Nat → Expr → ParseM Expr
  | 0, _, _ => syntaxError
  | f + 1, limit, e => do
    match binaryOp (← cur) with
    | some (l, r, mk) =>
      if l > limit then
        advance
        let e2 ← expr f r
        binaryRest f limit (mk e e2 e.line)
      else pure e
    | none => pure e

def simpleExpr : Nat → ParseM Expr
  | 0 => syntaxError
  | f + 1 => do
    let t ← cur
    match t.kind with
    | .number => advance; pure (.number t.text t.line)
    | .string => advance; pure (.string t.text t.line)
    | .keyword "nil" => advance; pure (.nil t.line)
    | .keyword "true" => advance; pure (.bool true t.line)
    | .keyword "false" => advance; pure (.bool false t.line)
    | .symbol "..." => advance; pure (.vararg t.line)
    | .keyword "function" =>
      advance
      let body ← funcBody f (some t.line)
      pure (.func body t.line)
    | .symbol "\x7b" => tableCons f
    | _ => do let (e, _) ← suffixedExpr f; pure e

/-- Parses a name or parenthesised expression with its suffixes: fields,
indexes, calls and method calls.  Answers whether it can be assigned to. -/
def suffixedExpr : Nat → ParseM (Expr × Bool)
  | 0 => syntaxError
  | f + 1 => do
    let t ← cur
    match t.kind with
    | .name => advance; suffixes f (.name t.text.toText t.line) true
    | .symbol "(" =>
      advance
      let e ← expr f 0
      let _ ← expectSym ")"
      let e := if e.isMulti then Expr.single (e.setLine t.line) t.line else e.setLine t.line
      suffixes f e false
    | _ => syntaxError

def suffixes : Nat → Expr → Bool → ParseM (Expr × Bool)
  | 0, _, _ => syntaxError
  | f + 1, e, target => do
    let t ← cur
    match t.kind with
    | .symbol "." =>
      advance
      let (n, _) ← expectName
      suffixes f (.index e (.string (Bytes.ofString n) t.line) e.line) true
    | .symbol "[" =>
      advance
      let k ← expr f 0
      let _ ← expectSym "]"
      suffixes f (.index e k e.line) true
    | .symbol ":" =>
      advance
      let (n, _) ← expectName
      let as ← callArgs f
      suffixes f (.method e n as e.line) false
    | .symbol "(" | .symbol "\x7b" | .string =>
      let as ← callArgs f
      suffixes f (.call e as e.line) false
    | _ => pure (e, target)

/-- Parses the arguments of a call: a parenthesised list, a table or a
string. -/
def callArgs : Nat → ParseM (List Expr)
  | 0 => syntaxError
  | f + 1 => do
    let t ← cur
    match t.kind with
    | .string => advance; pure [.string t.text t.line]
    | .symbol "\x7b" => do let e ← tableCons f; pure [e]
    | .symbol "(" =>
      advance
      if (← cur).isSym ")" then advance; pure []
      else
        let es ← exprList f []
        let _ ← expectSym ")"
        pure es
    | _ => syntaxError

def tableCons : Nat → ParseM Expr
  | 0 => syntaxError
  | f + 1 => do
    let t ← expectSym "\x7b"
    let fields ← fieldList f []
    let _ ← expectSym "\x7d"
    pure (.table fields t.line)

def fieldList : Nat → List Field → ParseM (List Field)
  | 0, _ => syntaxError
  | f + 1, acc => do
    let t ← cur
    if t.isSym "\x7d" then pure acc.reverse
    else
      let fld ← field f
      let u ← cur
      if u.isSym "," || u.isSym ";" then
        skipSeparators f
        fieldList f (fld :: acc)
      else pure (fld :: acc).reverse

/-- Moves past the separators after a field: one or more commas or
semicolons. -/
def skipSeparators : Nat → ParseM Unit
  | 0 => pure ()
  | f + 1 => do
    let u ← cur
    if u.isSym "," || u.isSym ";" then advance; skipSeparators f else pure ()

def field : Nat → ParseM Field
  | 0 => syntaxError
  | f + 1 => do
    let t ← cur
    if t.kind == .name && (← lookahead).isSym "=" then
      advance; advance
      pure (.named t.text.toText (← expr f 0))
    else if t.isSym "[" then
      advance
      let k ← expr f 0
      let _ ← expectSym "]"
      let _ ← expectSym "="
      pure (.keyed k (← expr f 0))
    else pure (.positional (← expr f 0))

end

def chunk (fuel : Nat) : ParseM Chunk := do
  let b ← block fuel []
  let t ← cur
  if t.kind == .eof then pure ⟨b⟩ else syntaxError

end Parse

def parseChunk (src : Bytes) : Except SyntaxError Chunk :=
  let lexed := tokenize src
  let fuel := 64 * (lexed.tokens.size + 4)
  match (Parse.chunk fuel).run { toks := lexed.tokens, lexError := lexed.error } with
  | .ok c _ => .ok c
  | .error e _ => .error e

end MudClient.Lua
