/-
# The syntax of Lua chunks

A chunk is a block of statements; a function body is a block with its
parameters.  Every expression and statement carries the line it is reported
at: the line of its first token, except that an operator expression takes
the line of its left operand, a unary one that of its operand, a call and an
index that of the expression called or indexed, and a parenthesised
expression the line of its opening parenthesis.

A call or `...` in parentheses gives exactly one value; elsewhere, as the
last of a list, it gives all its values.
-/
import MudClient.Text.Bytes

namespace MudClient.Lua

/-- The binary arithmetic, comparison and concatenation operators. -/
inductive BinOp where
  | add | sub | mul | div | mod | pow
  | concat
  | eq | ne | lt | le | gt | ge
deriving DecidableEq, Repr, Inhabited

/-- The unary operators. -/
inductive UnOp where
  | neg | not | len
deriving DecidableEq, Repr, Inhabited

mutual

/-- Expressions. -/
inductive Expr where
  | nil (line : Nat)
  | bool (b : Bool) (line : Nat)
  | number (text : Bytes) (line : Nat)
  | string (s : Bytes) (line : Nat)
  | vararg (line : Nat)
  | func (f : FuncBody) (line : Nat)
  | name (n : String) (line : Nat)
  | index (obj key : Expr) (line : Nat)
  | call (fn : Expr) (args : List Expr) (line : Nat)
  | method (recv : Expr) (name : String) (args : List Expr) (line : Nat)
  | binop (op : BinOp) (l r : Expr) (line : Nat)
  | and (l r : Expr) (line : Nat)
  | or (l r : Expr) (line : Nat)
  | unop (op : UnOp) (e : Expr) (line : Nat)
  | table (fields : List Field) (line : Nat)
  /-- A call or `...` cut down to one value. -/
  | single (e : Expr) (line : Nat)

/-- The fields of a table constructor. -/
inductive Field where
  | positional (e : Expr)
  | named (key : String) (e : Expr)
  | keyed (key e : Expr)

/-- A function's parameters and body, with the lines of its opening
parenthesis and of its `end`. -/
inductive FuncBody where
  | mk (params : List String) (vararg : Bool) (body : List Stmt) (line lastLine : Nat)

/-- Statements. -/
inductive Stmt where
  | assign (targets values : List Expr) (line : Nat)
  | call (e : Expr) (line : Nat)
  | block (body : List Stmt) (line : Nat)
  | while (cond : Expr) (body : List Stmt) (line : Nat)
  | repeat (body : List Stmt) (cond : Expr) (line : Nat)
  | ifThen (clauses : List (Expr × List Stmt)) (otherwise : Option (List Stmt)) (line : Nat)
  | numFor (var : String) (start stop : Expr) (step : Option Expr) (body : List Stmt) (line : Nat)
  | genFor (names : List String) (exprs : List Expr) (body : List Stmt) (line : Nat)
  /-- `function a.b.c:m () … end`: the name path and the method name. -/
  | funcDef (path : List String) (method : Option String) (f : FuncBody) (line : Nat)
  | localFunc (name : String) (f : FuncBody) (line : Nat)
  | local (names : List String) (values : List Expr) (line : Nat)
  | ret (values : List Expr) (line : Nat)
  | brk (line : Nat)
  | label (name : String) (line : Nat)
  | goto (name : String) (line : Nat)

end

instance : Inhabited Expr := ⟨.nil 0⟩

def Stmt.line : Stmt → Nat
  | .assign _ _ l | .call _ l | .block _ l | .while _ _ l | .repeat _ _ l | .ifThen _ _ l
  | .numFor _ _ _ _ _ l | .genFor _ _ _ l | .funcDef _ _ _ l | .localFunc _ _ l | .local _ _ l
  | .ret _ l | .brk l | .label _ l | .goto _ l => l

def Expr.line : Expr → Nat
  | .nil l | .bool _ l | .number _ l | .string _ l | .vararg l | .func _ l | .name _ l
  | .index _ _ l | .call _ _ l | .method _ _ _ l | .binop _ _ _ l | .and _ _ l | .or _ _ l
  | .unop _ _ l | .table _ l | .single _ l => l

def Expr.setLine (e : Expr) (l : Nat) : Expr :=
  match e with
  | .nil _ => .nil l | .bool b _ => .bool b l | .number t _ => .number t l
  | .string s _ => .string s l | .vararg _ => .vararg l | .func f _ => .func f l
  | .name n _ => .name n l | .index o k _ => .index o k l | .call f a _ => .call f a l
  | .method r n a _ => .method r n a l | .binop op x y _ => .binop op x y l
  | .and x y _ => .and x y l | .or x y _ => .or x y l | .unop op x _ => .unop op x l
  | .table fs _ => .table fs l | .single x _ => .single x l

def Expr.isMulti : Expr → Bool
  | .call .. | .method .. | .vararg _ => true
  | _ => false

/-- A chunk: the body of the function a source compiles to. -/
structure Chunk where
  body : List Stmt

end MudClient.Lua
