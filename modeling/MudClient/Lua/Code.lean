/-
# Compiled Lua functions

A function is compiled to code for a stack machine.  Each activation has
local slots, an operand stack, and its extra arguments.  A local slot holds
a reference to a cell, so that a closure made while the slot is in scope
shares the cell; declaring a local makes a fresh cell.

An instruction that may give any number of values (a call or `...` at the
end of a list) pushes them all and records how many; the next instruction
that takes "the open values" consumes exactly that many.

Every instruction has the line it is reported at, and a call written in the
source the name under which a stack traceback shows the function it calls:
the variable or field name it was called through, `?` when there is none.
-/
import MudClient.Lua.Syntax
import MudClient.Number.Binary
import MudClient.Number.Elementary

namespace MudClient.Lua

/-- How a closure captures a variable of the enclosing function: the cell of
one of its local slots, or one of its own captured cells. -/
inductive Capture where
  | slot (i : Nat)
  | outer (i : Nat)
deriving DecidableEq, Repr, Inhabited

/-- The comparisons; `>` and `>=` are carried out as `<` and `<=` with
their operands exchanged, which is also how their errors name the operand
types. -/
inductive Comparison where
  | eq | ne | lt | le | gt | ge
deriving DecidableEq, Repr, Inhabited

/-- The arithmetic operations. -/
inductive Arith where
  | add | sub | mul | div | mod | pow
deriving DecidableEq, Repr, Inhabited

/-- An arithmetic operation on two numbers; the remainder has the sign of
the divisor. -/
def Arith.apply : Arith → Float → Float → Float
  | .add, x, y => x + y
  | .sub, x, y => x - y
  | .mul, x, y => x * y
  | .div, x, y => x / y
  | .mod, x, y =>
    let v := Number.fmod x y
    if (y > 0 && v < 0) || (y < 0 && v > 0) then v + y else v
  | .pow, x, y => Number.Elementary.pow x y

def Arith.name : Arith → String
  | .add => "add" | .sub => "sub" | .mul => "mul" | .div => "div" | .mod => "mod"
  | .pow => "pow"

/-- Machine instructions. -/
inductive Instr where
  | pushNil (n : Nat)
  | pushBool (b : Bool)
  | pushNum (x : Float)
  | pushStr (s : Bytes)
  /-- Pushes the value of a local slot. -/
  | getLocal (slot : Nat)
  /-- Pops a value into a fresh cell for a local slot. -/
  | declare (slot : Nat)
  /-- Pops a value into the cell of a local slot. -/
  | setLocal (slot : Nat)
  | getUpval (i : Nat)
  | setUpval (i : Nat)
  | getGlobal (name : Bytes)
  | setGlobal (name : Bytes)
  /-- Pops a key and an object, pushes the object's entry. -/
  | index
  /-- Pops a value, a key and an object, and sets the entry. -/
  | setIndex
  /-- Pops an object and pushes its entry under a name and the object. -/
  | self (name : Bytes)
  /-- Pushes a copy of the value at a depth below the top (0 is the top). -/
  | pick (depth : Nat)
  | pop (n : Nat)
  /-- Pushes a new table; its array part is made at once, with room for
  `room` entries, when that is not zero. -/
  | newTable (room : Nat)
  /-- Sets entries `base + 1, …` of the table below the `count` values (and
  the open values after them) to those values, and pops them. -/
  | setList (base count : Nat) (openValues : Bool)
  /-- Pops a value and a key and sets the entry of the table found below
them and `pending` further values. -/
  | setField (pending : Nat)
  | closure (child : Nat)
  /-- Calls the function below `args` arguments (and the open values);
  pushes `results` values, or all of them as open values. -/
  | call (args : Nat) (openArgs : Bool) (results : Option Nat) (name : Option String)
  /-- Calls and returns what the call gives. -/
  | tailCall (args : Nat) (openArgs : Bool) (name : Option String)
  /-- Returns the top `n` values (and the open values). -/
  | ret (n : Nat) (openValues : Bool)
  /-- Pushes `n` of the extra arguments, or all as open values. -/
  | vararg (n : Option Nat)
  /-- Truncates or pads the open values to exactly `n` values. -/
  | adjust (n : Nat)
  | arith (op : Arith)
  | concat
  | compare (op : Comparison)
  | neg
  | not
  | len
  | jump (target : Nat)
  /-- Pops a value and jumps when it is false or nil. -/
  | jumpIfNot (target : Nat)
  /-- Jumps keeping the top when it is false or nil; pops it otherwise. -/
  | andJump (target : Nat)
  /-- Jumps keeping the top when it is neither false nor nil; pops it
  otherwise. -/
  | orJump (target : Nat)
  /-- Pops a start, a limit and a step into the hidden slots `base`,
  `base + 1`, `base + 2`, and jumps to the loop test. -/
  | forPrep (base : Nat) (test : Nat)
  /-- Steps the loop counter; while in range declares the variable and
  jumps back to the body. -/
  | forLoop (base : Nat) (var : Nat) (body : Nat)
  /-- After the generator's `n` results: when the first is nil pops them and
  jumps out; otherwise makes it the control value and declares the
  variables from them. -/
  | forCheck (control : Nat) (vars : List Nat) (exit : Nat)
deriving Inhabited, Repr

/-- How many values an instruction leaves on the operand stack beyond
those it found, counting open values as none. -/
def Instr.stackEffect : Instr → Int
  | .pushNil k => k
  | .pushBool _ | .pushNum _ | .pushStr _ | .getLocal _ | .getUpval _ | .getGlobal _ => 1
  | .pick _ | .newTable _ | .closure _ | .self _ => 1
  | .declare _ | .setLocal _ | .setUpval _ | .setGlobal _ | .index => -1
  | .setIndex => -3
  | .pop k => -(k : Int)
  | .setList _ count _ => -(count : Int)
  | .setField _ => -2
  | .call args _ results _ => (results.getD 0 : Int) - args - 1
  | .tailCall args _ _ => -(args + 1 : Int)
  | .ret k _ => -(k : Int)
  | .vararg k => k.getD 0
  | .adjust k => k
  | .arith _ | .concat | .compare _ | .jumpIfNot _ | .andJump _ | .orJump _ => -1
  | .neg | .not | .len | .jump _ | .forLoop .. => 0
  | .forPrep .. => -3
  | .forCheck _ vars _ => -(vars.length : Int)

/-- The one-byte size hint a table constructor records for a count of
positional fields, which is also the room the table's array part is made
with: the count itself below sixteen; from sixteen on the count halved,
rounding up, until it is below sixteen, packed with the number of halvings
as an exponent and three binary digits. -/
def sizeHint (n : Nat) : Nat :=
  let rec go (x e : Nat) : Nat → Nat
    | 0 => x
    | fuel + 1 =>
      if x ≥ 16 then go ((x + 1) / 2) (e + 1) fuel
      else if x < 8 then x
      else (e + 1) * 8 + (x - 8)
  go n 0 n

/-- A local variable as the debug library sees it: its name, its slot, and
the instructions it is in scope for, from `start` up to, not including,
`stop`.  The loops' hidden variables have names in parentheses. -/
structure LocalVar where
  name : String
  slot : Nat
  start : Nat
  stop : Nat
deriving Inhabited, Repr

/-- A compiled function: its code with the line of each instruction, its
parameters, its slots, the functions defined in it, what it captures and
under which names, its locals in order of declaration, the lines its
definition begins and ends on (both zero for a chunk), and the room its
activations take in the value stack. -/
structure Proto where
  code : Array Instr
  lines : Array Nat
  params : Nat
  isVararg : Bool
  slots : Nat
  children : Array Proto
  captures : Array Capture
  source : Bytes
  lineDefined : Nat
  lastLineDefined : Nat := 0
  captureNames : Array String := #[]
  locals : Array LocalVar := #[]
  /-- For each instruction, how many local slots are in use there. -/
  frees : Array Nat := #[]
  /-- The room an activation takes in the value stack: its slots and the
  deepest its operand stack goes. -/
  registers : Nat := 0
deriving Inhabited

end MudClient.Lua
