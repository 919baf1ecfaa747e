/-
# Compiling Lua chunks

Compiles a chunk to the stack machine's code, one function at a time.

A name refers to the innermost local of that name in scope, else to a
variable of an enclosing function (which the closure then captures, through
every function in between), else to a global.  Locals get slots in order of
declaration; a block's slots are free again after it.  A local is declared
only after the values it is given are computed, so `local x = x` reads the
outer `x`.

Values are computed left to right.  A list of expressions given to `n`
targets gives exactly `n` values: every expression but the last gives one,
a call or `...` at the end gives as many as are missing, and missing ones
are nil; expressions beyond the targets are still computed.  In an
assignment the tables and keys of the targets are computed first, then the
values, and the targets are assigned from right to left.

A table constructor sets its keyed fields as it meets them and its
positional ones fifty at a time, so a positional field wins over a keyed
one for the same index met in the same fifty.

## Main statements

* `compileChunk`: the function a chunk compiles to, or the first compile
  error (`...` outside a function taking extra arguments, `break` outside a
  loop, a `goto` without a visible label).
-/
import MudClient.Lua.Code
import MudClient.Lua.Numeral

namespace MudClient.Lua

/-- A compile error at a line. -/
structure CompileError where
  line : Nat
  message : String
deriving Inhabited

/-- Where a name refers. -/
inductive Place where
  | slot (i : Nat)
  | upval (i : Nat)
  | global
deriving Inhabited

/-- A `goto` waiting for its label: the label, the position of the jump,
its line, how many blocks enclose it, and how many locals are in scope
there. -/
structure PendingGoto where
  label : String
  pos : Nat
  line : Nat
  depth : Nat
  active : Nat

/-- A label of a block: its name, position and line, how many locals are in
scope there, and the line of the first statement after it in its block,
if one follows.  A label that ends its block counts the locals of the
block's start only, so jumping to it enters no local's scope. -/
structure LabelInfo where
  name : String
  pos : Nat
  line : Nat
  active : Nat
  nextLine : Option Nat

/-- A block being compiled: its labels so far, newest first, and how many
locals were in scope at its start. -/
structure BlockInfo where
  labels : List LabelInfo := []
  active : Nat := 0

/-- The state of one function being compiled. -/
structure FuncState where
  code : Array Instr := #[]
  lines : Array Nat := #[]
  locals : List (String × Nat) := []
  nextSlot : Nat := 0
  slots : Nat := 0
  captures : Array (String × Capture) := #[]
  children : Array Proto := #[]
  /-- The pending `break` jumps of each enclosing loop, innermost first. -/
  loops : List (List Nat) := []
  /-- The enclosing blocks, innermost first. -/
  blocks : List BlockInfo := [{}]
  gotos : List PendingGoto := []
  params : Nat := 0
  isVararg : Bool := false
  lineDefined : Nat := 0
  lastLineDefined : Nat := 0
  /-- The locals declared so far, in order; a local still in scope has no
  end yet. -/
  localVars : Array (String × Nat × Nat × Option Nat) := #[]
  /-- The slots in use at each instruction so far. -/
  frees : Array Nat := #[]
  /-- How deep the operand stack is after the last instruction, and the
  deepest it went. -/
  depth : Int := 0
  maxDepth : Nat := 0
  /-- The line that faults of the function's labels and jumps are
  reported at. -/
  faultLine : Nat := 0
  /-- The numbers the function's code holds as constants, in the order
  they were first met. -/
  numbers : Array Float := #[]

/-- The compiler's state: the function being compiled and those enclosing
it, innermost first. -/
structure Compiler where
  cur : FuncState
  outer : List FuncState
  source : Bytes

abbrev CompileM := EStateM CompileError Compiler

def compileError (line : Nat) (message : String) : CompileM α :=
  throw { line, message }

def modifyCur (f : FuncState → FuncState) : CompileM Unit :=
  modify fun c => { c with cur := f c.cur }

def emit (i : Instr) (line : Nat) : CompileM Nat := do
  let c ← get
  let pos := c.cur.code.size
  let depth := max 0 (c.cur.depth + i.stackEffect)
  set { c with cur := { c.cur with code := c.cur.code.push i, lines := c.cur.lines.push line,
                                   frees := c.cur.frees.push c.cur.nextSlot, depth,
                                   maxDepth := max c.cur.maxDepth depth.toNat } }
  pure pos

/-- Pushes a number constant.  A function keeps one constant for numbers
that compare equal, the first one met, so a zero written after a zero of
the other sign takes that sign. -/
def pushNumber (x : Float) (line : Nat) : CompileM Unit := do
  let c ← get
  match c.cur.numbers.find? (· == x) with
  | some y => discard <| emit (.pushNum y) line
  | none =>
    set { c with cur := { c.cur with numbers := c.cur.numbers.push x } }
    discard <| emit (.pushNum x) line

def here : CompileM Nat := do pure (← get).cur.code.size

def Instr.retarget : Instr → Nat → Instr
  | .jump _, t => .jump t
  | .jumpIfNot _, t => .jumpIfNot t
  | .andJump _, t => .andJump t
  | .orJump _, t => .orJump t
  | .forPrep b _, t => .forPrep b t
  | .forCheck c v _, t => .forCheck c v t
  | i, _ => i

def patch (pos target : Nat) : CompileM Unit :=
  modifyCur fun f => { f with code := f.code.modify pos (·.retarget target) }

def patchHere (pos : Nat) : CompileM Unit := do patch pos (← here)

def declareName (n : String) : CompileM Nat := do
  let f := (← get).cur
  let s := f.nextSlot
  modifyCur fun f => { f with locals := (n, s) :: f.locals, nextSlot := s + 1,
                              slots := max f.slots (s + 1),
                              localVars := f.localVars.push (n, s, f.code.size, none) }
  pure s

/-- Reserves a slot that no name in the source can refer to, under a name
in parentheses. -/
def hiddenSlot (n : String) : CompileM Nat := declareName ("(" ++ n ++ ")")

/-- Runs a compilation in a scope of its own; the locals declared in it go
out of scope at its end. -/
def inScope (m : CompileM α) : CompileM α := do
  let f := (← get).cur
  let r ← m
  modifyCur fun g =>
    let stop := g.code.size
    let closed := g.localVars.mapIdx fun i v =>
      match v with
      | (n, s, st, none) => if i ≥ f.localVars.size then (n, s, st, some stop) else v
      | v => v
    { g with locals := f.locals, nextSlot := f.nextSlot, localVars := closed }
  pure r

def findCapture (caps : Array (String × Capture)) (n : String) : Option Nat :=
  caps.findIdx? (·.1 == n)

/-- Resolves a name in a chain of functions, innermost first, adding the
captures that reaching an enclosing function's variable needs. -/
def resolveIn : List FuncState → String → Place × List FuncState
  | [], _ => (.global, [])
  | f :: rest, n =>
    match f.locals.lookup n with
    | some s => (.slot s, f :: rest)
    | none =>
      match findCapture f.captures n with
      | some i => (.upval i, f :: rest)
      | none =>
        match resolveIn rest n with
        | (.global, rest') => (.global, f :: rest')
        | (.slot s, rest') =>
          (.upval f.captures.size, { f with captures := f.captures.push (n, .slot s) } :: rest')
        | (.upval j, rest') =>
          (.upval f.captures.size, { f with captures := f.captures.push (n, .outer j) } :: rest')

def resolve (n : String) : CompileM Place := do
  let c ← get
  match resolveIn (c.cur :: c.outer) n with
  | (p, f :: rest) => set { c with cur := f, outer := rest }; pure p
  | (p, []) => pure p

def callName : Expr → String
  | .name n _ => n
  | .index _ (.string s _) _ => s.toText
  | _ => "?"

def numeralValue (text : Bytes) : Float := (parseNumber text).getD (0.0 / 0.0)

def BinOp.arith? : BinOp → Option Arith
  | .add => some .add | .sub => some .sub | .mul => some .mul | .div => some .div
  | .mod => some .mod | .pow => some .pow | _ => none

/-- The number an expression of numerals, arithmetic and negation stands
for, computed as running it would. -/
def constantValue? : Expr → Option Float
  | .number t _ => some (numeralValue t)
  | .binop op l r _ => do
    let a ← op.arith?
    let x ← constantValue? l
    let y ← constantValue? r
    pure (a.apply x y)
  | .unop .neg e _ => do
    let x ← constantValue? e
    pure (-x)
  | _ => none

def BinOp.comparison? : BinOp → Option Comparison
  | .eq => some .eq | .ne => some .ne | .lt => some .lt | .le => some .le
  | .gt => some .gt | .ge => some .ge | _ => none

def concatOperands : Expr → Nat → List Expr
  | e, 0 => [e]
  | .binop .concat l r _, f + 1 => l :: concatOperands r f
  | e, _ + 1 => [e]

def storeName (n : String) (line : Nat) : CompileM Unit := do
  match ← resolve n with
  | .slot s => discard <| emit (.setLocal s) line
  | .upval i => discard <| emit (.setUpval i) line
  | .global => discard <| emit (.setGlobal (Bytes.ofString n)) line

def fieldsPerFlush : Nat := 50

def enterFunction (params : Nat) (vararg : Bool) (line lastLine : Nat) : CompileM Unit :=
  modify fun c => { c with cur := { params, isVararg := vararg, lineDefined := line,
                                     lastLineDefined := lastLine, faultLine := lastLine },
                           outer := c.cur :: c.outer }

def FuncState.toProto (f : FuncState) (source : Bytes) : Proto :=
  { code := f.code, lines := f.lines, params := f.params, isVararg := f.isVararg,
    slots := f.slots, children := f.children, captures := f.captures.map (·.2),
    source, lineDefined := f.lineDefined, lastLineDefined := f.lastLineDefined,
    captureNames := f.captures.map (·.1), frees := f.frees, registers := f.slots + f.maxDepth,
    locals := f.localVars.map fun (name, slot, start, stop) =>
      { name, slot, start, stop := stop.getD f.code.size } }

def checkGotos (f : FuncState) : CompileM Unit :=
  match f.gotos.getLast? with
  | none => pure ()
  | some g => compileError f.faultLine s!"no visible label '{g.label}' for <goto> at line {g.line}"

/-- Ends compiling a nested function; answers its position among the
children of the enclosing one. -/
def leaveFunction : CompileM Nat := do
  let c ← get
  checkGotos c.cur
  match c.outer with
  | parent :: rest =>
    let proto := c.cur.toProto c.source
    set { c with cur := { parent with children := parent.children.push proto }, outer := rest }
    pure parent.children.size
  | [] => compileError 0 "function nesting"

def enterBlock : CompileM Unit :=
  modifyCur fun f => { f with blocks := { active := f.locals.length } :: f.blocks }

/-- The name of the local declared at a place, counted from the first in
scope. -/
def localAt (f : FuncState) (i : Nat) : String :=
  ((f.locals.reverse[i]?).map (·.1)).getD "?"

/-- Leaves a block: the `goto`s inside it whose label it holds jump there,
unless the jump would enter the scope of a local declared between them;
the others now wait in the enclosing block, with no more locals in scope
than at its start. -/
def leaveBlock : CompileM Unit := do
  let f := (← get).cur
  let b := f.blocks.headD {}
  let depth := f.blocks.length
  let (inside, outside) := f.gotos.partition (·.depth ≥ depth)
  let mut moved := []
  for g in inside.reverse do
    match b.labels.find? (·.name == g.label) with
    | some l =>
      if g.active < l.active then
        let name := localAt f g.active
        compileError (l.nextLine.getD l.line)
          s!"<goto {g.label}> at line {g.line} jumps into the scope of local '{name}'"
      patch g.pos l.pos
    | none => moved := { g with depth := depth - 1, active := min g.active b.active } :: moved
  modifyCur fun f => { f with blocks := f.blocks.tail, gotos := moved ++ outside }

def visibleLabel (f : FuncState) (n : String) : Option LabelInfo :=
  f.blocks.findSome? (·.labels.find? (·.name == n))

/-- Declares a label of the current block, followed in it by a statement at
`nextLine` if one follows; a label may not repeat a visible one. -/
def declareLabel (n : String) (line : Nat) (nextLine : Option Nat) : CompileM Unit := do
  let f := (← get).cur
  if let some l := visibleLabel f n then
    compileError f.faultLine s!"label '{n}' already defined on line {l.line}"
  let pos ← here
  modifyCur fun g =>
    let b := g.blocks.headD {}
    let active := if nextLine.isSome then g.locals.length else b.active
    { g with blocks := { b with labels := { name := n, pos, line, active, nextLine } :: b.labels } :: g.blocks.tail }

def firstLine? : List Stmt → Option Nat
  | [] => none
  | .label _ _ :: rest => firstLine? rest
  | s :: _ => some s.line

namespace Emit

mutual

def expr : Nat → Expr → CompileM Unit
  | 0, e => compileError e.line "expression too deep"
  | f + 1, e =>
    match e with
    | .nil l => discard <| emit (.pushNil 1) l
    | .bool b l => discard <| emit (.pushBool b) l
    | .number t l => pushNumber (numeralValue t) l
    | .string s l => discard <| emit (.pushStr s) l
    | .vararg l => do
      if !(← get).cur.isVararg then compileError l "cannot use '...' outside a vararg function"
      discard <| emit (.vararg (some 1)) l
    | .func body l => do
      let i ← function f body false
      discard <| emit (.closure i) l
    | .name n l => do
      match ← resolve n with
      | .slot s => discard <| emit (.getLocal s) l
      | .upval i => discard <| emit (.getUpval i) l
      | .global => discard <| emit (.getGlobal (Bytes.ofString n)) l
    | .index o k l => do
      expr f o
      expr f k
      discard <| emit .index l
    | .call .. | .method .. => call f e (some 1)
    | .binop op l r line => do
      match op.arith?, op.comparison? with
      | some a, _ =>
        match constantValue? e with
        | some v => pushNumber v line
        | none => expr f l; expr f r; discard <| emit (.arith a) line
      | none, some c => expr f l; expr f r; discard <| emit (.compare c) line
      | none, none =>
        let operands := l :: concatOperands r f
        exprs f operands
        for _ in [1:operands.length] do
          discard <| emit .concat line
    | .and l r line => do
      expr f l
      let j ← emit (.andJump 0) line
      expr f r
      patchHere j
    | .or l r line => do
      expr f l
      let j ← emit (.orJump 0) line
      expr f r
      patchHere j
    | .unop op x line => do
      if op == .neg then
        if let some v := constantValue? e then
          return (← pushNumber v line)
      expr f x
      match op with
      | .neg => discard <| emit .neg line
      | .not => discard <| emit .not line
      | .len => discard <| emit .len line
    | .table fields l => do
      let counted := (fields.zipIdx.filter fun (fld, i) => match fld with
        | .positional e => !(i + 1 == fields.length && e.isMulti)
        | _ => false).length
      discard <| emit (.newTable (sizeHint counted)) l
      tableFields f fields 0 0 l
    | .single x l =>
      match x with
      | .vararg _ => expr f (.vararg l)
      | .call .. | .method .. => call f x (some 1)
      | _ => expr f x

def exprs : Nat → List Expr → CompileM Unit
  | 0, _ => compileError 0 "expression too deep"
  | _ + 1, [] => pure ()
  | f + 1, e :: es => do expr f e; exprs f es

def openValues : Nat → Expr → CompileM Unit
  | 0, e => compileError e.line "expression too deep"
  | f + 1, e =>
    match e with
    | .vararg l => do
      if !(← get).cur.isVararg then compileError l "cannot use '...' outside a vararg function"
      discard <| emit (.vararg none) l
    | .call .. | .method .. => call f e none
    | _ => expr f e

/-- Pushes the values of a list: one for each expression, and all of the
last when it is a call or `...`; answers how many were pushed before the
open values and whether there are open values. -/
def exprList : Nat → List Expr → Nat → CompileM (Nat × Bool)
  | 0, _, _ => compileError 0 "expression too deep"
  | _ + 1, [], n => pure (n, false)
  | f + 1, [e], n =>
    if e.isMulti then do openValues f e; pure (n, true)
    else do expr f e; pure (n + 1, false)
  | f + 1, e :: es, n => do expr f e; exprList f es (n + 1)

def exprListExact : Nat → List Expr → Nat → CompileM Unit
  | 0, _, _ => compileError 0 "expression too deep"
  | _ + 1, [], want => if want = 0 then pure () else discard <| emit (.pushNil want) 0
  | f + 1, [e], want =>
    if e.isMulti then
      match e with
      | .vararg l => do
        if !(← get).cur.isVararg then compileError l "cannot use '...' outside a vararg function"
        discard <| emit (.vararg (some want)) l
      | _ => call f e (some want)
    else if want = 0 then do expr f e; discard <| emit (.pop 1) e.line
    else do
      expr f e
      if want > 1 then discard <| emit (.pushNil (want - 1)) e.line
  | f + 1, e :: es, want =>
    if want = 0 then do
      if e.isMulti then
        match e with
        | .vararg l => do
          if !(← get).cur.isVararg then compileError l "cannot use '...' outside a vararg function"
        | _ => call f e (some 0)
      else do expr f e; discard <| emit (.pop 1) e.line
      exprListExact f es 0
    else do
      expr f e
      exprListExact f es (want - 1)

def call : Nat → Expr → Option Nat → CompileM Unit
  | 0, e, _ => compileError e.line "expression too deep"
  | f + 1, e, results =>
    match e with
    | .call fn args l => do
      expr f fn
      let (n, o) ← exprList f args 0
      discard <| emit (.call n o results (some (callName fn))) l
    | .method recv name args l => do
      expr f recv
      discard <| emit (.self (Bytes.ofString name)) l
      let (n, o) ← exprList f args 0
      discard <| emit (.call (n + 1) o results (some name)) l
    | _ => expr f e

/-- Compiles the fields of a table constructor, after `flushed` positional
fields were set and with `pending` more waiting on the stack. -/
def tableFields : Nat → List Field → Nat → Nat → Nat → CompileM Unit
  | 0, _, _, _, l => compileError l "expression too deep"
  | _ + 1, [], flushed, pending, l =>
    if pending = 0 then pure () else discard <| emit (.setList flushed pending false) l
  | f + 1, fld :: rest, flushed, pending, l =>
    match fld with
    | .positional e =>
      if rest.isEmpty && e.isMulti then do
        openValues f e
        discard <| emit (.setList flushed pending true) l
      else do
        expr f e
        if pending + 1 = fieldsPerFlush then
          discard <| emit (.setList flushed fieldsPerFlush false) l
          tableFields f rest (flushed + fieldsPerFlush) 0 l
        else tableFields f rest flushed (pending + 1) l
    | .named k e => do
      discard <| emit (.pushStr (Bytes.ofString k)) e.line
      expr f e
      discard <| emit (.setField pending) e.line
      tableFields f rest flushed pending l
    | .keyed k e => do
      expr f k
      expr f e
      discard <| emit (.setField pending) e.line
      tableFields f rest flushed pending l

def function : Nat → FuncBody → Bool → CompileM Nat
  | 0, _, _ => compileError 0 "function too deep"
  | f + 1, .mk params vararg body line lastLine, isMethod => do
    let params := if isMethod then "self" :: params else params
    enterFunction params.length vararg line lastLine
    for p in params do
      discard <| declareName p
    block f body
    discard <| emit (.ret 0 false) lastLine
    leaveFunction

def block : Nat → List Stmt → CompileM Unit
  | 0, _ => compileError 0 "block too deep"
  | f + 1, body =>
    inScope do
      enterBlock
      stmts f body
      leaveBlock

def stmts : Nat → List Stmt → CompileM Unit
  | 0, _ => compileError 0 "block too deep"
  | _ + 1, [] => pure ()
  | f + 1, s :: ss => do
    match s with
    | .label n l => declareLabel n l (firstLine? ss)
    | _ => stmt f s
    stmts f ss

def loopBody : Nat → List Stmt → CompileM (List Nat)
  | 0, _ => compileError 0 "block too deep"
  | f + 1, body => do
    modifyCur fun g => { g with loops := [] :: g.loops }
    block f body
    let g := (← get).cur
    modifyCur fun g => { g with loops := g.loops.tail }
    pure (g.loops.headD [])

/-- Compiles the targets' tables and keys of an assignment; answers, per
target, the stack position of its table counted from the first. -/
def targets : Nat → List Expr → Nat → CompileM (List (Option Nat))
  | 0, _, _ => compileError 0 "expression too deep"
  | _ + 1, [], _ => pure []
  | f + 1, t :: ts, pos =>
    match t with
    | .index o k _ => do
      expr f o
      expr f k
      let rest ← targets f ts (pos + 2)
      pure (some pos :: rest)
    | _ => do
      let rest ← targets f ts pos
      pure (none :: rest)

def stmt : Nat → Stmt → CompileM Unit
  | 0, _ => compileError 0 "block too deep"
  | f + 1, s => do
    -- a statement starts with nothing on the operand stack
    modifyCur fun g => { g with depth := 0 }
    match s with
    | .assign [.name n _] [v] l => do
      expr f v
      storeName n l
    | .assign [.index o k tl] [v] _ => do
      expr f o
      expr f k
      expr f v
      discard <| emit .setIndex tl
    | .assign ts vs l => do
      let places ← targets f ts 0
      let front := 2 * (places.filter Option.isSome).length
      let n := ts.length
      exprListExact f vs n
      let top := front + n - 1
      for (t, p, i) in (ts.zip (places.zip (List.range n))).reverse do
        let valueDepth := top - (front + i)
        match t, p with
        | .index _ _ tl, some pos =>
          discard <| emit (.pick (top - pos)) tl
          discard <| emit (.pick (top - (pos + 1) + 1)) tl
          discard <| emit (.pick (valueDepth + 2)) tl
          discard <| emit .setIndex tl
        | .name x _, _ =>
          discard <| emit (.pick valueDepth) l
          storeName x l
        | _, _ => compileError l "cannot assign"
      discard <| emit (.pop (front + n)) l
    | .call e _ => call f e (some 0)
    | .block body _ => block f body
    | .while cond body l => do
      let start ← here
      expr f cond
      let exit ← emit (.jumpIfNot 0) l
      let breaks ← loopBody f body
      discard <| emit (.jump start) l
      patchHere exit
      for b in breaks do patchHere b
    | .repeat body cond l => do
      let start ← here
      modifyCur fun g => { g with loops := [] :: g.loops }
      inScope do
        enterBlock
        stmts f body
        expr f cond
        discard <| emit (.jumpIfNot start) l
        leaveBlock
      let g := (← get).cur
      modifyCur fun g => { g with loops := g.loops.tail }
      for b in g.loops.headD [] do patchHere b
    | .ifThen clauses otherwise l => do
      let mut ends : List Nat := []
      for (cond, body) in clauses do
        expr f cond
        let skip ← emit (.jumpIfNot 0) l
        block f body
        let e ← emit (.jump 0) l
        ends := e :: ends
        patchHere skip
      match otherwise with
      | some body => block f body
      | none => pure ()
      for e in ends do patchHere e
    | .numFor var start stop step body l => inScope do
      expr f start
      expr f stop
      match step with
      | some s => expr f s
      | none => pushNumber 1 l
      let base ← hiddenSlot "for index"
      discard <| hiddenSlot "for limit"
      discard <| hiddenSlot "for step"
      let prep ← emit (.forPrep base 0) l
      let bodyStart ← here
      let (slot, breaks) ← inScope do
        let slot ← declareName var
        let breaks ← loopBody f body
        pure (slot, breaks)
      patchHere prep
      discard <| emit (.forLoop base slot bodyStart) l
      for b in breaks do patchHere b
    | .genFor names es body l => inScope do
      exprListExact f es 3
      let base ← hiddenSlot "for generator"
      discard <| hiddenSlot "for state"
      discard <| hiddenSlot "for control"
      discard <| emit (.declare (base + 2)) l
      discard <| emit (.declare (base + 1)) l
      discard <| emit (.declare base) l
      let start ← here
      discard <| emit (.getLocal base) l
      discard <| emit (.getLocal (base + 1)) l
      discard <| emit (.getLocal (base + 2)) l
      discard <| emit (.call 2 false (some names.length) none) l
      let (check, breaks) ← inScope do
        let mut slots : List Nat := []
        for n in names do
          slots := slots ++ [← declareName n]
        let check ← emit (.forCheck (base + 2) slots 0) l
        let breaks ← loopBody f body
        pure (check, breaks)
      discard <| emit (.jump start) l
      patchHere check
      for b in breaks do patchHere b
    | .funcDef path method body l =>
      match path, method with
      | [n], none => do
        let i ← function f body false
        discard <| emit (.closure i) l
        storeName n l
      | n :: rest, _ => do
        expr f (.name n l)
        let keys := rest ++ (method.map (fun m => [m])).getD []
        match keys.reverse with
        | last :: middle =>
          for k in middle.reverse do
            discard <| emit (.pushStr (Bytes.ofString k)) l
            discard <| emit .index l
          discard <| emit (.pushStr (Bytes.ofString last)) l
          let i ← function f body method.isSome
          discard <| emit (.closure i) l
          discard <| emit .setIndex l
        | [] => compileError l "function name"
      | [], _ => compileError l "function name"
    | .localFunc n body l => do
      discard <| emit (.pushNil 1) l
      let slot ← declareName n
      discard <| emit (.declare slot) l
      let i ← function f body false
      discard <| emit (.closure i) l
      discard <| emit (.setLocal slot) l
    | .local names vs l => do
      exprListExact f vs names.length
      let mut slots : List Nat := []
      for n in names do
        slots := (← declareName n) :: slots
      for s in slots do
        discard <| emit (.declare s) l
    | .ret vs l =>
      match vs with
      | [.call fn args cl] => do
        expr f fn
        let (n, o) ← exprList f args 0
        discard <| emit (.tailCall n o (some (callName fn))) cl
      | [.method recv name args cl] => do
        expr f recv
        discard <| emit (.self (Bytes.ofString name)) cl
        let (n, o) ← exprList f args 0
        discard <| emit (.tailCall (n + 1) o (some name)) cl
      | _ => do
        let (n, o) ← exprList f vs 0
        discard <| emit (.ret n o) l
    | .brk l => do
      let g := (← get).cur
      match g.loops with
      | current :: rest =>
        let j ← emit (.jump 0) l
        modifyCur fun g => { g with loops := (j :: current) :: rest }
      | [] => compileError l "no loop to break"
    | .label n l => declareLabel n l none
    | .goto n l => do
      let g := (← get).cur
      match visibleLabel g n with
      | some target => discard <| emit (.jump target.pos) l
      | none =>
        let j ← emit (.jump 0) l
        modifyCur fun g => { g with gotos := { label := n, pos := j, line := l,
                                                depth := g.blocks.length, active := g.locals.length } :: g.gotos }

end

end Emit

def compileFuel (tokens : Nat) : Nat := 64 * (tokens + 4)

def compileChunk (chunk : Chunk) (source : Bytes) (fuel : Nat) : Except CompileError Proto :=
  let run : CompileM Proto := do
    modifyCur fun f => { f with faultLine := ((chunk.body.getLast?.map (·.line)).getD 0) + 1 }
    Emit.block fuel chunk.body
    discard <| emit (.ret 0 false) 0
    let c ← get
    checkGotos c.cur
    pure (c.cur.toProto source)
  match run.run { cur := { isVararg := true }, outer := [], source } with
  | .ok p _ => .ok p
  | .error e _ => .error e

end MudClient.Lua
