/-
# Running Lua code

The machine executes the code of the running frame one instruction at a
time.  A call of a Lua function from Lua code pushes a frame and goes on in
the same loop, and its return pops it; a call of a library or host function
runs that function at once, with a frame of its own on the stack for the
length of the call.  When a library function, a metamethod or the host needs
the result of a Lua call, the machine runs a nested loop until the frame it
pushed returns.

Every step spends one unit of the budget; a step with no budget left fails
with `context deadline exceeded`, and so does every step after it.

Operations on values other than numbers and strings consult metamethods:
`__index` and `__newindex` (a table to look in, or a function), the
arithmetic events, `__concat`, `__eq` (only between two tables or two host
objects with the same handler), `__lt`, `__le` (else the negation of `__lt`
with the operands exchanged), `__len`, `__unm`, `__call` and `__tostring`.
Strings convert to numbers in arithmetic, and numbers to strings in
concatenation.

A coroutine runs on a stack of its own.  It may yield only from Lua code
called from Lua code: its frames are then kept until it is resumed, when
the values passed to `resume` become the results of the call to `yield`.

## Main statements

* `callValue`: calling a value with arguments, to its results.
* `callTop`: calling a value as the host does, with no frame below it.
-/
import MudClient.Lua.Library
import MudClient.Lua.Compile
import MudClient.Lua.Parser
import MudClient.Order.Quicksort

namespace MudClient.Lua

open MudClient.Number

variable {H σ : Type}

/-- How host functions run: given the function, a way to call Lua values and
the arguments, they give their results. -/
abbrev HostCall (H σ : Type) :=
  H → (Value → Array Value → VM H σ (Array Value)) → Array Value → VM H σ (Array Value)

def maxFrames : Nat := 256

/-! ## The running frame -/

def push (v : Value) : VM H σ Unit :=
  modify fun w => { w with cur := { w.cur with stack := w.cur.stack.push v } }

def pushMany (vs : Array Value) : VM H σ Unit :=
  modify fun w => { w with cur := { w.cur with stack := w.cur.stack ++ vs } }

def pop1 : VM H σ Value :=
  modifyGet fun w => (w.cur.stack.back?.getD .nil, { w with cur := { w.cur with stack := w.cur.stack.pop } })

def popN (k : Nat) : VM H σ (Array Value) :=
  modifyGet fun w =>
    let n := w.cur.stack.size
    (w.cur.stack.extract (n - k) n, { w with cur := { w.cur with stack := w.cur.stack.take (n - k) } })

def peekAt (depth : Nat) : VM H σ Value := do
  let w ← get
  pure (w.cur.stack.getD (w.cur.stack.size - 1 - depth) .nil)

def adjustTo (vs : Array Value) (k : Nat) : Array Value :=
  if vs.size ≥ k then vs.extract 0 k else vs ++ Array.replicate (k - vs.size) .nil

/-- Pushes the results of a call: exactly the count wanted, or all of them
as open values. -/
def pushResults (want : Option Nat) (vs : Array Value) : VM H σ Unit :=
  match want with
  | some k => pushMany (adjustTo vs k)
  | none => modify fun w => { w with cur := { w.cur with stack := w.cur.stack ++ vs, openCount := vs.size } }

def localValue (s : Nat) : VM H σ Value := do
  let w ← get
  pure (w.cells.getD (w.cur.slots.getD s 0) .nil)

def setCell (c : Nat) (v : Value) : VM H σ Unit :=
  modify fun w => { w with cells := w.cells.set! c v }

def setLocalValue (s : Nat) (v : Value) : VM H σ Unit := do
  let c := (← get).cur.slots.getD s 0
  setCell c v

def declareSlot (s : Nat) (v : Value) : VM H σ Unit := do
  let c ← allocCell v
  modify fun w => { w with cur := { w.cur with slots := w.cur.slots.set! s c } }

def jumpTo (t : Nat) : VM H σ Unit :=
  modify fun w => { w with cur := { w.cur with pc := t } }

/-- A frame for a call of compiled code with its arguments, its values
beginning at `base` of the value stack: the parameters in fresh cells, the
extra arguments kept when the function takes them, below its values. -/
def newFrame (fid : Nat) (proto : Proto) (caps : Array Nat) (args : Array Value)
    (want : Option Nat) (tailcalls : Nat) (base : Nat) : VM H σ Frame := do
  let mut slots := Array.replicate proto.slots 0
  for i in [0:proto.params] do
    slots := slots.set! i (← allocCell (args.getD i .nil))
  let regBase := if proto.isVararg then base + max args.size proto.params else base
  pure { func := fid, native := false, proto, captures := caps, slots,
         varargs := if proto.isVararg then args.extract proto.params args.size else #[],
         want, tailcalls, regBase }

def checkRoom (fr : Frame) : VM H σ Unit :=
  if fr.regBase + fr.proto.registers > registryLimit then raise "registry overflow" else pure ()

/-- Ends the running frame with its results: the run returns them when it
is the frame the run started with, else they go to the caller. -/
def finishFrame (base : Nat) (vs : Array Value) : VM H σ (Option (Array Value)) := do
  let w ← get
  if w.callers.size ≤ base then pure (some vs)
  else
    let want := w.cur.want
    modify fun w => { w with cur := w.callers.back?.getD {}, callers := w.callers.pop }
    pushResults want vs
    pure none

def pushFrame (fr : Frame) : VM H σ Unit := do
  if (← get).callers.size + 1 ≥ maxFrames then raise "stack overflow"
  if !fr.native then checkRoom fr
  modify fun w => { w with callers := w.callers.push w.cur, cur := fr }

def popFrame : VM H σ Unit :=
  modify fun w => { w with cur := w.callers.back?.getD {}, callers := w.callers.pop }

/-- Where the values of a function called from the running frame begin:
just past the place of the function value, which sits below its `nargs`
arguments on the operand stack, above the slots in use. -/
def calleeBase (cur : Frame) (nargs : Nat) : Nat :=
  cur.regBase + cur.proto.frees.getD (cur.pc - 1) 0 + (cur.stack.size - (nargs + 1)) + 1

/-- The function a value calls with the arguments: itself, or its `__call`
metamethod with the value put before the arguments. -/
def callable (f : Value) (args : Array Value) : VM H σ (Nat × Array Value) := do
  match f with
  | .func r => pure (r, args)
  | _ =>
    match ← metaField f "__call" with
    | .func r => pure (r, #[f] ++ args)
    | _ => raise "attempt to call a non-function object"

/-! ## Arithmetic on numbers -/

/-- A value converted for arithmetic: strings that stand for numbers become
numbers. -/
def arithOperand : Value → Value
  | .str s => match parseNumber s with | some x => .num x | none => .str s
  | v => v

def compareError (a b : Value) : VM H σ α :=
  raise s!"attempt to compare {a.typeName} with {b.typeName}"

/-! ## Files and chunks -/

/-- The function a source compiles to, or the text of its syntax or compile
error. -/
def loadChunk (src name : Bytes) : Except Bytes Proto :=
  match parseChunk src with
  | .error e => .error (e.render name)
  | .ok chunk =>
    match compileChunk chunk name (compileFuel src.size) with
    | .ok p => .ok p
    | .error e => .error (Bytes.ofString s!"compile error near line({e.line}) {name.toText}: {e.message}")

def isModuleName (name : Bytes) : Bool :=
  let parts := (name.toText.splitOn ".")
  name.isValidText && parts.all fun p =>
    match p.toList with
    | c :: rest => (c.isAlpha || c == '_') && rest.all fun d => d.isAlphanum || d == '_'
    | [] => false

def joinPath (dir rel : String) : String :=
  if dir.endsWith "/" then dir ++ rel else dir ++ "/" ++ rel

def resolveModule (fs : Files) (name : Bytes) : Option String :=
  if fs.moduleDir.isEmpty || !isModuleName name then none
  else
    let path := joinPath fs.moduleDir (name.toText.replace "." "/" ++ ".lua")
    if fs.files.any (·.1 == path) || fs.dirs.contains path then some path else none

/-- The source a file is read as.  A file starting with `#` has its first
line skipped, after which the reader steps back one byte: the line break
is read again, so lines keep their numbers; a first line with no line break
leaves its last byte to be read, or the `#` itself when nothing follows it. -/
def fileSource (content : Bytes) : Bytes :=
  if content.size > 0 && content.get 0 == 35 then
    match (List.range content.size).find? (fun i => content.get i == 10) with
    | some i => content.extract i content.size
    | none => content.extract (content.size - 1) content.size
  else content

/-- The `package.loaded` and `package.preload` tables, when they are
tables. -/
def packageTables : VM H σ (Option Nat × Option Nat) := do
  match ← globalField "package" with
  | .table p =>
    let t ← tableAt p
    let loaded := match t.getStr "loaded" with | .table r => some r | _ => none
    let preload := match t.getStr "preload" with | .table r => some r | _ => none
    pure (loaded, preload)
  | _ => pure (none, none)

def storeModule (loaded : Option Nat) (name : Bytes) (v : Value) : VM H σ (Array Value) := do
  let v := if v.isNil then Value.bool true else v
  match loaded with
  | some l => modifyTable l (·.set (.str name) v)
  | none => pure ()
  pure #[v]

/-- The replacement text of a match under a replacement string: `%0` is the
whole match, `%1` … `%9` the captures (`%1` the whole match when there are
none), `%%` a percent sign; `%` before anything else stays. -/
def replacementText (src r : Bytes) (m : Pattern.Found) : VM H σ Bytes := do
  let capLen := 2 + 2 * m.caps.size
  let captured (idx : Nat) : VM H σ Bytes := do
    if idx > 2 && idx ≥ capLen then raise "invalid capture index"
    let idx := if idx ≥ capLen && idx == 2 then 0 else idx
    if idx = 0 then pure (src.extract m.start m.stop)
    else
      match m.caps[idx / 2 - 1]? with
      | some (.position p) => pure (Bytes.ofString (toString p))
      | some (.span st stop) => pure (src.extract st stop)
      | none => raise "invalid capture index"
  let mut out := Bytes.empty
  let mut i := 0
  for _ in [0:r.size] do
    if i < r.size then
      let c := r.get i
      if c == 37 then
        if i + 1 < r.size && r.get (i + 1) == 37 then
          out := out ++ Bytes.ofByte 37
          i := i + 2
        else if i + 1 < r.size then
          let d := r.get (i + 1)
          if 48 ≤ d && d ≤ 57 then out := out ++ (← captured (2 * (d.toNat - 48)))
          else out := out ++ Bytes.ofByte 37 ++ Bytes.ofByte d
          i := i + 2
        else
          out := out ++ Bytes.ofByte 37
          i := i + 1
      else
        out := out ++ Bytes.ofByte c
        i := i + 1
  pure out

def replaceSpans (s : Bytes) (spans : Array (Nat × Nat × Bytes)) : Bytes :=
  let (out, last) := spans.foldl (fun (acc : Bytes × Nat) (st, stop, r) =>
    (acc.1 ++ s.extract acc.2 st ++ r, stop)) (Bytes.empty, 0)
  out ++ s.extract last s.size

/-- The text a replacement value gives: strings and numbers as text, other
values nothing. -/
def replacementValue : Value → Bytes
  | .str s => s
  | .num x => Bytes.ofString (numberText x)
  | _ => Bytes.empty

/-- What a sort sees of the sequence it sorts: the entries it last knew,
and whether the table still shares them. -/
structure SortView where
  vals : Array Value
  shared : Bool

/-- How a resumed coroutine stopped. -/
inductive Outcome where
  | done (vs : Array Value)
  | yielded (vs : Array Value)
  | failed (v : Value) (trace : String)

def setThreadStatus (k : Nat) (st : ThreadStatus) : VM H σ Unit :=
  modify fun w => { w with threads := w.threads.modify k fun th => { th with status := st } }

/-- Ends a resume of the coroutine `t` that stopped with `outcome`: the
resumer's frames, coroutine and detached state come back, the resumer runs
again, and the coroutine is left suspended with its frames, dead, or broken
when it went on apart from the resume; answers what the resume gives. -/
def settleResume (t : Nat) (wrapped : Bool) (savedCur : Frame) (savedCallers : Array Frame)
    (parent : Option Nat) (outer : Option Nat × Option (Array Value) × Option Nat) (outcome : Outcome) :
    VM H σ (Array Value) := do
  let w ← get
  let yieldedFrames := (w.callers.back?.getD {}, w.callers.pop)
  let detachedResult := w.detachedResult
  modify fun w => { w with cur := savedCur, callers := savedCallers, thread := parent,
                           detached := outer.1, detachedResult := outer.2.1, resumer := outer.2.2 }
  match parent with
  | some p => setThreadStatus p .running
  | none => pure ()
  match detachedResult with
  | some vals =>
    -- the coroutine ran on apart from this call after giving it values;
    -- its own results are lost, and its errors are this call's
    modify fun w => { w with threads := w.threads.modify t fun th =>
      { th with status := .suspended, saved := none, broken := true } }
    match outcome with
    | .failed v _ => throwValue v
    | _ => pure (if wrapped then vals else #[.bool true] ++ vals)
  | none =>
  match outcome with
  | .done vs =>
    modify fun w => { w with threads := w.threads.modify t fun th =>
      { th with status := .dead, saved := none } }
    pure (if wrapped then vs else #[.bool true] ++ vs)
  | .yielded vs =>
    modify fun w => { w with threads := w.threads.modify t fun th =>
      { th with status := .suspended, saved := some yieldedFrames } }
    pure (if wrapped then vs else #[.bool true] ++ vs)
  | .failed v _ =>
    modify fun w => { w with threads := w.threads.modify t fun th =>
      { th with status := .dead, saved := none } }
    if wrapped then throwValue v else pure #[.bool false, v]

section

variable (hostCall : HostCall H σ)

mutual

def run : Nat → Nat → VM H σ (Array Value)
  | 0, _ => raise "call nesting too deep"
  | n + 1, base => do
    match ← step n base with
    | some vs => pure vs
    | none => run n base

/-- Executes one instruction of the running frame; answers the results
when the frame at `base` returned. -/
def step : Nat → Nat → VM H σ (Option (Array Value))
  | 0, _ => raise "call nesting too deep"
  | n + 1, base => do
    let ok ← modifyGet fun w =>
      match w.budget with
      | some 0 => (false, { w with expired := true })
      | some (b + 1) => (true, { w with budget := some b })
      | none => (true, w)
    let instr ← modifyGet fun w =>
      (w.cur.proto.code[w.cur.pc]?, { w with cur := { w.cur with pc := w.cur.pc + 1 } })
    if !ok then raise "context deadline exceeded"
    match instr with
    | none => finishFrame base #[]
    | some i =>
      match i with
      | .pushNil k => pushMany (Array.replicate k .nil); pure none
      | .pushBool b => push (.bool b); pure none
      | .pushNum x => push (.num x); pure none
      | .pushStr s => push (.str s); pure none
      | .getLocal s => push (← localValue s); pure none
      | .declare s => declareSlot s (← pop1); pure none
      | .setLocal s => setLocalValue s (← pop1); pure none
      | .getUpval k =>
        let w ← get
        let v := w.cells.getD (w.cur.captures.getD k 0) .nil
        push v; pure none
      | .setUpval k =>
        let v ← pop1
        let c := (← get).cur.captures.getD k 0
        setCell c v; pure none
      | .getGlobal name =>
        let g ← frameEnv
        push (← getIndex n 0 (.table g) (.str name)); pure none
      | .setGlobal name =>
        let v ← pop1
        let g ← frameEnv
        setIndexV n 0 (.table g) (.str name) v; pure none
      | .index =>
        let k ← pop1
        let o ← pop1
        push (← getIndex n 0 o k); pure none
      | .setIndex =>
        let v ← pop1
        let k ← pop1
        let o ← pop1
        setIndexV n 0 o k v; pure none
      | .self name =>
        let o ← pop1
        let f ← getIndex n 0 o (.str name)
        push f; push o; pure none
      | .pick d => push (← peekAt d); pure none
      | .pop k => discard (popN k); pure none
      | .newTable room => push (.table (← allocTable { hasArray := room > 0, cap := room })); pure none
      | .setList first count o =>
        let oc := (← get).cur.openCount
        let total := count + (if o then oc else 0)
        let vs ← popN total
        match ← peekAt 0 with
        | .table r =>
          modifyTable r fun t => (vs.toList.zipIdx).foldl (fun t (v, j) => t.setInt (first + j + 1 : Nat) v) t
        | _ => pure ()
        pure none
      | .setField pending =>
        let v ← pop1
        let k ← pop1
        let t ← peekAt pending
        setIndexV n 0 t k v; pure none
      | .closure c =>
        let w ← get
        let child := w.cur.proto.children.getD c default
        let caps := child.captures.map fun
          | .slot s => w.cur.slots.getD s 0
          | .outer j => w.cur.captures.getD j 0
        let fid ← allocFunc (.lua child caps (← frameEnv))
        push (.func fid); pure none
      | .call k o results _ =>
        let oc := (← get).cur.openCount
        let total := k + (if o then oc else 0)
        let callee := calleeBase (← get).cur total
        let vs ← popN (total + 1)
        let (fid, args) ← callable (vs.getD 0 .nil) (vs.extract 1 vs.size)
        match ← funcAt fid with
        | .lua proto caps _ =>
          let fr ← newFrame fid proto caps args results 0 callee
          pushFrame fr
          pure none
        | fn =>
          let rs ← invokeNative n fid fn args callee
          pushResults results rs
          pure none
      | .tailCall k o _ =>
        let oc := (← get).cur.openCount
        let total := k + (if o then oc else 0)
        let callee := calleeBase (← get).cur total
        let vs ← popN (total + 1)
        let (fid, args) ← callable (vs.getD 0 .nil) (vs.extract 1 vs.size)
        match ← funcAt fid with
        | .lua proto caps _ =>
          let w ← get
          let fr ← newFrame fid proto caps args w.cur.want (w.cur.tailcalls + 1) w.cur.regBase
          checkRoom fr
          modify fun w => { w with cur := { fr with entry := w.cur.entry } }
          pure none
        | fn =>
          let rs ← invokeNative n fid fn args callee
          finishFrame base rs
      | .ret k o =>
        let oc := (← get).cur.openCount
        let total := k + (if o then oc else 0)
        finishFrame base (← popN total)
      | .vararg want =>
        let va := (← get).cur.varargs
        match want with
        | some k => pushMany (adjustTo va k)
        | none => pushResults none va
        pure none
      | .adjust k =>
        let vs ← popN (← get).cur.openCount
        pushMany (adjustTo vs k); pure none
      | .arith op =>
        let b ← pop1
        let a ← pop1
        push (← arith n op a b); pure none
      | .concat =>
        let b ← pop1
        let a ← pop1
        push (← concat n a b); pure none
      | .compare op =>
        let b ← pop1
        let a ← pop1
        let r ← match op with
          | .eq => equals n a b
          | .ne => do pure !(← equals n a b)
          | .lt => lessThan n a b
          | .le => lessEqual n a b
          | .gt => lessThan n b a
          | .ge => lessEqual n b a
        push (.bool r); pure none
      | .neg => push (← negate n (← pop1)); pure none
      | .not => push (.bool !(← pop1).truthy); pure none
      | .len => push (← lengthOf n (← pop1)); pure none
      | .jump t => jumpTo t; pure none
      | .jumpIfNot t =>
        if !(← pop1).truthy then jumpTo t
        pure none
      | .andJump t =>
        if !(← peekAt 0).truthy then jumpTo t else discard pop1
        pure none
      | .orJump t =>
        if (← peekAt 0).truthy then jumpTo t else discard pop1
        pure none
      | .forPrep b t =>
        let st ← pop1
        let lim ← pop1
        let start ← pop1
        match start, st with
        | .num x, .num y =>
          declareSlot b (.num (x - y))
          declareSlot (b + 1) lim
          declareSlot (b + 2) st
          jumpTo t
          pure none
        | .num _, _ => raise "for statement step must be a number"
        | _, _ => raise "for statement init must be a number"
      | .forLoop b var body =>
        let idx ← localValue b
        let lim ← localValue (b + 1)
        let st ← localValue (b + 2)
        match idx, lim, st with
        | .num x, .num l, .num y =>
          let x := x + y
          setLocalValue b (.num x)
          if (y > 0 && x ≤ l) || (y ≤ 0 && x ≥ l) then
            declareSlot var (.num x)
            jumpTo body
          pure none
        | .num _, .num _, _ => raise "for statement step must be a number"
        | .num _, _, _ => raise "for statement limit must be a number"
        | _, _, _ => raise "for statement init must be a number"
      | .forCheck control vars exit =>
        let vs ← popN vars.length
        let first := vs.getD 0 .nil
        if first.isNil then jumpTo exit
        else
          setLocalValue control first
          for (s, v) in vars.zip vs.toList do
            declareSlot s v
        pure none

/-- Calls a library or host function with a frame of its own, its
arguments beginning at `base` of the value stack, where its results go
after them. -/
def invokeNative : Nat → Nat → Func H → Array Value → Nat → VM H σ (Array Value)
  | 0, _, _, _, _ => raise "call nesting too deep"
  | n + 1, fid, fn, args, base => do
    pushFrame { func := fid, native := true, regBase := base, argc := args.size }
    let vs ← match fn with
      | .builtin b => builtinCall n b args
      | .host h => hostCall h (callValue n) args
      | .lua _ _ _ => pure #[]
    if base + args.size + vs.size > registryLimit then raise "registry overflow"
    popFrame
    pure vs

def callValue : Nat → Value → Array Value → VM H σ (Array Value)
  | 0, _, _ => raise "call nesting too deep"
  | n + 1, f, args => do
    let (fid, args) ← callable f args
    match ← funcAt fid with
    | .lua proto caps _ =>
      let w ← get
      let fr ← newFrame fid proto caps args none 0 (w.cur.top + 1)
      let (cur, callers) := (w.cur, w.callers)
      pushFrame { fr with entry := true }
      let base := (← get).callers.size
      tryCatch (do
          let vs ← run n base
          popFrame
          pure vs)
        fun e => match e with
          | .unwind => do
            -- a coroutine yielded from under this call: the call ends with
            -- the function itself in its first result
            modify fun w => { w with cur, callers }
            pure #[.func fid]
          | e => throw e
    | fn => invokeNative n fid fn args ((← get).cur.top + 1)

def callMeta : Nat → Value → Array Value → VM H σ Value
  | 0, _, _ => raise "call nesting too deep"
  | n + 1, f, args => do pure ((← callValue n f args).getD 0 .nil)

/-- Reads `obj[key]`, following `__index`; `hops` counts the tables
followed so far. -/
def getIndex : Nat → Nat → Value → Value → VM H σ Value
  | 0, _, _, _ => raise "call nesting too deep"
  | n + 1, hops, obj, key => do
    if hops ≥ 100 then raise "too many recursions in gettable"
    let raw ← match obj with
      | .table r => rawGet r key
      | _ => pure .nil
    if !raw.isNil then pure raw
    else
      match ← metaField obj "__index" with
      | .nil =>
        match obj with
        | .table _ => pure .nil
        | _ => raiseAt 1 (Bytes.ofString ("attempt to index a non-table object(" ++ obj.typeName ++ ") with key '") ++
            key.text ++ Bytes.ofString "'")
      | .func f => callMeta n (.func f) #[obj, key]
      | next => getIndex n (hops + 1) next key

def setIndexV : Nat → Nat → Value → Value → Value → VM H σ Unit
  | 0, _, _, _, _ => raise "call nesting too deep"
  | n + 1, hops, obj, key, v => do
    if hops ≥ 100 then raise "too many recursions in settable"
    let present ← match obj with
      | .table r => do pure !(← rawGet r key).isNil
      | _ => pure false
    match obj, present with
    | .table r, true => rawSet r key v
    | _, _ =>
      match ← metaField obj "__newindex" with
      | .nil =>
        match obj with
        | .table r => rawSet r key v
        | _ => raiseAt 1 (Bytes.ofString ("attempt to index a non-table object(" ++ obj.typeName ++ ") with key '") ++
            key.text ++ Bytes.ofString "'")
      | .func f => discard (callValue n (.func f) #[obj, key, v])
      | next => setIndexV n (hops + 1) next key v

def arith : Nat → Arith → Value → Value → VM H σ Value
  | 0, _, _, _ => raise "call nesting too deep"
  | n + 1, op, a, b => do
    match a, b with
    | .num x, .num y => pure (.num (op.apply x y))
    | _, _ =>
      match ← metaField2 a b ("__" ++ op.name) with
      | .func f => callMeta n (.func f) #[a, b]
      | _ =>
        match arithOperand a, arithOperand b with
        | .num x, .num y => pure (.num (op.apply x y))
        | x, y => raise s!"cannot perform {op.name} operation between {x.typeName} and {y.typeName}"

/-- Concatenation, with `__concat` for values other than strings and
numbers. -/
def concat : Nat → Value → Value → VM H σ Value
  | 0, _, _ => raise "call nesting too deep"
  | n + 1, a, b => do
    if a.isStringLike && b.isStringLike then pure (.str (a.text ++ b.text))
    else
      match ← metaField2 a b "__concat" with
      | .func f => callMeta n (.func f) #[a, b]
      | _ => raise s!"cannot perform concat operation between {a.typeName} and {b.typeName}"

/-- The answer of a comparison metamethod both operands share, if they
share one. -/
def rational : Nat → Value → Value → String → VM H σ (Option Bool)
  | 0, _, _, _ => raise "call nesting too deep"
  | n + 1, a, b, event => do
    match ← metaField a event, ← metaField b event with
    | .func f, .func g => if f == g then pure (some (← callMeta n (.func f) #[a, b]).truthy) else pure none
    | _, _ => pure none

def equals : Nat → Value → Value → VM H σ Bool
  | 0, _, _ => raise "call nesting too deep"
  | n + 1, a, b => do
    match a, b with
    | .table _, .table _ | .userdata _, .userdata _ =>
      if a.rawEq b then pure true
      else pure ((← rational n a b "__eq").getD false)
    | _, _ => pure (a.rawEq b)

def lessThan : Nat → Value → Value → VM H σ Bool
  | 0, _, _ => raise "call nesting too deep"
  | n + 1, a, b => do
    match a, b with
    | .num x, .num y => pure (x < y)
    | .num _, _ => compareError a b
    | .str x, .str y => pure (Bytes.lt x y)
    | _, _ =>
      if a.typeName != b.typeName then compareError a b
      else
        match ← rational n a b "__lt" with
        | some r => pure r
        | none => compareError a b

def lessEqual : Nat → Value → Value → VM H σ Bool
  | 0, _, _ => raise "call nesting too deep"
  | n + 1, a, b => do
    match a, b with
    | .num x, .num y => pure (x ≤ y)
    | .num _, _ => compareError a b
    | .str x, .str y => pure !(Bytes.lt y x)
    | _, _ =>
      if a.typeName != b.typeName then compareError a b
      else
        match ← rational n a b "__le" with
        | some r => pure r
        | none =>
          match ← rational n b a "__lt" with
          | some r => pure !r
          | none => compareError b a

def negate : Nat → Value → VM H σ Value
  | 0, _ => raise "call nesting too deep"
  | n + 1, v => do
    match v with
    | .num x => pure (.num (-x))
    | _ =>
      match ← metaField v "__unm" with
      | .func f => callMeta n (.func f) #[v]
      | _ =>
        match v with
        | .str s => match parseNumber s with
          | some x => pure (.num (-x))
          | none => raise "__unm undefined"
        | _ => raise "__unm undefined"

def lengthOf : Nat → Value → VM H σ Value
  | 0, _ => raise "call nesting too deep"
  | n + 1, v => do
    match v with
    | .str s => pure (.num (Float.ofNat s.size))
    | _ =>
      match ← metaField v "__len" with
      | .func f => callMeta n (.func f) #[v]
      | _ =>
        match v with
        | .table r => pure (.num (Float.ofNat (← tableAt r).length))
        | _ => raise "__len undefined"

def toStringMeta : Nat → Value → VM H σ Value
  | 0, _ => raise "call nesting too deep"
  | n + 1, v => do
    match ← metaField v "__tostring" with
    | .func f => callMeta n (.func f) #[v]
    | _ => pure (.str v.text)

/-- The library functions that call back into Lua, and the rest through the
library. -/
def builtinCall : Nat → Builtin → Array Value → VM H σ (Array Value)
  | 0, _, _ => raise "call nesting too deep"
  | n + 1, b, args =>
    match b with
    | .base .pcall => do
      let f ← checkAny args 1
      let callableOk ← match f with
        | .func _ => pure true
        | _ => do pure (match ← metaField f "__call" with | .func _ => true | _ => false)
      if !callableOk then pure #[.bool false, strValue s!"attempt to call a {f.typeName} value"]
      else
        let w ← get
        let cur := w.cur
        let callers := w.callers
        tryCatch (do
            let vs ← callValue n f (args.extract 1 args.size)
            pure (#[Value.bool true] ++ vs))
          fun e => match e with
            | .error v _ => do
              modify fun w => { w with cur := cur, callers := callers }
              pure #[.bool false, v]
            | e => throw e
    | .base .xpcall => do
      let _ ← checkFunction args 1
      let _ ← checkFunction args 2
      let w ← get
      let cur := w.cur
      let callers := w.callers
      tryCatch (do
          let vs ← callValue n (arg args 1) #[]
          pure (#[Value.bool true] ++ vs))
        fun e => match e with
          | .error v _ => do
            let r ← tryCatch (callValue n (arg args 2) #[v])
              fun e2 => match e2 with
                | .error v2 _ => pure #[v2]
                | e2 => throw e2
            modify fun w => { w with cur := cur, callers := callers }
            pure #[.bool false, r.getD 0 .nil]
          | e => throw e
    | .base .tostring => do
      let v ← checkAny args 1
      pure #[← toStringMeta n v]
    | .base .print | .sandboxPrint => do
      let mut parts : Array Bytes := #[]
      for v in args do
        parts := parts.push (← toStringMeta n v).text
      let line := (parts.toList.intersperse (Bytes.ofString "\t")).foldl (· ++ ·) Bytes.empty
      modify fun w => { w with printed := w.printed.push line }
      pure #[]
    | .table .sort => do
      let r ← checkTable args 1
      let cmp ← if args.size != 1 then do pure (some (← checkFunction args 2)) else pure none
      let start ← tableAt r
      let current : VM H σ Table := tableAt r
      let write (k : Nat) (v : Value) : VM H σ Unit :=
        modifyTable r fun t => { t with arr := t.arr.setIfInBounds k v }
      -- The sort works on the array part as it was when it began, which the
      -- table keeps sharing until its capacity changes: while shared, the
      -- table's entries are the sort's, and the places past the table's
      -- length hold what the sort last knew of them.
      let sorting : StateT SortView (VM H σ) Unit := do
        let view ← get
        if view.shared then
          let t ← current
          if t.cap != start.cap then
            set { vals := view.vals.mapIdx fun k v => t.arr.getD k v, shared := false : SortView }
      let entry (k : Nat) : StateT SortView (VM H σ) Value := do
        sorting
        let view ← get
        if view.shared then
          let t ← current
          pure (if k < t.arr.size then t.arr.getD k .nil else view.vals.getD k .nil)
        else pure (view.vals.getD k .nil)
      let store (k : Nat) (v : Value) : StateT SortView (VM H σ) Unit := do
        modify fun view => { view with vals := view.vals.setIfInBounds k v }
        if (← get).shared then write k v
      let ops : Order.Ops (StateT SortView (VM H σ)) :=
        { less := fun i j => do
            let a ← entry i
            let b ← entry j
            match cmp with
            | some f => pure (← callMeta n (.func f) #[a, b]).truthy
            | none => lessThan n a b
          swap := fun i j => do
            let a ← entry i
            let b ← entry j
            store i b
            store j a }
      discard <| (Order.sort ops start.arr.size).run { vals := start.arr, shared := true }
      pure #[]
    | .string .gsub => do
      let s ← checkString args 1
      let p ← checkString args 2
      let repl := arg args 3
      match repl with
      | .str _ | .table _ | .func _ => pure ()
      | v => argError 3 s!"string or table or function expected, got {v.typeName}"
      let limit ← optInt args 4 (-1)
      let ms ← findMatches s p 0 limit
      if ms.isEmpty then pure #[arg args 1, .num 0]
      else
        let mut spans : Array (Nat × Nat × Bytes) := #[]
        for m in ms do
          match repl with
          | .table _ =>
            let key ← match (m.caps[0]? : Option Pattern.Cap) with
              | some (.position q) => pure (Value.num (Float.ofNat q))
              | some (.span st stop) => pure (Value.str (s.extract st stop))
              | none => pure (Value.str (s.extract m.start m.stop))
            let v ← getIndex n 0 repl key
            if v.truthy then spans := spans.push (m.start, m.stop, replacementValue v)
          | .func _ =>
            let cargs ← captureValues s m true
            let v ← callMeta n repl cargs
            if v.truthy then spans := spans.push (m.start, m.stop, replacementValue v)
          | r =>
            let text := match r with
              | .str t => t
              | other => other.text
            spans := spans.push (m.start, m.stop, ← replacementText s text m)
        pure #[.str (replaceSpans s spans), intValue ms.size]
    | .coroutine .resume => do
      let t ← checkThread args 1
      resume n t (args.extract 1 args.size) false
    | .coroutine .wrap => do
      let r ← checkFunction args 1
      let t ← modifyGet fun w => (w.threads.size, { w with threads := w.threads.push { body := .func r } })
      let fid ← allocFunc (.builtin (.resumeWrapped t))
      pure #[.func fid]
    | .resumeWrapped t => resume n t args true
    | .coroutine .yield => do
      let w ← get
      let caller := w.callers.back?.getD {}
      let tailCalled := !caller.native && match caller.proto.code[caller.pc - 1]? with
        | some (.tailCall ..) => true
        | _ => false
      match w.thread, w.detached with
      | some t, none =>
        if w.callers.any (fun f => f.native || f.entry) then
          -- yielding from under a library call: the resumer gets the values
          -- at once and the coroutine goes on apart from it
          modify fun w =>
            let threads := w.threads.modify t fun th => { th with status := .suspended }
            let threads := match w.resumer with
              | some p => threads.modify p fun th => { th with status := .running }
              | none => threads
            { w with detached := some t, detachedResult := some args, thread := w.resumer, threads }
          if caller.native then pure #[] else throw .unwind
        else throw (.yield args)
      | _, _ =>
        -- a tail call's frame is gone by the time the yield is refused
        if tailCalled then modify fun w => { w with callers := w.callers.pop }
        raise "can not yield from outside of a coroutine"
    | .base .loaderPreload => do
      let name ← checkString args 1
      let pkg ← getIndex n 0 (.table (← threadEnv)) (strValue "package")
      let preload ← getIndex n 0 pkg (strValue "preload")
      match preload with
      | .table _ =>
        match ← getIndex n 0 preload (.str name) with
        | .nil => pure #[.str (Bytes.ofString "no field package.preload['" ++ name ++ Bytes.ofString "']")]
        | v => pure #[v]
      | _ => raise "package.preload must be a table"
    | .base .loaderFile => do
      let name ← checkString args 1
      let packagePath : VM H σ Bytes := do
        let pkg ← getIndex n 0 (.table (← threadEnv)) (strValue "package")
        match ← getIndex n 0 pkg (strValue "path") with
        | .str p => pure p
        | _ => raise "package.path must be a string"
      let _ ← packagePath
      let path ← packagePath
      let file := name.toText.replace "." "/"
      let fs := (← get).files
      let candidates := (path.toText.splitOn ";").map (·.replace "?" file)
      match candidates.find? (fun c => fs.files.any (·.1 == c) || fs.dirs.contains c) with
      | none =>
        let missing := candidates.map fun c => "stat " ++ c ++ ": no such file or directory"
        pure #[strValue ("\n\t".intercalate missing)]
      | some c =>
        match fs.files.lookup c with
        | none => raise s!"read {c}: is a directory"
        | some content =>
          match loadChunk (fileSource content) (Bytes.ofString c) with
          | .error msg => raiseAt 1 msg
          | .ok proto => pure #[.func (← allocFunc (.lua proto #[] (← threadEnv)))]
    | .sandboxRequire | .base .require => require n args
    | _ => libraryCall b args

/-- Resumes a coroutine with values: its results or yielded values after
`true`, or `false` and the error; a wrapped coroutine gives the values
alone and raises its errors. -/
def resume : Nat → Nat → Array Value → Bool → VM H σ (Array Value)
  | 0, _, _, _ => raise "call nesting too deep"
  | n + 1, t, args, wrapped => do
    let w ← get
    let th := w.threads.getD t default
    let refuse (msg : String) : VM H σ (Array Value) :=
      if wrapped then raise msg else pure #[.bool false, strValue msg]
    if w.thread == some t || th.status == .running || th.status == .normal then
      refuse "can not resume a running thread"
    else if th.status == .dead then refuse "can not resume a dead thread"
    else if th.broken then crash "runtime error: invalid memory address or nil pointer dereference"
    else
      let savedCur := w.cur
      let savedCallers := w.callers
      let parent := w.thread
      let outer := (w.detached, w.detachedResult, w.resumer)
      match parent with
      | some p => setThreadStatus p .normal
      | none => pure ()
      setThreadStatus t .running
      modify fun w => { w with thread := some t, detached := none, detachedResult := none,
                               resumer := parent }
      let outcome ← tryCatch (do
          match th.saved with
          | none =>
            match th.body with
            | .func fid =>
              match ← funcAt fid with
              | .lua proto caps _ =>
                let fr ← newFrame fid proto caps args none 0 1
                modify fun w => { w with cur := fr, callers := #[] }
                pure (Outcome.done (← run n 0))
              | fn =>
                modify fun w => { w with cur := { func := fid, native := true }, callers := #[] }
                let vs ← match fn with
                  | .builtin b => builtinCall n b args
                  | .host h => hostCall h (callValue n) args
                  | .lua _ _ _ => pure #[]
                pure (Outcome.done vs)
            | _ => pure (Outcome.done #[])
          | some (cur, callers) =>
            modify fun w => { w with cur := cur, callers := callers }
            let resumed ← match cur.proto.code[cur.pc - 1]? with
              | some (.tailCall ..) => finishFrame 0 args
              | some (.call _ _ results _) => do pushResults results args; pure none
              | _ => pure none
            match resumed with
            | some vs => pure (Outcome.done vs)
            | none => pure (Outcome.done (← run n 0)))
        fun e => match e with
          | .yield vs => pure (Outcome.yielded vs)
          | .error v tr => pure (Outcome.failed v tr)
          | .unwind => pure (Outcome.done #[])
      settleResume t wrapped savedCur savedCallers parent outer outcome

/-- `require` in the sandbox: a loaded module, a preloaded one, a library,
a granted library, or a file below the module directory, run once. -/
def require : Nat → Array Value → VM H σ (Array Value)
  | 0, _ => raise "call nesting too deep"
  | n + 1, args => do
    let name ← checkString args 1
    let (loaded, preload) ← packageTables
    let cached ← match loaded with
      | some l => rawGet l (.str name)
      | none => pure .nil
    if !cached.isNil then return #[cached]
    let loader ← match preload with
      | some p => rawGet p (.str name)
      | none => pure .nil
    match loader with
    | .func _ =>
      let r ← callMeta n loader #[.str name]
      storeModule loaded name r
    | _ =>
      let text := name.toText
      if ["string", "table", "math", "coroutine"].contains text && name.isValidText then
        return #[← globalField text]
      if ["os", "io", "debug"].contains text && name.isValidText then
        let v ← globalField text
        if v.isNil then
          raiseAt 1 (Bytes.ofString ("module " ++ String.ofList ('"' :: quoteChars name false ++ ['"']) ++
            " requires a capability"))
        else return #[v]
      let fs := (← get).files
      match resolveModule fs name with
      | none =>
        raiseAt 1 (Bytes.ofString ("module " ++ String.ofList ('"' :: quoteChars name false ++ ['"']) ++
          " is not available"))
      | some path =>
        match fs.files.lookup path with
        | none => raise s!"read {path}: is a directory"
        | some content =>
          match loadChunk (fileSource content) (Bytes.ofString path) with
          | .error msg => raiseAt 1 msg
          | .ok proto =>
            let fid ← allocFunc (.lua proto #[] (← threadEnv))
            let r ← callMeta n (.func fid) #[.str name]
            storeModule loaded name r

end

/-- Calls a value as the host does: the called function has no frame below
it, and the frames in use are restored afterwards, also on an error. -/
def callTop (n : Nat) (f : Value) (args : Array Value) : VM H σ (Array Value) := do
  let w ← get
  let savedCur := w.cur
  let savedCallers := w.callers
  let restore : VM H σ Unit := modify fun w => { w with cur := savedCur, callers := savedCallers }
  tryCatch (do
      let (fid, args) ← callable f args
      let vs ← match ← funcAt fid with
        | .lua proto caps _ => do
          let fr ← newFrame fid proto caps args none 0 1
          modify fun w => { w with cur := fr, callers := #[] }
          run hostCall n 0
        | .builtin b => do
          modify fun w => { w with cur := { func := fid, native := true }, callers := #[] }
          builtinCall hostCall n b args
        | .host h => do
          modify fun w => { w with cur := { func := fid, native := true }, callers := #[] }
          hostCall h (callValue hostCall n) args
      restore
      pure vs)
    fun e => do restore; throw e

end

end MudClient.Lua
