/-
# The state of a running Lua program

Everything a Lua program can reach lives in one heap: tables, functions,
the cells that hold variables, coroutines and host objects, each named by
its index.  The world also holds the call stack of the running coroutine,
the step budget left before the deadline, and the lines printed so far.

The call stack is a list of frames, the running one last.  A frame belongs
either to a function written in Lua, with its code position, local slots,
operand stack and extra arguments, or to a library function, which has
only its identity.  Stack tracebacks and the position put in front of error
messages are read from these frames:

* a frame's position is `source:line:` for Lua code, at the instruction
  being executed, and `[G]:` for a library function;
* a frame's name comes from the instruction of the frame below it that
  called it: the variable, field or method name it was called through.  A
  Lua function called without such a name, or after a tail call, is shown
  by where it was defined, `<source:line>`; a library function called so
  is `(anonymous)`; the bottom frame is the `main chunk`.

## Main statements

* `traceback`: the text of a stack traceback.
* `raise`: raising an error with the position of the innermost Lua code.
-/
import MudClient.Lua.Value
import MudClient.Lua.Code
import MudClient.Lua.Numeral

namespace MudClient.Lua

/-- Functions of the base library. -/
inductive BaseFn where
  | assert | collectgarbage | error | getfenv | getmetatable | next | pcall | print
  | rawequal | rawget | rawset | select | setfenv | setmetatable | tonumber | tostring
  | type | unpack | xpcall | module | require | newproxy | ipairs | ipairsStep | pairs
  | loadlib | seeall | printregs | loaderPreload | loaderFile
deriving DecidableEq, Repr, Inhabited

/-- Functions of the table library. -/
inductive TableFn where
  | getn | concat | insert | maxn | remove | sort
deriving DecidableEq, Repr, Inhabited

/-- Functions of the string library. -/
inductive StringFn where
  | byte | char | dump | find | format | gsub | len | lower | match | rep | reverse | sub
  | upper | gmatch | gmatchStep
deriving DecidableEq, Repr, Inhabited

/-- Functions of the math library. -/
inductive MathFn where
  | abs | acos | asin | atan | atan2 | ceil | cos | cosh | deg | exp | floor | fmod | frexp
  | ldexp | log | log10 | max | min | mod | modf | pow | rad | random | randomseed | sin
  | sinh | sqrt | tan | tanh
deriving DecidableEq, Repr, Inhabited

/-- Functions of the coroutine library. -/
inductive CoroutineFn where
  | create | yield | resume | running | status | wrap
deriving DecidableEq, Repr, Inhabited

/-- Functions of the operating-system library. -/
inductive OsFn where
  | clock | difftime | execute | exit | date | getenv | remove | rename | setenv | setlocale
  | time | tmpname
deriving DecidableEq, Repr, Inhabited

/-- Functions of the input/output library. -/
inductive IoFn where
  | close | flush | input | lines | open | output | popen | read | tmpfile | type | write
deriving DecidableEq, Repr, Inhabited

/-- Functions of the debug library. -/
inductive DebugFn where
  | getfenv | getinfo | getlocal | getmetatable | getupvalue | setfenv | setlocal
  | setmetatable | setupvalue | traceback
deriving DecidableEq, Repr, Inhabited

/-- The library functions. -/
inductive Builtin where
  | base (f : BaseFn)
  | table (f : TableFn)
  | string (f : StringFn)
  | math (f : MathFn)
  | coroutine (f : CoroutineFn)
  | os (f : OsFn)
  | io (f : IoFn)
  | debug (f : DebugFn)
  /-- The function `coroutine.wrap` makes for a coroutine. -/
  | resumeWrapped (thread : Nat)
  /-- `print`, sending its line to the host. -/
  | sandboxPrint
  /-- `require`, resolving modules in the sandbox. -/
  | sandboxRequire
deriving DecidableEq, Repr, Inhabited

/-- A function: a closure of compiled code with the cells it captured and
the table its globals live in, a library function, or a function of the
host. -/
inductive Func (H : Type) where
  | lua (proto : Proto) (captures : Array Nat) (env : Nat)
  | builtin (b : Builtin)
  | host (h : H)
deriving Inhabited

/-- A call frame. -/
structure Frame where
  func : Nat := 0
  native : Bool := true
  proto : Proto := default
  captures : Array Nat := #[]
  pc : Nat := 0
  slots : Array Nat := #[]
  stack : Array Value := #[]
  varargs : Array Value := #[]
  /-- How many values the last instruction with open results left. -/
  openCount : Nat := 0
  /-- How many results the caller wants; `none` for all. -/
  want : Option Nat := none
  /-- How many tail calls replaced this frame. -/
  tailcalls : Nat := 0
  /-- Whether a run of its own was started for this frame, so that its
  return ends that run rather than going on in its caller's code. -/
  entry : Bool := false
  /-- Where the frame's values begin in the value stack of its coroutine. -/
  regBase : Nat := 1
  /-- How many arguments a library function's frame received. -/
  argc : Nat := 0
deriving Inhabited

/-- The status of a coroutine. -/
inductive ThreadStatus where
  | suspended | running | normal | dead
deriving DecidableEq, Repr, Inhabited

def ThreadStatus.name : ThreadStatus → String
  | .suspended => "suspended" | .running => "running" | .normal => "normal" | .dead => "dead"

/-- A coroutine: its body, while suspended after a yield its frames, and
the table new chunks loaded in it take their globals from (none for the
global table).  A coroutine that yielded from under a library call went on
running apart from the one that resumed it and is left `broken`: resuming
it again is a fault of the host. -/
structure Thread where
  body : Value
  status : ThreadStatus := .suspended
  saved : Option (Frame × Array Frame) := none
  env : Option Nat := none
  broken : Bool := false
deriving Inhabited

/-- What a host object holds. -/
inductive Payload where
  /-- The matches `string.gmatch` found, and the next one to give. -/
  | matches (found : Array (Array Value)) (next : Nat)
  | proxy
deriving Inhabited

/-- A host object. -/
structure Userdata where
  payload : Payload
  metatable : Option Nat := none
  env : Option Nat := none
deriving Inhabited

/-- The files a program may load modules from: the directory modules are
looked up in (none when empty), and the files and directories that exist,
by full path. -/
structure Files where
  moduleDir : String := ""
  files : List (String × Bytes) := []
  dirs : List String := []
deriving Inhabited

/-- The state of a running Lua program, with host functions `H` and host
state `σ`. -/
structure World (H σ : Type) where
  tables : Array Table := #[]
  funcs : Array (Func H) := #[]
  cells : Array Value := #[Value.nil]
  threads : Array Thread := #[]
  userdata : Array Userdata := #[]
  globals : Nat := 0
  stringMeta : Option Nat := none
  /-- The functions `pairs`, `ipairs` and `string.gmatch` hand out. -/
  nextFn : Value := .nil
  ipairsFn : Value := .nil
  gmatchFn : Value := .nil
  cur : Frame := {}
  callers : Array Frame := #[]
  /-- The running coroutine, `none` for the main one. -/
  thread : Option Nat := none
  /-- The coroutine whose code is running after it yielded from under a
  library call: it no longer has a coroutine to yield to. -/
  detached : Option Nat := none
  /-- The values such a yield gave the call that resumed the coroutine. -/
  detachedResult : Option (Array Value) := none
  /-- The coroutine that resumed the running one, `none` for the main one. -/
  resumer : Option Nat := none
  /-- The table chunks loaded in the main coroutine take their globals
  from, none for the global table. -/
  mainEnv : Option Nat := none
  /-- Steps left before the deadline, `none` without one. -/
  budget : Option Nat := none
  expired : Bool := false
  printed : Array Bytes := #[]
  files : Files := {}
  host : σ

/-- Why a computation stopped early: an error with the value raised and the
traceback at that point, a coroutine yielding values, or a coroutine that
yielded from under a library call leaving the Lua code that a library
function called. -/
inductive Signal where
  | error (v : Value) (trace : String)
  | yield (vals : Array Value)
  | unwind
deriving Inhabited

abbrev VM (H σ : Type) := EStateM Signal (World H σ)

variable {H σ : Type}

/-! ## The heap -/

def allocTable (t : Table := {}) : VM H σ Nat :=
  modifyGet fun w => (w.tables.size, { w with tables := w.tables.push t })

def tableAt (r : Nat) : VM H σ Table := do pure ((← get).tables.getD r {})

def modifyTable (r : Nat) (f : Table → Table) : VM H σ Unit :=
  modify fun w => { w with tables := w.tables.modify r f }

def allocFunc (f : Func H) : VM H σ Nat :=
  modifyGet fun w => (w.funcs.size, { w with funcs := w.funcs.push f })

def funcAt (r : Nat) : VM H σ (Func H) := do pure ((← get).funcs.getD r (.builtin (.base .print)))

def allocCell (v : Value) : VM H σ Nat :=
  modifyGet fun w => (w.cells.size, { w with cells := w.cells.push v })

def allocUserdata (u : Userdata) : VM H σ Nat :=
  modifyGet fun w => (w.userdata.size, { w with userdata := w.userdata.push u })

def strValue (s : String) : Value := .str (Bytes.ofString s)

def globalField (name : String) : VM H σ Value := do
  let w ← get
  pure ((w.tables.getD w.globals {}).getStr name)

def metatableOf (v : Value) : VM H σ (Option Nat) := do
  let w ← get
  match v with
  | .table r => pure (w.tables.getD r {}).metatable
  | .str _ => pure w.stringMeta
  | .userdata r => pure (w.userdata.getD r default).metatable
  | _ => pure none

def metaField (v : Value) (event : String) : VM H σ Value := do
  match ← metatableOf v with
  | some m => pure ((← tableAt m).getStr event)
  | none => pure .nil

def metaField2 (a b : Value) (event : String) : VM H σ Value := do
  match ← metaField a event with
  | .nil => metaField b event
  | v => pure v

/-- The coroutine whose stack the running code is on, `none` for the main
one. -/
def World.stackOwner (w : World H σ) : Option Nat :=
  match w.detached with
  | some t => some t
  | none => w.thread

def frameEnv : VM H σ Nat := do
  let w ← get
  match w.funcs[w.cur.func]? with
  | some (.lua _ _ e) => pure (if w.cur.native then w.globals else e)
  | _ => pure w.globals

/-- The table chunks loaded in the running coroutine take their globals
from. -/
def threadEnv : VM H σ Nat := do
  let w ← get
  let e := match w.stackOwner with
    | some t => (w.threads.getD t default).env
    | none => w.mainEnv
  pure (e.getD w.globals)

/-! ## Text of values -/

def hexDigits (n : Nat) : String := String.ofList (Nat.toDigits 16 n)

def addressOf (kind : Nat) (r : Nat) : String :=
  "0x" ++ hexDigits (0xc000100000 + kind * 0x1000000 + r * 0x40)

def Value.text : Value → Bytes
  | .nil => Bytes.ofString "nil"
  | .bool b => Bytes.ofString (if b then "true" else "false")
  | .num x => Bytes.ofString (numberText x)
  | .str s => s
  | .table r => Bytes.ofString ("table: " ++ addressOf 0 r)
  | .func r => Bytes.ofString ("function: " ++ addressOf 1 r)
  | .thread r => Bytes.ofString ("thread: " ++ addressOf 2 r)
  | .userdata r => Bytes.ofString ("userdata: " ++ addressOf 3 r)

def Value.isStringLike : Value → Bool
  | .str _ | .num _ => true
  | _ => false

/-! ## Frames, positions and tracebacks -/

def registryLimit : Nat := 5120

/-- Where a frame's values end in the value stack: past its slots and
operand stack for Lua code, past its arguments for a library function. -/
def Frame.top (f : Frame) : Nat :=
  if f.native then f.regBase + f.argc else f.regBase + f.proto.registers

def World.frames (w : World H σ) : Array Frame := w.callers.push w.cur

def Frame.line (f : Frame) : Nat := f.proto.lines.getD (f.pc - 1) 0

def Frame.position (f : Frame) : String :=
  if f.native then "[G]:" else s!"{f.proto.source.toText}:{f.line}:"

def Frame.definedAt (f : Frame) : String := s!"<{f.proto.source.toText}:{f.proto.lineDefined}>"

/-- The call information of the instruction a Lua frame is executing:
`some name` for a call written in the source. -/
def Frame.callName (f : Frame) : Option String :=
  if f.native then none
  else match f.proto.code[f.pc - 1]? with
    | some (.call _ _ _ n) => n
    | some (.tailCall _ _ n) => n
    | _ => none

/-- The frame a level up the stack counts, as the traceback counts them:
each frame is one level and each tail call into it one more; past the
bottom by a tail call it is the bottom frame. -/
def stackAt (frames : Array Frame) (level : Nat) : Option Nat :=
  let rec go (i : Nat) (level : Int) (fuel : Nat) : Option Nat :=
    match fuel with
    | 0 => none
    | fuel + 1 =>
      if level > 0 then
        match frames[i]? with
        | some f =>
          let level := level - 1 - (if f.native then 0 else (f.tailcalls : Int))
          if i = 0 then (if level < 0 && frames.size > 0 then some 0 else none)
          else go (i - 1) level fuel
        | none => none
      else if level = 0 then (if i < frames.size then some i else none)
      else if frames.size > 0 then some 0 else none
  if frames.size = 0 then none else go (frames.size - 1) level (frames.size + 1)

/-- The name of the function of the frame at an index, and whether it is a
chunk rather than a function. -/
def frameName (frames : Array Frame) (i : Nat) (inThread : Bool) : String × Bool :=
  let fr := frames.getD i {}
  if i = 0 then (if inThread then "corountine" else "main chunk", true)
  else
    let parent := frames.getD (i - 1) {}
    let fallback := if fr.native then "(anonymous)" else fr.definedAt
    match parent.callName with
    | some n => if (n == "?" || fr.tailcalls > 0) && !fr.native then (fr.definedAt, false) else (n, false)
    | none => (fallback, false)

def shownName (frames : Array Frame) (i : Nat) (inThread : Bool) : String :=
  match frameName frames i inThread with
  | (n, true) => n
  | (n, false) =>
    if n.startsWith "(" || n.startsWith "<" then "function " ++ n else s!"function '{n}'"

def whereAt (frames : Array Frame) (level : Nat) : String :=
  let rec go (level : Nat) (fuel : Nat) : String :=
    match fuel with
    | 0 => ""
    | fuel + 1 =>
      match stackAt frames level with
      | none => ""
      | some i =>
        let f := frames.getD i {}
        if f.native then go (level + 1) fuel else f.position
  go level (frames.size + 1)

/-- The traceback of a stack, from the running frame down, without its
first `skip` lines; more than twenty lines keep the first seven and the
last seven. -/
def traceback (frames : Array Frame) (inThread : Bool) (skip : Nat := 0) : String :=
  let rec go (level : Nat) (acc : Array String) (fuel : Nat) : Array String :=
    match fuel with
    | 0 => acc
    | fuel + 1 =>
      match stackAt frames level with
      | none => acc
      | some i =>
        let f := frames.getD i {}
        let acc := acc.push s!"\t{f.position} in {shownName frames i inThread}"
        let tail := if f.native then 0 else f.tailcalls
        let acc := acc ++ Array.replicate tail "\t(tailcall): ?"
        go (level + tail + 1) acc fuel
  let lines := (go 0 #[] (2 * frames.size + 2)).push "\t[G]: ?"
  let lines := lines.extract (min skip lines.size) lines.size
  let lines :=
    if lines.size > 20 then (lines.extract 0 7).push "\t..." ++ lines.extract (lines.size - 7) lines.size
    else lines
  "stack traceback:\n" ++ "\n".intercalate lines.toList

def currentTraceback : VM H σ String := do
  let w ← get
  pure (traceback w.frames w.thread.isSome)

def throwValue (v : Value) : VM H σ α := do
  throw (.error v (← currentTraceback))

/-- Raises an error message with the position `level` frames up (level 1
is the innermost Lua code); level 0 gives no position. -/
def raiseAt (level : Nat) (msg : Bytes) : VM H σ α := do
  let w ← get
  let msg := if level > 0 then Bytes.ofString (whereAt w.frames (level - 1) ++ " ") ++ msg else msg
  throwValue (.str msg)

def raise (msg : String) : VM H σ α := raiseAt 1 (Bytes.ofString msg)

/-- Stops on a fault of the host rather than of the Lua code: the message
alone, with no position. -/
def crash (msg : String) : VM H σ α := throwValue (.str (Bytes.ofString msg))

/-! ## Arguments of library functions -/

def runningName : VM H σ String := do
  let w ← get
  let frames := w.frames
  pure (frameName frames (frames.size - 1) w.thread.isSome).1

def argError (n : Nat) (msg : String) : VM H σ α := do
  let name ← runningName
  raise s!"bad argument #{n} to {name} ({msg})"

def typeError (args : Array Value) (n : Nat) (expected : String) : VM H σ α :=
  let got := (args.getD (n - 1) .nil).typeName
  argError n s!"{expected} expected, got {got}"

def arg (args : Array Value) (n : Nat) : Value := args.getD (n - 1) .nil

def checkAny (args : Array Value) (n : Nat) : VM H σ Value :=
  if n > args.size then argError n "value expected" else pure (arg args n)

def checkString (args : Array Value) (n : Nat) : VM H σ Bytes :=
  match arg args n with
  | .str s => pure s
  | .num x => pure (Bytes.ofString (numberText x))
  | _ => typeError args n "string"

def optString (args : Array Value) (n : Nat) (d : Bytes) : VM H σ Bytes :=
  match arg args n with
  | .nil => pure d
  | .str s => pure s
  | _ => typeError args n "string"

def checkNumber (args : Array Value) (n : Nat) : VM H σ Float :=
  match arg args n with
  | .num x => pure x
  | .str s => match parseNumber s with
    | some x => pure x
    | none => typeError args n "number"
  | _ => typeError args n "number"

def optNumber (args : Array Value) (n : Nat) (d : Float) : VM H σ Float :=
  match arg args n with
  | .nil => pure d
  | .num x => pure x
  | _ => typeError args n "number"

/-- An integer argument: a number, truncated to 64 bits; a string is
refused even when it reads as a number. -/
def checkInt (args : Array Value) (n : Nat) : VM H σ Int :=
  match arg args n with
  | .num x => pure (Number.toInt64 x)
  | _ => typeError args n "number"

def optInt (args : Array Value) (n : Nat) (d : Int) : VM H σ Int :=
  match arg args n with
  | .nil => pure d
  | .num x => pure (Number.toInt64 x)
  | _ => typeError args n "number"

def checkTable (args : Array Value) (n : Nat) : VM H σ Nat :=
  match arg args n with
  | .table r => pure r
  | _ => typeError args n "table"

def checkFunction (args : Array Value) (n : Nat) : VM H σ Nat :=
  match arg args n with
  | .func r => pure r
  | _ => typeError args n "function"

def checkThread (args : Array Value) (n : Nat) : VM H σ Nat :=
  match arg args n with
  | .thread r => pure r
  | _ => typeError args n "thread"

/-! ## Frames and environments seen by the library -/

def World.callerFrame (w : World H σ) (k : Nat) : Option Frame :=
  let frames := w.frames
  if k < frames.size then frames[frames.size - 1 - k]? else none

/-- The table the globals of a frame's function live in; library functions
use the global table. -/
def World.envOfFrame (w : World H σ) (fr : Frame) : Nat :=
  if fr.native then w.globals
  else match w.funcs[fr.func]? with
    | some (.lua _ _ e) => e
    | _ => w.globals

/-- Gives a compiled function another table for its globals; answers
whether the function was compiled code, the only kind that has one. -/
def setFuncEnv (r e : Nat) : VM H σ Bool := do
  match (← get).funcs[r]? with
  | some (.lua p c _) =>
    modify fun w => { w with funcs := w.funcs.set! r (.lua p c e) }
    pure true
  | _ => pure false

/-- Sets the table chunks loaded in the running coroutine take their
globals from. -/
def setThreadEnv (e : Nat) : VM H σ Unit :=
  modify fun w => match w.stackOwner with
    | some t => { w with threads := w.threads.modify t fun th => { th with env := some e } }
    | none => { w with mainEnv := some e }

/-- The index of the frame at a level as the debug library counts levels,
tail calls included; a negative level is the bottom frame. -/
def levelFrame (frames : Array Frame) (level : Int) : Option Nat :=
  if level < 0 then (if frames.size > 0 then some 0 else none)
  else stackAt frames level.toNat

/-- The local a frame's function has in scope under a number counted from
1 in order of declaration, with the cell it lives in. -/
def Frame.localAt (fr : Frame) (idx : Int) : Option (String × Nat) :=
  if fr.native || idx < 1 then none
  else
    let pc := fr.pc - 1
    let active := (fr.proto.locals.toList.takeWhile (·.start < pc)).filter (pc < ·.stop)
    (active[(idx - 1).toNat]?).map fun v => (v.name, fr.slots.getD v.slot 0)

/-! ## Raw table access -/

def rawGet (r : Nat) (k : Value) : VM H σ Value := do pure ((← tableAt r).get k)

/-- Writes a table entry without metamethods; nil and NaN keys are
refused. -/
def rawSet (r : Nat) (k v : Value) : VM H σ Unit := do
  match k with
  | .nil => raise "table index is nil"
  | .num x => if x.isNaN then raise "table index is NaN" else modifyTable r (·.set k v)
  | _ => modifyTable r (·.set k v)

end MudClient.Lua
