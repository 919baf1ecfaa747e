/-
# Sandboxed scripts

A script runs in a world that holds the base libraries only: no way to load
code from text or files except `require`, which finds modules already
loaded, preloaded ones, the libraries, the granted libraries and files
below the module directory, in that order.  Capabilities open more:

* `os` opens the clock, date and environment parts of the `os` library;
* `io` opens the `io` library;
* `unsafe` opens `io`, `os` and `debug` whole.

Each run of code (a chunk, a file, or a call) has a deadline:
a budget of steps proportional to the timeout.  An error of a run that
used up its budget is a timeout, whatever the error was.  A closed script
runs nothing and reads every global as nil.
-/
import MudClient.Lua.Machine
import MudClient.Lua.Environment
import MudClient.Lua.Bridge
import MudClient.Failure

namespace MudClient.Lua

variable {H σ : Type}

/-- A permission a script may be granted. -/
inductive Capability where
  | os | io | unrestricted
deriving DecidableEq, Repr

def Capability.name : Capability → String
  | .os => "os" | .io => "io" | .unrestricted => "unsafe"

def Capability.ofName? : String → Option Capability
  | "os" => some .os
  | "io" => some .io
  | "unsafe" => some .unrestricted
  | _ => none

/-- A capability that does not exist, or was not granted. -/
structure CapabilityError where
  capability : String
  unknown : Bool

def CapabilityError.toFailure (e : CapabilityError) : Failure :=
  { message := (if e.unknown then "unknown capability: " else "capability not granted: ") ++ e.capability,
    kinds := [.capability] }

def osDenied : List String := ["execute", "exit", "remove", "rename", "setenv", "tmpname", "setlocale"]

def stepsPerMillisecond : Nat := 10000

def unboundedFuel : Nat := Nat.pow 2 62

/-- How a script is set up. -/
structure ScriptOptions where
  /-- The deadline of each run in milliseconds; zero for none. -/
  timeout : Nat := 5000
  /-- The files `require` may load, below their module directory. -/
  files : Files := {}
  capabilities : List String := []

/-- A sandboxed script: its world, the capabilities granted in the order of
granting, whether it is closed, and the deadline of each run. -/
structure Script (H σ : Type) where
  world : World H σ
  granted : List Capability := []
  closed : Bool := false
  timeout : Nat

namespace Script

def update (s : Script H σ) (m : VM H σ α) : Script H σ :=
  match m.run s.world with
  | .ok _ w => { s with world := w }
  | .error _ w => { s with world := w }

/-- Grants a capability, opening its libraries; granting one twice does
nothing more. -/
def grant (name : String) (s : Script H σ) : Except Failure (Script H σ) :=
  match Capability.ofName? name with
  | none => .error { capability := name, unknown := true : CapabilityError }.toFailure
  | some c =>
    if s.granted.contains c then .ok s
    else
      let s := { s with granted := s.granted ++ [c] }
      .ok <| s.update <| match c with
        | .os => do
          let r ← openLibrary .os
          for n in osDenied do
            modifyTable r (·.setStr n .nil)
        | .io => discard (openLibrary .io)
        | .unrestricted => do
          discard (openLibrary .io)
          discard (openLibrary .os)
          discard (openLibrary .debug)

def create (opts : ScriptOptions) (host : σ) : Except Failure (Script H σ) :=
  let s : Script H σ := { world := { host, files := opts.files }, timeout := opts.timeout }
  let s := s.update openBaseLibraries
  opts.capabilities.foldlM (fun s c => s.grant c) s

def capabilities (s : Script H σ) : List String :=
  (s.granted.map Capability.name).mergeSort (fun a b => decide (a ≤ b))

def check (name : String) (s : Script H σ) : Except Failure Unit :=
  match Capability.ofName? name with
  | some c => if s.granted.contains c then .ok () else .error { capability := name, unknown := false : CapabilityError }.toFailure
  | none => .error { capability := name, unknown := false : CapabilityError }.toFailure

def close (s : Script H σ) : Script H σ := { s with closed := true }

def closedFailure : Failure := { message := "lua state is closed", conditions := [.scriptClosed] }

def global (name : String) (s : Script H σ) : Value :=
  if s.closed then .nil
  else (s.world.tables.getD s.world.globals {}).getStr name

def setGlobal (name : String) (d : Data) (s : Script H σ) : Script H σ :=
  if s.closed then s
  else s.update do
    let v ← toValue d
    let g := (← get).globals
    modifyTable g (·.setStr name v)

def raisedFailure (w : World H σ) : Signal → Failure
  | .error v trace =>
    let text := (v.text.toText) ++ (if trace.isEmpty then "" else "\n" ++ trace)
    if w.expired then { message := "lua execution timeout: " ++ text, conditions := [.scriptTimeout] }
    else { message := text, kinds := [.script] }
  | .yield _ | .unwind =>
    if w.expired then { message := "lua execution timeout: attempt to yield from outside a coroutine", conditions := [.scriptTimeout] }
    else { message := "attempt to yield from outside a coroutine", kinds := [.script] }

def exec (s : Script H σ) (m : Nat → VM H σ α) : Except Failure α × Script H σ :=
  if s.closed then (.error closedFailure, s)
  else
    let budget := if s.timeout > 0 then some (s.timeout * stepsPerMillisecond) else none
    let fuel := match budget with | some b => b + 1024 | none => unboundedFuel
    let w := { s.world with budget, expired := false, cur := {}, callers := #[], thread := none,
                            detached := none, detachedResult := none, resumer := none }
    match (m fuel).run w with
    | .ok a w => (.ok a, { s with world := { w with budget := none, expired := false } })
    | .error e w =>
      (.error (raisedFailure w e), { s with world := { w with budget := none, expired := false,
                                                              cur := {}, callers := #[], thread := none } })

def doString (hostCall : HostCall H σ) (code : Bytes) (s : Script H σ) : Except Failure Unit × Script H σ :=
  if s.closed then (.error closedFailure, s)
  else
    match loadChunk code (Bytes.ofString "<string>") with
    | .error msg => (.error { message := msg.toText, kinds := [.script] }, s)
    | .ok proto =>
      s.exec fun n => do
        let fid ← allocFunc (.lua proto #[] (← threadEnv))
        discard (callTop hostCall n (.func fid) #[])

def call (hostCall : HostCall H σ) (name : String) (args : Array Value) (s : Script H σ) :
    Except Failure (Array Value) × Script H σ :=
  match (s.world.tables.getD s.world.globals {}).getStr name with
  | .func f => s.exec fun n => callTop hostCall n (.func f) args
  | _ =>
    (.error { message := "lua value is not a function: " ++ String.ofList ('"' :: quoteChars (Bytes.ofString name) false ++ ['"']),
              conditions := [.scriptNotFunction] }, s)

def doFile (hostCall : HostCall H σ) (path : String) (s : Script H σ) : Except Failure Unit × Script H σ :=
  if s.closed then (.error closedFailure, s)
  else
    let fs := s.world.files
    match fs.files.lookup path with
    | none =>
      let inside (p : String) : Bool := p.startsWith (path ++ "/")
      let isDir := fs.dirs.contains path || fs.dirs.any inside || fs.files.any (inside ·.1)
      let message := if isDir then "read " ++ path ++ ": is a directory"
        else "open " ++ path ++ ": no such file or directory"
      (.error { message, kinds := [.script] }, s)
    | some content =>
      match loadChunk (fileSource content) (Bytes.ofString path) with
      | .error msg => (.error { message := msg.toText, kinds := [.script] }, s)
      | .ok proto =>
        s.exec fun n => do
          let fid ← allocFunc (.lua proto #[] (← threadEnv))
          discard (callTop hostCall n (.func fid) #[])

/-- Calls a value with arguments made in the script's world, to its
results. -/
def invoke (hostCall : HostCall H σ) (f : Value) (args : VM H σ (Array Value)) (s : Script H σ) :
    Except Failure (Array Value) × Script H σ :=
  s.exec fun n => do callTop hostCall n f (← args)

def printed (s : Script H σ) : Array Bytes := s.world.printed

end Script

end MudClient.Lua
