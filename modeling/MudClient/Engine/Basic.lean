/-
# The engine and its state

The engine runs a MUD client's modules around one dispatch loop.  Work
reaches the loop as tasks, run one after the other in the order they were
queued: publishing an event, closing a session, handling a submitted line,
reloading modules, switching the configuration, or a call made on the loop.
Handlers never run work of their own in the middle of a dispatch; they
queue it behind the tasks already waiting.

The modules are the engine's own commands, the input history, modules
added when the engine is made, and Lua scripts found in the search paths.
Everything a module registers (subscriptions, commands, hooks) names what
runs as data: the engine's handlers by name, and a script's functions by
module, by the load they belong to and by their place in that load's Lua
state.  A function of an earlier load belongs to a state that is closed.

`Core` is everything but the Lua states.  The functions scripts call see
the core while their script runs; the engine keeps the states beside it.
-/
import MudClient.Plugin.Manager
import MudClient.Plugin.Loader
import MudClient.Event.Registrar
import MudClient.Command.Registry
import MudClient.History.Navigator
import MudClient.Config.Basic
import MudClient.Watch.Watcher
import MudClient.Lua.Sandbox
import MudClient.Key.Code

namespace MudClient.Engine

open MudClient.Session

/-- The code of a module: the engine's commands, the input history, a
module that greets each session it sets up, or a script. -/
inductive Code where
  | builtin
  | history
  | greeter (id : String)
  | script (id : String)
deriving DecidableEq, Repr

/-- A function of a script: the module, the load it belongs to, and its
place in that load's Lua state. -/
structure LuaFn where
  module : String
  load : Nat
  fn : Nat
deriving DecidableEq, Repr, Inhabited

/-- A hook run when a session is set up. -/
inductive SetupHook where
  /-- Registers the engine's commands in the session. -/
  | builtinCommands (env : Plugin.Env)
  /-- Starts the session's history and registers its command. -/
  | history (env : Plugin.Env)
  /-- Greets the session on behalf of a module. -/
  | greet (id : String)
  | lua (f : LuaFn)

/-- A hook run before a module is loaded again. -/
inductive ReloadHook where
  | lua (f : LuaFn)

/-- What a subscription runs. -/
inductive Reaction where
  /-- Sets up a new or resumed session. -/
  | setup
  /-- Runs the command a submitted line names. -/
  | dispatch
  /-- Forgets the commands of a closed session. -/
  | dropCommands
  /-- Takes note of a finished reload. -/
  | reloaded
  | historyInput
  | historyKey
  | historyShortcut
  | historyClosed
  | lua (f : LuaFn)

/-- What a command runs. -/
inductive Action where
  | reload
  | modules
  | help
  | history
  | lua (f : LuaFn)

/-- A unit of work for the loop. -/
inductive Task where
  | publish (ev : Event.Message)
  /-- Announces that a session closes, then closes it. -/
  | closeSession (id : SessionId) (info : Info)
  | submit (id : SessionId) (line : InputLine)
  /-- Reloads one module, or every module after a rescan when the id is empty. -/
  | reload (module : String)
  | applyConfig (c : Config.Settings)
  /-- Scrolls a session's history, as a call waiting for its answer. -/
  | navigate (id : SessionId) (dir : History.Direction)
  /-- A call whose function fails with a panic. -/
  | crash (message : String)
  /-- A call that only waits for its turn. -/
  | probe
  /-- Waits for the loop to run everything queued before and after it. -/
  | drain
deriving Inhabited

/-- A script module: its manifest, and the deadline of each run when the
manifest names none. -/
structure ScriptModule where
  manifest : Plugin.Manifest
  timeout : Time.Duration

/-- The history of a session with the keys that scroll it. -/
structure Tracked where
  history : History.Buffer
  prev : Key.Code
  next : Key.Code

/-- How many times each change of a module's life was announced. -/
structure Transitions where
  loaded : Nat := 0
  unloaded : Nat := 0
  reloaded : Nat := 0
  failed : Nat := 0
deriving DecidableEq, Repr

def Transitions.note (t : Transitions) : Plugin.Change → Transitions
  | .loaded => { t with loaded := t.loaded + 1 }
  | .unloaded => { t with unloaded := t.unloaded + 1 }
  | .reloaded => { t with reloaded := t.reloaded + 1 }
  | .failed => { t with failed := t.failed + 1 }

/-- The engine's state apart from the Lua states of its scripts. -/
structure Core where
  config : Config.Settings := Config.default
  /-- The text that starts a command line; fixed when the engine is made. -/
  leader : String := Command.defaultPrefix
  /-- The directories searched for scripts; fixed when the engine is made. -/
  paths : List String := []
  /-- The directory every file lies under. -/
  root : String := ""
  disk : Disk := {}
  host : Host := {}
  bus : Event.Bus (Event.Guarded Reaction) := {}
  /-- The events published, in the order they were: the record of what the
  subscriptions were told, which nothing in the engine reads back. -/
  published : List Event.Message := []
  commands : Command.Registry Action := {}
  manager : Plugin.Manager Code SetupHook ReloadHook := {}
  histories : List (SessionId × Tracked) := []
  capacity : Int := History.defaultCapacity
  skipScripted : Bool := true
  /-- The script modules registered, by id. -/
  scripts : List (String × ScriptModule) := []
  /-- Modules found on disk that could not be registered, with why. -/
  broken : List (String × Failure) := []
  queue : List Task := []
  /-- Whether the queue takes no more work. -/
  stopped : Bool := false
  tasks : Nat := 0
  /-- How many waits for an empty queue ended. -/
  drains : Nat := 0
  reloads : Nat := 0
  transitions : Transitions := {}
  watcher : Option Watch.Watcher := none
  /-- How many Lua states were made. -/
  loads : Nat := 0
  /-- The answer of the last call made on the loop: whether something
  changed, and the failure. -/
  answer : Option (Bool × Option Failure) := none

/-- What the functions of a script see: the core, the module and the
environment of its load, the load's number, and the subscriptions the
load made, by their identifiers. -/
structure Binding where
  core : Core := {}
  module : String := ""
  env : Plugin.Env := default
  load : Nat := 0
  handles : List (String × Event.Handle) := []

/-- The functions of the `mud` table scripts call. -/
inductive ApiFn where
  | subscribe | onConnected | onDisconnected | onSession | onMud | onGmcp | onCustom | off | emit
  | send | output | sessionInfo | sessions | input
  | onSetup | beforeReload | moduleId | log
  | command
  /-- The loader `require` finds for the `mud` table: it gives the table. -/
  | mudTable (table : Nat)
deriving DecidableEq, Repr

abbrev LuaState := Lua.Script ApiFn Binding

/-- The Lua state of a module's current load, with the load's number. -/
structure Slot where
  load : Nat
  state : LuaState

/-- The engine: the core and the Lua state of each script. -/
structure Runtime where
  core : Core := {}
  slots : List (String × Slot) := []

abbrev Run := StateM Runtime

/-! ## Failures of the engine -/

def notRunning : Failure := { message := "runtime not running", conditions := [.runtimeNotRunning] }

def alreadyRunning : Failure := { message := "runtime already running", conditions := [.runtimeAlreadyRunning] }

def unknownSession (id : SessionId) : Failure :=
  { message := "unknown session: " ++ toString id, conditions := [.runtimeUnknownSession] }

def startFailure (component : String) (f : Failure) : Failure :=
  { f with message := "init " ++ component ++ ": " ++ f.message, kinds := .startup :: f.kinds }

def componentFailure (component action : String) (f : Failure) : Failure :=
  { f with message := component ++ ": " ++ action ++ ": " ++ f.message, kinds := .component :: f.kinds }

/-! ## Work on the core -/

namespace Core

def enqueue (c : Core) (t : Task) : Core :=
  if c.stopped then c else { c with queue := c.queue ++ [t] }

def emit (c : Core) (ev : Event.Message) : Core := c.enqueue (.publish ev)

def info? (c : Core) (id : SessionId) : Option Info := c.host.info? id

def sessionInfo (c : Core) (id : SessionId) : Except Failure Info :=
  match c.info? id with
  | some i => .ok i
  | none => .error (unknownSession id)

def addOutput (c : Core) (id : SessionId) (o : Output) : Except Failure Core := do
  pure { c with host := ← c.host.addOutput id o }

/-- Sends a line on behalf of a script, and queues its announcement as a
scripted line. -/
def sendLine (c : Core) (id : SessionId) (text : String) : Except Failure Core := do
  let host ← c.host.send id text
  let c := { c with host }
  pure (c.emit { kind := Event.Kind.inputLineSent, session := some id,
                 payload := some (.input { sent := text, scripted := true }) })

def script? (c : Core) (id : String) : Option ScriptModule := c.scripts.lookup id

/-- The module whose files a path belongs to, among the registered scripts
in registration order. -/
def moduleFor (c : Core) (path : String) : Option String :=
  (c.scripts.find? fun (_, s) => s.manifest.owns path).map (·.1)

def withManager (c : Core) (f : Plugin.Manager Code SetupHook ReloadHook → Plugin.Manager Code SetupHook ReloadHook) :
    Core :=
  { c with manager := f c.manager }

end Core

def core : Run Core := do pure (← get).core

def modifyCore (f : Core → Core) : Run Unit := modify fun e => { e with core := f e.core }

end MudClient.Engine
