/-
# Scripted modules

A scripted module is a module whose code is given as data: a plan for each
load attempt (the last plan serves every later attempt) and how closing it
ends.  A plan subscribes labelled handlers that note their calls and end
as told, adds setup hooks (which may register a command for the session
they set up) and before-reload hooks, registers commands, and then ends
as told.  Everything scripted modules do is noted in a journal, so that a
whole conversation with the manager can be described and observed as data.

The stage holds the manager with its bus, command registry and host, the
journal, the announcements a listener heard while it listened, and the
environment of every load attempt, so that a hook can be added through an
environment that is no longer current.
-/
import MudClient.Plugin.Manager
import MudClient.Event.Bus
import MudClient.Command.Registry

namespace MudClient.Plugin

open MudClient.Session
open MudClient.Command

/-- A handler a plan subscribes: its label, kind and filter, and how it ends. -/
structure HandlerPlan where
  label : String
  kind : Event.Kind
  filter : Event.Filter := []
  outcome : Event.Outcome := .ok

/-- A setup hook a plan adds: how it ends, and a command it registers for
the session, as name and aliases. -/
structure SetupPlan where
  outcome : Event.Outcome := .ok
  command : Option (String × List String) := none

/-- A command a plan registers: the session, name and aliases. -/
structure CommandPlan where
  session : SessionId := 1
  name : String
  aliases : List String := []

/-- What one load of a scripted module does. -/
structure LoadPlan where
  subscribe : List HandlerPlan := []
  setup : List SetupPlan := []
  beforeReload : List Event.Outcome := []
  commands : List CommandPlan := []
  outcome : Event.Outcome := .ok

/-- A module given as data: a plan per load attempt and how closing ends. -/
structure ScriptedModule where
  id : String
  loads : List LoadPlan := []
  close : Event.Outcome := .ok

def ScriptedModule.plan (s : ScriptedModule) (attempt : Nat) : LoadPlan :=
  s.loads.getD (min attempt (s.loads.length - 1)) {}

/-- A setup hook of a scripted module. -/
inductive SetupHook where
  /-- The hook at an index of a plan, added through an environment. -/
  | planned (env : Env) (index : Nat) (plan : SetupPlan)
  /-- A hook added afterwards through the environment of a load attempt. -/
  | late (module : String) (attempt : Nat)

/-- A before-reload hook of a scripted module. -/
inductive ReloadHook where
  | planned (module : String) (index : Nat) (outcome : Event.Outcome)
  | late (module : String) (attempt : Nat)

/-- An entry of the journal. -/
inductive Entry where
  | load (module : String) (attempt : Nat) (env : Env)
  | call (label : String) (kind : Event.Kind) (module : Option String)
  | setup (module : String) (hook : Nat) (session : SessionId) (mud : String)
  | beforeReload (module : String) (hook : Nat)
  | close (module : String)
  | subscribeError (f : Failure)
  | commandError (f : Failure)
  | lateSetup (module : String) (attempt : Nat)
  | lateBeforeReload (module : String) (attempt : Nat)

/-- A handler of a scripted module on the bus: its label and how it ends. -/
structure Noted where
  label : String
  outcome : Event.Outcome

/-- A manager of scripted modules, with its bus, commands and host, and
what was observed of it. -/
structure Stage where
  manager : Manager ScriptedModule SetupHook ReloadHook := {}
  bus : Event.Bus Noted := {}
  /-- The command registry; none when the manager has none. -/
  commands : Option (Registry Unit) := some {}
  host : Host := {}
  /-- Whether the manager resumes the host's sessions after a reload. -/
  resumes : Bool := true
  journal : List Entry := []
  heard : List Announcement := []
  listening : Bool := true
  /-- The environments of the load attempts, by module, in order. -/
  attempts : List (String × List Env) := []

abbrev Staged := StateM Stage

namespace Stage

def note (e : Entry) : Staged Unit := modify fun s => { s with journal := s.journal ++ [e] }

def envs (s : Stage) (module : String) : List Env := (s.attempts.lookup module).getD []

def newAttempt (module : String) (env : Env) : Staged Nat := do
  let s ← get
  let before := s.envs module
  set { s with attempts := (module, before ++ [env]) :: s.attempts.filter (·.1 != module) }
  pure before.length

def failureOf : Event.Outcome → Option Failure
  | .ok => none
  | .failed m => some (.plain m)
  | .panicked v => some { message := "handler panic: " ++ v, conditions := [.eventHandlerPanic], kinds := [.panic] }

def registerCommand (env : Env) (session : SessionId) (name : String) (aliases : List String) :
    Staged (Option Failure) := do
  let s ← get
  match s.commands with
  | none => pure (some noCommands)
  | some reg =>
    match reg.register session ⟨name, aliases, "", env.module, some ()⟩ with
    | .ok reg => set { s with commands := some reg }; pure none
    | .error e => pure (some e.toFailure)

def runHandler (ev : Event.Message) (h : Noted) : Staged Event.Outcome := do
  let module := match ev.payload with
    | some (.session _ m) => some m
    | _ => none
  note (.call h.label ev.kind module)
  pure h.outcome

def publish (ev : Event.Message) (cancelled : Bool) : Staged (List Event.PublishFault) :=
  Event.Bus.publish (do pure (← get).bus) (fun b => modify fun s => { s with bus := b })
    (fun sub _ => runHandler ev sub.handler) ev (pure cancelled)

def runLoad (mod : ScriptedModule) (env : Env) : Staged (Option Failure) := do
  let attempt ← newAttempt mod.id env
  note (.load mod.id attempt env)
  let plan := mod.plan attempt
  let indexed {α : Type} (xs : List α) : List (Nat × α) := (List.range xs.length).zip xs
  for (i, h) in indexed plan.subscribe do
    let s ← get
    let label := if h.label.isEmpty then mod.id ++ "." ++ toString i else h.label
    match s.bus.subscribe h.kind env.module h.filter (some ⟨label, h.outcome⟩) with
    | .ok (_, bus) => set { s with bus }
    | .error f => note (.subscribeError f)
  for (i, p) in indexed plan.setup do
    modify fun s => { s with manager := s.manager.addSetup env (.planned env i p) }
  for (i, o) in indexed plan.beforeReload do
    modify fun s => { s with manager := s.manager.addBeforeReload env (.planned mod.id i o) }
  for c in plan.commands do
    if let some f ← registerCommand env c.session c.name c.aliases then note (.commandError f)
  pure (failureOf plan.outcome)

def runSetup (hook : SetupHook) (info : Info) : Staged (Option Failure) := do
  match hook with
  | .planned env i p =>
    note (.setup env.module i info.id info.mud)
    if let some (name, aliases) := p.command then
      if let some f ← registerCommand env info.id name aliases then note (.commandError f)
    pure (failureOf p.outcome)
  | .late module n =>
    note (.lateSetup module n)
    pure none

def runBeforeReload : ReloadHook → Staged (Option Failure)
  | .planned module i o => do note (.beforeReload module i); pure (failureOf o)
  | .late module n => do note (.lateBeforeReload module n); pure none

def retract (owner : String) : Staged Nat := do
  let s ← get
  let (n, bus) := s.bus.retract owner
  let (k, commands) := match s.commands with
    | some reg => let (k, reg) := reg.retract owner; (k, some reg)
    | none => (0, none)
  set { s with bus, commands }
  pure (n + k)

def runner : Runner Staged ScriptedModule SetupHook ReloadHook where
  get := do pure (← get).manager
  set mg := modify fun s => { s with manager := mg }
  load := runLoad
  close mod := note (.close mod.id)
  retract := retract
  setup := runSetup
  beforeReload := runBeforeReload
  announce a := modify fun s => if s.listening then { s with heard := s.heard ++ [a] } else s
  publish ev := do let _ ← publish ev false
  sessions := do
    let s ← get
    pure (if s.resumes then s.host.windows.map (·.info) else [])

/-- Adds hooks through the environment of an earlier load attempt, and
registers the command `stale<n>`; none when that attempt never happened. -/
def addLate (module : String) (attempt : Nat) : Staged (Option (Option Failure)) := do
  match ((← get).envs module)[attempt]? with
  | none => pure none
  | some env =>
    modify fun (s : Stage) =>
      let mg := (s.manager.addSetup env (.late module attempt)).addBeforeReload env (.late module attempt)
      { s with manager := mg }
    pure (some (← registerCommand env 1 ("stale" ++ toString attempt) []))

end Stage

end MudClient.Plugin
