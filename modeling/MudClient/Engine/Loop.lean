/-
# The dispatch loop

The loop runs queued tasks one at a time.  Publishing an event runs its
subscriptions in order: the engine's own (setting up sessions, running
commands, forgetting the commands and history of closed sessions) and
those of scripts, whose functions run on their module's Lua state with the
core in view.  The manager drives modules through a runner over the
engine: loading a module runs its code, closing a script closes its state,
and every announcement of a failed load is shown in every session.

Reloading one module first reads its manifest again: a module whose files
are gone, or that is now disabled, is unloaded instead.  Reloading with no
module named rescans the search paths, registers the modules found there
for the first time, and reloads every module.  A reload of a module the
manager does not know registers the new modules found and loads them.
Both kinds of reload announce on the bus which modules they reloaded and
which failed, except a full reload, whose announcement is the manager's.

Waiting for the loop (`flush`) queues a marker that goes back to the end
of the queue until nothing else is queued; a call waits until its own task
has run.  Both count every task they run, markers included.
-/
import MudClient.Engine.Api
import MudClient.Engine.Builtin

namespace MudClient.Engine

open MudClient.Session

/-! ## Lua states -/

def takeSlot (module : String) : Run (Option Slot) := do
  let e ← get
  match e.slots.lookup module with
  | none => pure none
  | some s =>
    set { e with slots := e.slots.filter (·.1 != module) }
    pure (some s)

def putSlot (module : String) (s : Slot) : Run Unit :=
  modify fun e => { e with slots := (module, s) :: e.slots.filter (·.1 != module) }

def dropSlot (module : String) : Run Unit :=
  modify fun e => { e with slots := e.slots.filter (·.1 != module) }

/-- Runs work on the Lua state of a module's load, with the core in view;
the state of any other load is closed. -/
def withState {α : Type} (module : String) (load : Nat) (work : LuaState → Except Failure α × LuaState) :
    Run (Except Failure α) := do
  match ← takeSlot module with
  | none => pure (.error Lua.Script.closedFailure)
  | some slot =>
    if slot.load != load then
      putSlot module slot
      pure (.error Lua.Script.closedFailure)
    else
      let e ← get
      set { e with core := {} }
      let st := slot.state
      let st := { st with world := { st.world with host := { st.world.host with core := e.core } } }
      let (r, st) := work st
      let c := st.world.host.core
      let st := { st with world := { st.world with host := { st.world.host with core := {} } } }
      modify fun e => { e with core := c }
      putSlot module { slot with state := st }
      pure r

def callLua (f : LuaFn) (args : Api (Array Lua.Value)) : Run (Except Failure (Array Lua.Value)) :=
  withState f.module f.load fun st => st.invoke api (.func f.fn) args

def millis (d : Time.Duration) : Nat :=
  if d ≤ 0 then 0 else ((d + 999999) / 1000000).toNat

/-- Loads a script: a fresh Lua state with the `mud` table, running the
main file of the module's manifest. -/
def loadScript (id : String) (env : Plugin.Env) : Run (Option Failure) := do
  let c ← core
  match c.script? id with
  | none => pure (some (Plugin.moduleNotFound id))
  | some sm =>
    let m := sm.manifest
    let timeout := if m.timeout != 0 then m.timeout else sm.timeout
    let load := c.loads + 1
    modifyCore fun c => { c with loads := load }
    let files : Lua.Files := { moduleDir := m.dir, files := c.disk.files, dirs := c.disk.dirs }
    let made : Except Failure LuaState :=
      Lua.Script.create { timeout := millis timeout, files, capabilities := m.capabilities }
        { module := id, env, load }
    match made with
    | .error f => pure (some (f.wrap "create lua state"))
    | .ok st =>
      putSlot id ⟨load, st.update installApi⟩
      match ← withState id load fun st => st.doFile api m.mainPath with
      | .ok _ => pure none
      | .error f => pure (some (f.wrap ("run " ++ m.main)))

/-! ## Modules -/

def settle (r : Except Failure Core) : Run (Option Failure) :=
  match r with
  | .ok c => do modifyCore fun _ => c; pure none
  | .error f => pure (some f)

def loadCode (code : Code) (env : Plugin.Env) : Run (Option Failure) := do
  match code with
  | .builtin =>
    modifyCore (·.withManager (·.addSetup env (.builtinCommands env)))
    pure none
  | .history =>
    modifyCore (·.withManager (·.addSetup env (.history env)))
    let subs : List (Event.Kind × Reaction) :=
      [(.inputLineSent, .historyInput), (.keyPressed, .historyKey), (.shortcutInvoked, .historyShortcut),
       (.sessionClosed, .historyClosed)]
    let mut out := none
    for (k, r) in subs do
      if out.isNone then
        let c ← core
        match c.bus.subscribe k env.module [] (some ⟨[], r⟩) with
        | .ok (_, bus) => modifyCore fun c => { c with bus }
        | .error f => out := some f
    pure out
  | .greeter id =>
    modifyCore (·.withManager (·.addSetup env (.greet id)))
    pure none
  | .script id => loadScript id env

def closeCode : Code → Run Unit
  | .script id => dropSlot id
  | _ => pure ()

/-- Takes back everything a module registered: subscriptions, then
commands; answers how many there were. -/
def retractOwner (owner : String) : Run Nat := do
  let c ← core
  let (n, bus) := c.bus.retract owner
  let (k, commands) := c.commands.retract owner
  modifyCore fun c => { c with bus, commands }
  pure (n + k)

def runSetup (hook : SetupHook) (info : Info) : Run (Option Failure) := do
  let c ← core
  match hook with
  | .builtinCommands env => settle (registerAll c info.id (builtinCommands env.module))
  | .history env => settle (setupHistory c env.module info)
  | .greet id => settle (c.addOutput info.id ⟨.text, "extra " ++ id ++ " setup"⟩)
  | .lua f =>
    match ← callLua f (do pure #[← infoTable info]) with
    | .ok _ => pure none
    | .error e => pure (some e)

def runReloadHook : ReloadHook → Run (Option Failure)
  | .lua f => do
    match ← callLua f (pure #[]) with
    | .ok _ => pure none
    | .error e => pure (some e)

/-- Takes note of an announcement: a failed load is shown in every session,
and every change is counted. -/
def announce (a : Plugin.Announcement) : Run Unit := do
  if a.change == .failed then
    let note := "Module " ++ a.module ++ " failed to load: " ++ ((a.error.map (·.message)).getD "")
    modifyCore fun c => c.host.ids.foldl (fun c id =>
      match c.addOutput id ⟨.debug, note⟩ with
      | .ok c => c
      | .error _ => c) c
  modifyCore fun c => { c with transitions := c.transitions.note a.change }

def runnerWith (publish : Event.Message → Run Unit) : Plugin.Runner Run Code SetupHook ReloadHook where
  get := do pure (← core).manager
  set mg := modifyCore fun c => { c with manager := mg }
  load := loadCode
  close := closeCode
  retract := retractOwner
  setup := runSetup
  beforeReload := runReloadHook
  announce := announce
  publish := publish
  sessions := do pure ((← core).host.windows.map (·.info))

/-! ## Commands -/

def reply (r : Except Failure Core) : Run (Option String) :=
  match r with
  | .ok c => do modifyCore fun _ => c; pure none
  | .error f => pure (some f.message)

def requestReload (module : String) : Run Unit := modifyCore (·.enqueue (.reload module))

/-- The command `reload`: queues a reload of the module named, or of every
module. -/
def reloadCommand (id : SessionId) (args : String) : Run (Option String) := do
  let name := Text.trimSpace args
  if name.isEmpty then
    requestReload ""
    return ← reply ((← core).addOutput id ⟨.command, "Reloading all modules"⟩)
  let m := Text.lower name
  if !Plugin.validId m || m == Plugin.coreModule then return some (Plugin.invalidId name).message
  let c ← core
  if (c.manager.module? m).isNone then
    if let .error f := Plugin.find c.disk c.paths m then return some f.message
  requestReload m
  reply ((← core).addOutput id ⟨.command, "Reloading " ++ m⟩)

def runAction (a : Action) (id : SessionId) (args : String) : Run (Option String) := do
  match a with
  | .reload => reloadCommand id args
  | .modules => let c ← core; reply (c.addOutput id ⟨.command, modulesReport c⟩)
  | .help => let c ← core; reply (c.addOutput id ⟨.command, helpReport c id args⟩)
  | .history => let c ← core; reply (c.addOutput id (historyReport (c.histories.lookup id) args))
  | .lua f =>
    match ← callLua f (pure #[.num (Float.ofNat id), text args]) with
    | .error e => pure (some e.message)
    | .ok rs =>
      match (rs[0]? : Option Lua.Value) with
      | some (.str s) => if s.size == 0 then pure none else reply ((← core).addOutput id ⟨.command, s.toText⟩)
      | _ => pure none

def changed (r : Except Failure Core) : Run Event.Outcome :=
  match r with
  | .ok c => do modifyCore fun _ => c; pure .ok
  | .error f => pure (.failed f.message)

/-- Runs the command a submitted line names, showing an unknown command or
a failure in the session. -/
def dispatchLine (ev : Event.Message) : Run Event.Outcome := do
  match ev.session, ev.payload with
  | some id, some (.input l) =>
    let c ← core
    match c.commands.route c.leader id l.sent with
    | .ignored => pure .ok
    | .unknown out => changed (c.addOutput id out)
    | .run cmd args =>
      match ← runAction cmd.handler id args with
      | none => pure .ok
      | some err => changed ((← core).addOutput id (Command.failedReply cmd err))
  | _, _ => pure .ok

/-! ## Publishing -/

def outcomeOf (r : Option Failure × Core) : Run Event.Outcome := do
  modifyCore fun _ => r.2
  match r.1 with
  | some f => pure (.failed f.message)
  | none => pure .ok

def react (ev : Event.Message) (g : Event.Guarded Reaction) : Run Event.Outcome := do
  let c ← core
  if !g.guards.all (·.holds c.info? ev) then return .ok
  match g.body with
  | .setup =>
    match ev.payload with
    | some (.session info module) =>
      discard (Plugin.setupSession (runnerWith fun _ => pure ()) info module)
      pure .ok
    | _ => pure .ok
  | .dispatch => dispatchLine ev
  | .dropCommands =>
    if let some id := ev.session then modifyCore fun c => { c with commands := c.commands.drop id }
    pure .ok
  | .reloaded => pure .ok
  | .historyInput => modifyCore (·.recordInput ev); pure .ok
  | .historyKey => outcomeOf (c.scrollByKey ev)
  | .historyShortcut => outcomeOf (c.scrollByShortcut ev)
  | .historyClosed => modifyCore (·.forgetHistory ev); pure .ok
  | .lua f =>
    match ← callLua f (do pure #[← eventTable ev]) with
    | .ok _ => pure .ok
    | .error e => pure (.failed e.message)

/-- Publishes an event now, running its subscriptions; an event of a known
kind goes on the record first. -/
def publishNow (ev : Event.Message) : Run (List Event.PublishFault) := do
  if ev.kind.valid then modifyCore fun c => { c with published := c.published ++ [ev] }
  Event.Bus.publish (do pure (← core).bus) (fun b => modifyCore fun c => { c with bus := b })
    (fun sub _ => react ev sub.handler) ev (pure false)

def runner : Plugin.Runner Run Code SetupHook ReloadHook := runnerWith fun ev => discard (publishNow ev)

/-! ## Reloads -/

/-- Looks through the search paths for scripts and registers those not
known yet; answers their ids.  What cannot be registered is broken. -/
def discover : Run (List String) := do
  let c ← core
  let (found, _) := Plugin.discover c.disk c.paths
  modifyCore fun c => { c with broken := [] }
  let mut added := []
  for d in found do
    match d.manifest with
    | .error f => modifyCore fun c => { c with broken := c.broken ++ [(d.name, f)] }
    | .ok m =>
      let c ← core
      if c.config.moduleDisabled d.name || m.disabled || (c.script? m.name).isSome then continue
      match c.manager.register m.name (.script m.name) with
      | .error f => modifyCore fun c => { c with broken := c.broken ++ [(d.name, f)] }
      | .ok mg =>
        modifyCore fun c => { c with manager := mg,
                                     scripts := c.scripts ++ [(m.name, ⟨m, c.config.scripts.timeout⟩)] }
        added := added ++ [m.name]
  pure added

def unloadScript (id : String) : Run Unit := do
  discard (Plugin.unload runner id)
  modifyCore fun c => { c with scripts := c.scripts.filter (·.1 != id) }

/-- Reads a script's manifest again; a script that is gone or disabled is
unloaded, and false answered. -/
def refreshScript (id : String) : Run Bool := do
  let c ← core
  match Plugin.find c.disk c.paths id with
  | .error f =>
    if f.conditions.contains .moduleNotFound then
      unloadScript id
      pure false
    else pure true
  | .ok d =>
    match d.manifest with
    | .error _ => pure true
    | .ok m =>
      if m.disabled || c.config.moduleDisabled id then
        unloadScript id
        pure false
      else
        modifyCore fun c => { c with scripts := c.scripts.map fun (i, s) =>
          if i == id then (i, { s with manifest := m }) else (i, s) }
        pure true

def announceReload (modules failed : List String) : Run Unit :=
  discard (publishNow { kind := .modulesReloaded, payload := some (.reload modules failed) })

/-- Registers the new modules on disk and loads them, when one of them is
the module asked for. -/
def loadNew (id : String) : Run Unit := do
  let added ← discover
  if !added.contains id then return
  let mut failed := []
  for n in added do
    if (← Plugin.reload runner n).isSome then failed := failed ++ [n]
  announceReload added failed

def reloadModules (id : String) : Run Unit := do
  modifyCore fun c => { c with reloads := c.reloads + 1 }
  if id.isEmpty then
    discard discover
    for m in (← core).manager.ids do
      if ((← core).script? m).isSome then discard (refreshScript m)
    discard (Plugin.reloadAll runner)
  else if ((← core).manager.module? id).isNone then loadNew id
  else
    if ((← core).script? id).isSome then
      if !(← refreshScript id) then return
    let failed := if (← Plugin.reload runner id).isSome then [id] else []
    announceReload [id] failed

/-! ## Tasks -/

/-- Handles a submitted line: a line that is not a command is sent, the
input is cleared, and the line is announced. -/
def submitLine (id : SessionId) (line : InputLine) : Run Unit := do
  let c ← core
  let line := if c.host.isPassword id then { line with echoSuppressed := true } else line
  if (Command.Line.parse? line.sent c.leader).isNone then
    match c.host.send id line.sent with
    | .error _ => return
    | .ok host => modifyCore fun c => { c with host }
  modifyCore fun c => match c.host.clearInput id with
    | .ok host => { c with host }
    | .error _ => c
  discard (publishNow { kind := .inputLineSent, session := some id, payload := some (.input line) })

/-- Switches to a configuration, announces it, and resumes every session
for the history, whose keys may have changed. -/
def applyConfigNow (cfg : Config.Settings) : Run Unit := do
  modifyCore fun c => { c with config := cfg }
  discard (publishNow { kind := .configReloaded })
  for info in (← core).host.windows.map (·.info) do
    discard (publishNow { kind := .resumeSession, session := some info.id,
                          payload := some (.session info "history") })

def panicFailure (message : String) : Failure :=
  { message := "handler panic: " ++ message, conditions := [.eventHandlerPanic], kinds := [.panic] }

def runTask : Task → Run Unit
  | .publish ev => discard (publishNow ev)
  | .closeSession id info => do
    discard (publishNow { kind := .sessionClosed, session := some id, payload := some (.session info "") })
    modifyCore fun c => { c with host := (c.host.close id).2 }
  | .submit id line => submitLine id line
  | .reload m => reloadModules m
  | .applyConfig cfg => applyConfigNow cfg
  | .navigate id dir => modifyCore fun c =>
    let (r, c) := c.navigate id dir
    { c with answer := some r }
  | .crash message => modifyCore fun c => { c with answer := some (false, some (panicFailure message)) }
  | .probe => modifyCore fun c => { c with answer := some (false, none) }
  | .drain => pure ()

/-- Runs the first queued task; false when nothing is queued.  A marker
that finds more work queued goes back to the end of the queue. -/
def step : Run Bool := do
  match (← core).queue with
  | [] => pure false
  | t :: rest =>
    modifyCore fun c => { c with queue := rest, tasks := c.tasks + 1 }
    match t with
    | .drain =>
      if rest.isEmpty then modifyCore fun c => { c with drains := c.drains + 1 }
      else modifyCore (·.enqueue .drain)
    | t => runTask t
    pure true

/-- Runs tasks until a condition holds or nothing is queued, at most
`fuel` of them. -/
def runWhile (done : Core → Bool) : Nat → Run Unit
  | 0 => pure ()
  | fuel + 1 => do
    if done (← core) then return
    if ← step then runWhile done fuel

def taskLimit : Nat := 200000

/-- The failure of a wait that gave up before the loop got to the end of
it: the loop ran the most tasks one wait runs. -/
def waitExpired : Failure := .plain "context deadline exceeded"

/-- Waits until the loop ran everything queued, including what that work
queued in turn. -/
def flush : Run (Option Failure) := do
  let c ← core
  if c.stopped then return some notRunning
  let before := c.drains
  modifyCore (·.enqueue .drain)
  runWhile (·.drains > before) taskLimit
  if (← core).drains > before then pure none else pure (some waitExpired)

def call (t : Task) : Run (Except Failure (Bool × Option Failure)) := do
  if (← core).stopped then return .error notRunning
  modifyCore fun c => { c.enqueue t with answer := none }
  runWhile (·.answer.isSome) taskLimit
  match (← core).answer with
  | some a => pure (.ok a)
  | none => pure (.error waitExpired)

end MudClient.Engine
