/-
# Making, starting and stopping an engine

Making an engine subscribes its own handlers first (setting up new and
resumed sessions, running commands, forgetting closed sessions' commands,
noting reloads), registers its two modules and the extra ones, and then the
scripts found in the search paths.  Nothing is loaded yet.

Starting loads every module, then checks the metrics address, if one is
set, and watches the script directories, if asked to.  An address that
cannot be listened on stops the engine again.  A watcher that finds no
directory to watch is dropped.

Stopping closes the watcher, drops the queued work, takes no more, and
unloads every module, the last registered first.

While the engine runs its files may change; the watcher, when there is one,
sees each change.  Waiting for the watcher lets time pass until it has
reported every change it holds; each report asks for a reload of its
module, or of everything when no module owns the files.
-/
import MudClient.Engine.Loop
import MudClient.Engine.Listen

namespace MudClient.Engine

open MudClient.Session

/-- What an engine is made from: its configuration, the directory its
files lie under, the files, the ids of extra modules that greet each
session they set up, the home directory, if one is known, and the
directory relative script directories are taken from, if any. -/
structure Options where
  config : Config.Settings
  root : String
  disk : Disk
  extra : List String := []
  home : Option String := none
  workDir : Option String := none

/-- A script directory as the loader searches it: a leading tilde, alone or
before a slash, stands for the home directory, which must then be known;
any other relative directory lies in the working directory, when there is
one. -/
def scriptDir (home workDir : Option String) (dir : String) : Except Failure String :=
  if dir == "~" || dir.startsWith "~/" then
    match home with
    | some h => .ok (Path.join [h, (dir.drop 1).toString])
    | none => .error (.plain ("expand " ++ dir ++ ": $HOME is not defined"))
  else
    match workDir with
    | some w => .ok (if Path.isAbs dir then Path.clean dir else Path.join [w, dir])
    | none => .ok (Path.clean dir)

def coreSubscriptions (b : Event.Bus (Event.Guarded Reaction)) : Except Failure (Event.Bus (Event.Guarded Reaction)) := do
  let (made, b) := (Event.Spec.on Plugin.coreModule [.newSession, .resumeSession]).register b (some .setup)
  let _ ← made
  let own (k : Event.Kind) (r : Reaction) (b : Event.Bus (Event.Guarded Reaction)) :=
    (b.subscribe k Plugin.coreModule [] (some ⟨[], r⟩)).map (·.2)
  let b ← own .inputLineSent .dispatch b
  let b ← own .sessionClosed .dropCommands b
  own .modulesReloaded .reloaded b

def Runtime.create (o : Options) : Except Failure Runtime := do
  let bus ← match coreSubscriptions {} with
    | .ok b => pure b
    | .error f => throw (startFailure "core subscriptions" f)
  let codes : List (String × Code) :=
    [("builtin", .builtin), ("history", .history)] ++ o.extra.map fun id => (id, .greeter id)
  let manager ← codes.foldlM (fun (mg : Plugin.Manager Code SetupHook ReloadHook) (id, code) =>
    match mg.register id code with
    | .ok mg => pure mg
    | .error f => throw (startFailure ("module " ++ id) f)) {}
  let paths ← match o.config.scripts.dirs.mapM (scriptDir o.home o.workDir) with
    | .ok ps => pure ps
    | .error f => throw (startFailure "script loader" f)
  let c : Core := { config := o.config, root := o.root, disk := o.disk, bus, manager, paths,
                    leader := if o.config.commands.leader.isEmpty then Command.defaultPrefix else o.config.commands.leader,
                    capacity := o.config.history.capacity, skipScripted := o.config.history.skipScripted }
  pure (discover.run { core := c }).2

/-- Stops the engine: closes the watcher, drops the queued work, and
unloads every module, the last registered first. -/
def shutdown : Run Unit := do
  modifyCore fun c => { c with watcher := c.watcher.map (·.close), stopped := true, queue := [] }
  for id in (← core).manager.ids.reverse do
    discard (Plugin.unload runner id)

/-- Watches the script directories that exist; keeps the watcher only when
there is one. -/
def startWatcher : Run Unit := do
  let c ← core
  let volume := Watch.Volume.ofPaths c.root (c.disk.files.map fun (p, b) => (p, b.size)) c.disk.dirs
  let w := Watch.Watcher.create volume [] (millis c.config.scripts.debounce)
  let (w, watched) := c.paths.foldl (fun (acc : Watch.Watcher × Nat) p =>
    match acc.1.watch p with
    | .ok w => (w, acc.2 + 1)
    | .error _ => acc) (w, 0)
  if watched > 0 then modifyCore fun c => { c with watcher := some w }

def start : Run (Option Failure) := do
  discard (Plugin.loadAll runner)
  let c ← core
  if !c.config.metrics.addr.isEmpty then
    if let some why := listenFault c.config.metrics.addr then
      shutdown
      return some (startFailure "metrics" (componentFailure "metrics" "listen" (.plain why)))
  if c.config.scripts.watch then startWatcher
  pure none

/-! ## Files changing under the engine -/

def Core.resolve (c : Core) (path : String) : String := (c.moduleFor path).getD ""

def changeFiles (s : Watch.Step) (change : Disk → Disk) : Run Unit :=
  modifyCore fun c =>
    let c := { c with disk := change c.disk }
    match c.watcher with
    | some w => { c with watcher := some (w.performWith c.resolve s) }
    | none => c

def writeFile (path : String) (content : Bytes) : Run Unit :=
  changeFiles (.write path content.size) (·.write path content)

def removeFile (path : String) : Run (Option String) := do
  match (← core).disk.remove path with
  | .error e => pure (some e)
  | .ok d =>
    changeFiles (.remove path) fun _ => d
    pure none

/-- Lets time pass until the watcher reported every change it holds, asks
for a reload for each, and runs the loop until nothing is queued; answers
how many reloads the loop handled meanwhile. -/
def awaitReloads : Run Nat := do
  let c ← core
  let before := c.reloads
  match c.watcher with
  | none => pure 0
  | some w =>
    let seen := w.changes.length
    let d := w.debouncer
    let w := { w with debouncer := d.waitFor (d.pending.length + 1) (d.fired.length + d.pending.length) }
    modifyCore fun c => { c with watcher := some w }
    for ch in w.changes.drop seen do
      requestReload ch.module
    runWhile (fun _ => false) taskLimit
    pure ((← core).reloads - before)

end MudClient.Engine
