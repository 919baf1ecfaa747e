/-
# The engine on the wire

One operation makes an engine over the request's files and settings,
starts it, runs the request's steps one after the other, and stops it.
The loop runs everything queued once the engine started and after every
step, so each answer shows the engine at rest: the step's own fields,
then the state of the engine.

The state lists the live sessions, each with the lines it sent and the
output it showed since the state before, the modules, the scripts that
could not be registered, and the bus totals.  Paths of the request are
below the root, and the script directories of its settings too.

An engine asked to listen for metrics scrapes on an address that cannot be
listened on does not start: the answer is the failure and the state after
stopping.
-/
import MudClient.Wire.Manager
import MudClient.Wire.Config
import MudClient.Engine.Sessions
import MudClient.Engine.Metrics

namespace MudClient.Wire

open MudClient.Json (Node)
open MudClient.Session
open MudClient.Engine (Run core modifyCore)

/-- A conversation with an engine: the engine, how many sent lines and
outputs of each session earlier states showed, and whether the engine
serves its metrics. -/
structure Conversation where
  engine : MudClient.Engine.Runtime
  shown : List (SessionId × Nat × Nat) := []
  serving : Bool := false

abbrev Talk := StateT Conversation Decode

def onEngine {α : Type} (r : Run α) : Talk α :=
  modifyGet fun t =>
    let (a, e) := Id.run (r.run t.engine)
    (a, { t with engine := e })

/-! ## The state of the engine -/

/-- The JSON form of a session, with the lines and output after the first
`sent` and `shown` ones. -/
def windowJson (w : Window) (sent shown : Nat) : Node :=
  obj [("id", num w.info.id), ("status", str w.status.name), ("password", .bool w.password),
    ("input", lineJson w.input), ("sent", strs (w.sent.drop sent)),
    ("output", arr ((w.output.drop shown).map outputJson))]

def busJson (b : Event.Bus (Event.Guarded MudClient.Engine.Reaction)) : Node :=
  obj [("published", num b.stats.published), ("delivered", num b.stats.delivered),
    ("filtered", num b.stats.filtered), ("handler_errors", num b.stats.handlerErrors),
    ("handler_panics", num b.stats.handlerPanics), ("retracted", num b.stats.retracted),
    ("active", num b.count)]

def stateJson : Talk Node := do
  let t ← get
  let c := t.engine.core
  let sessions := c.host.windows.map fun w =>
    let (sent, shown) := (t.shown.lookup w.info.id).getD (0, 0)
    windowJson w sent shown
  set { t with shown := c.host.windows.map fun (w : Window) => (w.info.id, w.sent.length, w.output.length) }
  pure (obj [("sessions", arr sessions), ("modules", arr (c.manager.modules.map moduleInfoJson)),
    ("broken", obj (c.broken.map fun (n, f) => (n, str f.message))), ("bus", busJson c.bus)])

/-! ## Queries -/

def ownersJson (c : MudClient.Engine.Core) : Node :=
  obj ((Event.Kind.all.filter fun k => !(c.bus.owners k).isEmpty).map fun k =>
    (k.name, strs (c.bus.owners k)))

def metricsJson (c : MudClient.Engine.Core) : Node :=
  arr ((MudClient.Engine.families c).map fun f =>
    obj [("name", str f.name), ("help", str f.help), ("type", str f.kind.name),
      ("metrics", arr (f.samples.map fun s =>
        obj [("labels", obj (s.labels.map fun (k, v) => (k, str v))), ("value", float s.value.toFloat)]))])

def moduleForJson (c : MudClient.Engine.Core) (paths : List String) : Node :=
  arr (paths.map fun p =>
    let m := c.moduleFor (Path.join [root, p])
    obj [("path", str p), ("module", str (m.getD "")), ("found", .bool m.isSome)])

/-! ## Steps -/

def sessionOf (s : Node) : Decode SessionId := do pure (← wholeOr s "session" 1).toNat

def configOf (n : Node) : Except Failure Config.Settings :=
  Config.parse "json" (Bytes.ofString (render depthLimit n))

def mutated (cfg : Config.Settings) (m : Node) : Decode Config.Settings := do
  let cfg ← match get? m "capacity" with
    | some _ => do pure { cfg with history := { cfg.history with capacity := ← whole m "capacity" } }
    | none => pure cfg
  match get? m "prev_key" with
  | some _ => do pure { cfg with history := { cfg.history with prevKey := ← text m "prev_key" } }
  | none => pure cfg

def changeFile (f : Node) : Talk Unit := do
  let path := Path.join [root, ← text f "path"]
  if ← flag f "remove" then discard (onEngine (MudClient.Engine.removeFile path))
  else onEngine (MudClient.Engine.writeFile path (Bytes.ofString (← text f "content")))

/-- Runs one step and answers its fields; a batch runs its steps with no
wait between them. -/
def stepFields : Nat → Node → Talk (List (String × Node))
  | 0, _ => throw "steps nested too deeply"
  | fuel + 1, s => do
    let id ← sessionOf s
    let errorOf (r : Run (Option Failure)) : Talk (List (String × Node)) := do
      pure (errorAnswer (← onEngine r))
    let hostError (r : Host → Except Failure Host) : Talk (List (String × Node)) :=
      errorOf do
        match r (← core).host with
        | .error f => pure (some f)
        | .ok host =>
          modifyCore fun c => { c with host }
          pure none
    match ← text s "do" with
    | "open" => do
      let info ← onEngine (MudClient.Engine.openSession (← infoOf s))
      pure [("id", num info.id)]
    | "close" => errorOf (MudClient.Engine.closeSession id)
    | "status" => do errorOf (MudClient.Engine.setStatus id (Status.ofName (← text s "status")))
    | "submit" => do errorOf (MudClient.Engine.submit id (← lineField s "line"))
    | "submit_input" => errorOf (MudClient.Engine.submitInput id)
    | "key" => do errorOf (MudClient.Engine.pressKey id (← text s "key"))
    | "shortcut" => do errorOf (MudClient.Engine.invokeShortcut id (← text s "name"))
    | "recv" => do
      errorOf (MudClient.Engine.receiveLine id (← text s "text") (← flag s "prompt") (← flag s "gag"))
    | "gmcp" => do errorOf (MudClient.Engine.receiveGmcp id (← text s "package") (← text s "json"))
    | "input" => do
      let line ← lineField s "line"
      hostError (·.setInput id line)
    | "password" => do
      let on ← flagOr s "on" true
      hostError (·.setPassword id on)
    | "emit" => do
      let ev ← eventOf (member s "event")
      onEngine (modifyCore (·.emit ev))
      pure []
    | "reload" => do
      onEngine (MudClient.Engine.requestReload (← text s "module"))
      pure []
    | "apply_config" => do
      match get? s "config" with
      | none => errorOf (MudClient.Engine.applyConfig none)
      | some n =>
        match configOf n with
        | .error f => pure (errorAnswer (some f))
        | .ok cfg => do
          let cfg ← mutated cfg (member s "mutate")
          errorOf (MudClient.Engine.applyConfig (some cfg))
    | "write_file" => do
      let path := Path.join [root, ← text s "path"]
      onEngine (MudClient.Engine.writeFile path (Bytes.ofString (← text s "content")))
      pure []
    | "remove_file" => do
      let path := Path.join [root, ← text s "path"]
      let fault ← onEngine (MudClient.Engine.removeFile path)
      pure (errorAnswer (fault.map Failure.plain))
    | "write_and_await" => do
      for f in ← items s "files" do changeFile f
      pure [("reloads", num (← onEngine MudClient.Engine.awaitReloads))]
    | "history" => do
      match ← onEngine (MudClient.Engine.history? id) with
      | none => pure [("found", .bool false)]
      | some h => pure [("found", .bool true), ("lines", arr (h.lines.map lineJson))]
    | "navigate" => do
      let dir := dirOf s
      match ← onEngine (MudClient.Engine.call (.navigate id dir)) with
      | .error f => pure [("changed", .bool false), ("error", failure f)]
      | .ok (changed, f) => pure ([("changed", .bool changed)] ++ errorAnswer f)
    | "call_panic" => do
      match ← onEngine (MudClient.Engine.call (.crash (← text s "message"))) with
      | .error f => pure (errorAnswer (some f))
      | .ok (_, f) => pure (errorAnswer f)
    | "commands" => do
      let c ← onEngine core
      pure [("commands", arr ((c.commands.commands id).map commandJson))]
    | "subscriptions" => do pure [("owners", ownersJson (← onEngine core))]
    | "config" => do pure [("config", configJson (← onEngine core).config)]
    | "module_for" => do pure [("modules", moduleForJson (← onEngine core) (← texts s "paths"))]
    | "metrics" => do pure [("metrics", metricsJson (← onEngine core))]
    | "loop" => do
      let c ← onEngine core
      pure [("loop", obj [("tasks", num c.tasks), ("pending", num c.queue.length), ("reloads", num c.reloads)])]
    | "run_again" => pure (errorAnswer (some MudClient.Engine.alreadyRunning))
    | "scrape" => do
      if (← get).serving then
        let c ← onEngine core
        pure [("lines", obj [("status", num 200),
          ("lines", strs (MudClient.Engine.exposition (MudClient.Engine.families c)))])]
      else pure [("lines", .null)]
    | "batch" => do
      let rs ← (← items s "steps").mapM fun s => do pure (obj (← stepFields fuel s))
      pure [("results", arr rs)]
    | d => throw ("unknown step " ++ quoteText d)

def stepEntry (s : Node) : Talk Node := do
  let fields ← stepFields depthLimit s
  discard (onEngine MudClient.Engine.flush)
  pure (obj ([("step", str (← text s "do"))] ++ fields ++ [("state", ← stateJson)]))

/-! ## The operation -/

/-- The settings of a request: its configuration, with the script
directories below the root, watching as asked, and the metrics address the
request gives, or none. -/
def settingsOf (j : Node) : Decode (Except Failure Config.Settings) := do
  let base : Except Failure Config.Settings := match get? j "config" with
    | none => .ok Config.default
    | some n => configOf n
  let watch ← flag j "watch"
  let addr ← match get? j "metrics_addr" with
    | some _ => text j "metrics_addr"
    | none => pure (if ← flag j "metrics_listen" then "127.0.0.1:9464" else "")
  pure (base.map fun c =>
    { c with scripts := { c.scripts with dirs := c.scripts.dirs.map (Path.join [root, ·]), watch },
             metrics := { c.metrics with addr } })

def runtimeOp (j : Node) : Decode Node := do
  let (files, dirs) ← filesOf j
  match ← settingsOf j with
  | .error f => pure (obj [("config_error", failure f)])
  | .ok config =>
    let o : MudClient.Engine.Options := { config, root, disk := { files, dirs }, extra := ← texts j "extra_modules" }
    match MudClient.Engine.Runtime.create o with
    | .error f => pure (obj [("new_error", failure f)])
    | .ok e =>
      let serving ← flag j "metrics_listen"
      let talk : Talk Node := do
        let fault ← onEngine MudClient.Engine.start
        if (get? j "metrics_addr").isSome then
          if fault.isNone then onEngine MudClient.Engine.shutdown
          return obj [("run_error", match fault with | some f => failure f | none => .null),
            ("running", .bool false), ("state", ← stateJson)]
        discard (onEngine MudClient.Engine.flush)
        let first := obj [("step", str "start"), ("running", .bool true), ("state", ← stateJson)]
        let entries ← (← items j "steps").mapM stepEntry
        onEngine MudClient.Engine.shutdown
        let callAfter ← onEngine (MudClient.Engine.call .drain)
        let flushAfter ← onEngine MudClient.Engine.flush
        let last := obj [("step", str "shutdown"), ("run_error", .null), ("running", .bool false),
          ("state", ← stateJson),
          ("call_after", match callAfter with | .error f => failure f | .ok _ => .null),
          ("flush_after", match flushAfter with | some f => failure f | none => .null)]
        pure (obj [("steps", arr ([first] ++ entries ++ [last]))])
      talk.run' { engine := e, serving }

end MudClient.Wire
