/-
# The `mud` table

A script reaches the client through the functions of the global table
`mud`, which `require("mud")` also gives.  Each function checks its
arguments the way the base library does and raises an error naming the
function when one is wrong.

* `on`, `on_connected`, `on_disconnected`, `on_session`, `on_mud`, `on_gmcp`
  and `on_custom` subscribe a function and answer the identifier of the
  first subscription made; `off` removes one of the subscriptions this
  load made, answering whether it did; `emit` queues a custom event.
* `send`, `output`, `session_info`, `sessions` and `input` act on sessions.
* `on_setup` and `before_reload` add hooks to the running module's load,
  `module` names the module, and `log` writes nowhere.
* `command` registers a command for a session; the function's first result,
  when it is a text that is not empty, is shown as the command's result.

Events reach scripts as tables: every table has `kind`, an event of a
session has `session`, and the rest depends on the payload.
-/
import MudClient.Engine.Basic

namespace MudClient.Engine

open MudClient.Session
open MudClient.Lua

abbrev Api := VM ApiFn Binding

def binding : Api Binding := do pure (← get).host

def modifyBinding (f : Binding → Binding) : Api Unit := modify fun w => { w with host := f w.host }

def modifyCoreApi (f : Core → Core) : Api Unit := modifyBinding fun b => { b with core := f b.core }

def text (s : String) : Value := .str (Bytes.ofString s)

def record (fields : List (String × Value)) : Api Value := do
  let r ← allocTable (fields.foldl (fun t (k, v) => t.setStr k v) {})
  pure (.table r)

def sequence (vs : List Value) : Api Value := do
  let r ← allocTable { arr := vs.toArray }
  pure (.table r)

def infoTable (info : Info) : Api Value :=
  record [("id", .num (Float.ofNat info.id)), ("mud", text info.mud), ("character", text info.character),
    ("host", text info.host), ("port", .num (Float.ofInt info.port)), ("tls", .bool info.tls)]

/-- The table of an input line; `display` holds the text the user would
recognise. -/
def lineTable (l : InputLine) : Api Value :=
  record ([("sent", text l.sent)] ++ (l.original.map fun o => ("original", text o)).toList ++
    [("scripted", .bool l.scripted), ("echo_suppressed", .bool l.echoSuppressed), ("display", text l.text)])

def payloadFields : Event.Payload → Api (List (String × Value))
  | .session info module => do
    pure ([("info", ← infoTable info)] ++ (if module.isEmpty then [] else [("module", text module)]))
  | .connection status info => do pure [("status", text status.name), ("info", ← infoTable info)]
  | .line t isPrompt gagged => pure [("text", text t), ("prompt", .bool isPrompt), ("gag", .bool gagged)]
  | .prompt before after => pure [("from", text before), ("to", text after)]
  | .input l => do pure [("line", ← lineTable l)]
  | .key code => pure [("code", text code)]
  | .shortcut n => pure [("name", text n)]
  | .option o enabled => pure [("option", .num (Float.ofNat o)), ("enabled", .bool enabled)]
  | .gmcp package json => do
    let body := (JsonPath.parseText (Bytes.ofString json)).value
    pure [("package", text package), ("json", text json), ("data", ← toValue (Event.jsonData body))]
  | .custom ty entries => do
    let data := Data.map (entries.map fun (k, d) => (Bytes.ofString k, d)).toArray
    pure [("type", text ty), ("data", ← toValue data)]
  | .reload modules failed => do
    pure [("modules", ← sequence (modules.map text)), ("failed", ← sequence (failed.map text))]

def eventTable (ev : Event.Message) : Api Value := do
  let own := [("kind", text ev.kind.name)] ++ (ev.session.map fun id => ("session", Value.num (Float.ofNat id))).toList
  let more ← match ev.payload with
    | some p => payloadFields p
    | none => pure []
  record (own ++ more)

/-! ## Arguments -/

/-- A number argument as a 64-bit integer, truncated; only numbers are
taken. -/
def checkInt64 (args : Array Value) (n : Nat) : Api Int :=
  match arg args n with
  | .num x => pure (Number.toInt64 x)
  | _ => typeError args n "number"

def checkSession (args : Array Value) (n : Nat) : Api SessionId := do
  let v ← checkInt64 args n
  if v < 0 || v > 4294967295 then argError n "invalid session id" else pure v.toNat

def checkText (args : Array Value) (n : Nat) : Api String := do pure (← checkString args n).toText

def filterOfTable (r : Nat) : Api Event.Filter := do
  let w ← get
  let t ← tableAt r
  let mut out : Event.Filter := []
  for (k, v) in t.entries do
    match k with
    | .str s => out := out ++ [(s.toText, toData w v)]
    | _ => raise ("malformed filter: field names must be strings, got " ++ k.typeName)
  pure out

/-! ## Subscriptions -/

def luaFn (fn : Nat) : Api LuaFn := do
  let b ← binding
  pure ⟨b.module, b.load, fn⟩

/-- Keeps the subscriptions made and answers the identifier of the first,
or raises the failure. -/
def track (made : Except Failure (List Event.Handle × Event.Bus (Event.Guarded Reaction))) : Api (Array Value) := do
  match made with
  | .error f => raise f.message
  | .ok (hs, bus) =>
    modifyBinding fun b => { b with core := { b.core with bus },
                                    handles := b.handles ++ hs.map fun h => (Event.subscriptionText h.serial, h) }
    match hs with
    | h :: _ => pure #[text (Event.subscriptionText h.serial)]
    | [] => pure #[.nil]

def subscribeBy (spec : Event.Spec) (fn : Nat) : Api (Array Value) := do
  let f ← luaFn fn
  let (made, bus) := spec.register (← binding).core.bus (some (.lua f))
  modifyBinding fun b => { b with core := { b.core with bus } }
  track (made.map fun hs => (hs, bus))

def onKind (args : Array Value) : Api (Array Value) := do
  let kind ← checkText args 1
  let (filter, at_) ← match arg args 2 with
    | .table r => do pure (← filterOfTable r, 3)
    | _ => pure ([], 2)
  let fn ← checkFunction args at_
  let f ← luaFn fn
  let b ← binding
  track ((b.core.bus.subscribe ⟨kind⟩ b.module filter (some ⟨[], .lua f⟩)).map fun (h, bus) => ([h], bus))

def offId (args : Array Value) : Api (Array Value) := do
  let id ← checkText args 1
  let b ← binding
  match b.handles.lookup id with
  | none => pure #[.bool false]
  | some h =>
    modifyBinding fun b => { b with handles := b.handles.filter (·.1 != id) }
    match b.core.bus.unsubscribe (some h) with
    | .ok bus => modifyCoreApi (fun c => { c with bus }); pure #[.bool true]
    | .error _ => pure #[.bool false]

def emitCustom (args : Array Value) : Api (Array Value) := do
  let ty ← checkText args 1
  let w ← get
  let data ← match arg args 2 with
    | .table r =>
      match toData w (.table r) with
      | .map es => pure (es.toList.map fun (k, d) => (k.toText, d))
      | _ => argError 2 "data must be a table of named fields"
    | _ => pure []
  let session ← match arg args 3 with
    | .nil => pure none
    | _ => do pure (some (← checkSession args 3))
  modifyCoreApi (·.emit { kind := Event.Kind.custom, session, payload := some (.custom ty data) })
  pure #[]

/-! ## Sessions -/

def orRaise (what : String) : Except Failure Core → Api Unit
  | .ok c => modifyCoreApi fun _ => c
  | .error f => raise (what ++ ": " ++ f.message)

def commandOptions (v : Value) : Api (List String × String) := do
  match v with
  | .table r =>
    let w ← get
    let t ← tableAt r
    let list := match t.getStr "aliases" with
      | .nil => stringList w (.table r)
      | al => stringList w al
    let description := match t.getStr "description" with
      | .str s => s.toText
      | _ => ""
    pure (((list.getD #[]).toList.map Bytes.toText), description)
  | _ => pure ([], "")

def registerCommand (args : Array Value) : Api (Array Value) := do
  let id ← checkSession args 1
  let name ← checkText args 2
  let fn ← checkFunction args 3
  let (aliases, description) ← commandOptions (arg args 4)
  let f ← luaFn fn
  let b ← binding
  match b.core.commands.register id { name, aliases, description, owner := b.env.module, handler := some (.lua f) } with
  | .ok commands => modifyCoreApi fun c => { c with commands }
  | .error e => raise e.toFailure.message
  pure #[]

def api : HostCall ApiFn Binding
  | .subscribe, _, args => onKind args
  | .onConnected, _, args => do
    let fn ← checkFunction args 1
    subscribeBy (Event.Spec.onConnected (← binding).module) fn
  | .onDisconnected, _, args => do
    let fn ← checkFunction args 1
    subscribeBy (Event.Spec.onDisconnected (← binding).module) fn
  | .onSession, _, args => do
    let fn ← checkFunction args 1
    subscribeBy (Event.Spec.onNewSessionOrResume (← binding).module) fn
  | .onMud, _, args => do
    let mud ← checkText args 1
    let kind ← checkText args 2
    let fn ← checkFunction args 3
    let owner := (← binding).module
    subscribeBy (if kind == "connected" then Event.Spec.onMudConnected owner mud
      else Event.Spec.onMud owner mud ⟨kind⟩) fn
  | .onGmcp, _, args => do
    let pkg ← checkText args 1
    let fn ← checkFunction args 2
    subscribeBy (Event.Spec.onGmcp (← binding).module pkg) fn
  | .onCustom, _, args => do
    let ty ← checkText args 1
    let fn ← checkFunction args 2
    subscribeBy (Event.Spec.onCustom (← binding).module ty) fn
  | .off, _, args => offId args
  | .emit, _, args => emitCustom args
  | .send, _, args => do
    let id ← checkSession args 1
    let t ← checkText args 2
    orRaise "send" ((← binding).core.sendLine id t)
    pure #[]
  | .output, _, args => do
    let id ← checkSession args 1
    let t ← checkText args 2
    orRaise "output" ((← binding).core.addOutput id ⟨.text, t⟩)
    pure #[]
  | .sessionInfo, _, args => do
    let id ← checkSession args 1
    match (← binding).core.info? id with
    | some info => pure #[← infoTable info]
    | none => pure #[.nil]
  | .sessions, _, _ => do
    pure #[← sequence ((← binding).core.host.ids.map fun id => Value.num (Float.ofNat id))]
  | .input, _, args => do
    let id ← checkSession args 1
    pure #[text ((← binding).core.host.input id).sent]
  | .onSetup, _, args => do
    let fn ← checkFunction args 1
    let f ← luaFn fn
    let env := (← binding).env
    modifyCoreApi (·.withManager (·.addSetup env (.lua f)))
    pure #[]
  | .beforeReload, _, args => do
    let fn ← checkFunction args 1
    let f ← luaFn fn
    let env := (← binding).env
    modifyCoreApi (·.withManager (·.addBeforeReload env (.lua f)))
    pure #[]
  | .moduleId, _, _ => do pure #[text (← binding).module]
  | .log, _, args => do
    if args.size > 1 then discard (checkString args 1)
    pure #[]
  | .command, _, args => registerCommand args
  | .mudTable r, _, _ => pure #[.table r]

def apiNames : List (String × ApiFn) :=
  [("on", .subscribe), ("on_connected", .onConnected), ("on_disconnected", .onDisconnected),
   ("on_session", .onSession), ("on_mud", .onMud), ("on_gmcp", .onGmcp), ("on_custom", .onCustom),
   ("off", .off), ("emit", .emit), ("send", .send), ("output", .output), ("session_info", .sessionInfo),
   ("sessions", .sessions), ("input", .input), ("on_setup", .onSetup), ("before_reload", .beforeReload),
   ("module", .moduleId), ("log", .log), ("command", .command)]

/-- Installs the `mud` table as a global and as the module `require`
finds under that name. -/
def installApi : Api Unit := do
  let mut t : Table := {}
  for (name, f) in apiNames do
    let fid ← allocFunc (.host f)
    t := t.setStr name (.func fid)
  let r ← allocTable t
  modifyTable (← get).globals (·.setStr "mud" (.table r))
  let (_, preload) ← packageTables
  if let some p := preload then
    let loader ← allocFunc (.host (.mudTable r))
    modifyTable p (·.setStr "mud" (.func loader))

end MudClient.Engine
