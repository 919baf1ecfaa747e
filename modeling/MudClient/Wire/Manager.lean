/-
# The module manager on the wire

One operation runs a conversation with a manager of scripted modules over
a host with the request's sessions.  Each step answers with its own
fields, the journal entries since the step before, and the announcements
the listener heard since then.
-/
import MudClient.Wire.Events
import MudClient.Wire.Commands
import MudClient.Plugin.Scripted

namespace MudClient.Wire

open MudClient.Json (Node)
open MudClient.Session
open MudClient.Plugin

def endingOf (j : Node) (what : String) : Decode Event.Outcome := do
  match ← textOr j "result" "ok" with
  | "error" => pure (.failed (← textOr j "message" (what ++ " failed")))
  | "panic" => pure (.panicked (← textOr j "message" (what ++ " panicked")))
  | _ => pure .ok

def loadPlanOf (j : Node) : Decode LoadPlan := do
  let subscribe ← (← items j "subscribe").mapM fun s => do
    pure ({ label := ← text s "label", kind := ⟨← text s "kind"⟩,
            filter := (← filterOf ((get? s "filter").getD .null)).getD [],
            outcome := ← endingOf s "handler" } : HandlerPlan)
  let setup ← (← items j "setup").mapM fun s => do
    let command ← match get? s "command" with
      | some c => do pure (some (← text c "name", ← texts c "aliases"))
      | none => pure none
    pure ({ outcome := ← endingOf s "setup", command } : SetupPlan)
  let beforeReload ← (← items j "before_reload").mapM fun s => endingOf s "before_reload"
  let commands ← (← items j "commands").mapM fun c => do
    pure ({ session := (← wholeOr c "session" 1).toNat, name := ← text c "name",
            aliases := ← texts c "aliases" } : CommandPlan)
  pure { subscribe, setup, beforeReload, commands, outcome := ← endingOf j "load" }

def scriptedOf (defs : Node) (id : String) : Decode ScriptedModule := do
  let d := member defs id
  pure { id, loads := ← (← items d "loads").mapM loadPlanOf,
         close := ← match get? d "close" with
           | some c => endingOf c "close"
           | none => pure .ok }

def entryJson : Entry → Node
  | .load m n env => obj [("load", str m), ("attempt", num n), ("env_module", str env.module),
      ("registrar", str env.module)]
  | .call l k m => obj ([("call", str l), ("kind", str k.name)] ++ (m.map fun m => ("module", str m)).toList)
  | .setup m i s mud => obj [("setup", str m), ("hook", num i), ("session", num s), ("mud", str mud)]
  | .beforeReload m i => obj [("before_reload", str m), ("hook", num i)]
  | .close m => obj [("close", str m)]
  | .subscribeError f => obj [("subscribe_error", failure f)]
  | .commandError f => obj [("command_error", failure f)]
  | .lateSetup m n => obj [("stale_setup", str m), ("env", num n)]
  | .lateBeforeReload m n => obj [("stale_before_reload", str m), ("env", num n)]

def announcementJson (a : Announcement) : Node :=
  obj [("type", str a.change.name), ("module", str a.module),
    ("error", match a.error with | some f => failure f | none => .null)]

def moduleInfoJson (m : ModuleInfo) : Node :=
  obj [("id", str m.id), ("state", str m.state.name), ("usable", .bool (m.state == .loaded)),
    ("error", match m.error with | some f => failure f | none => .null),
    ("reloads", num m.reloads), ("setup_hooks", num m.setupHooks)]

def managerStatsJson (s : ManagerStats) : Node :=
  obj [("modules", num s.modules), ("loaded", num s.loaded), ("errored", num s.errored),
    ("reloads", num s.reloads), ("load_failures", num s.loadFailures),
    ("setup_errors", num s.setupErrors), ("retracted", num s.retracted)]

def errorAnswer (f : Option Failure) : List (String × Node) :=
  [("error", match f with | some f => failure f | none => .null)]

def managerStep (defs : Node) (s : Node) : Decode (Staged (List (String × Node))) := do
  let id ← text s "module"
  let run := Stage.runner
  match ← text s "do" with
  | "register" =>
    if ← flag s "nil" then pure (pure (errorAnswer (some nilModule)))
    else
      let mod ← scriptedOf defs id
      pure do
        match (← get).manager.register id mod with
        | .ok mg => modify fun (st : Stage) => { st with manager := mg }; pure (errorAnswer none)
        | .error f => pure (errorAnswer (some f))
  | "add" => do
    let mod ← scriptedOf defs id
    pure do pure (errorAnswer (← add run id mod))
  | "load" => pure do pure (errorAnswer (← load run id))
  | "load_all" => pure do pure (errorAnswer (← loadAll run))
  | "prepare_reload" => pure do pure (errorAnswer (← prepareReload run id))
  | "complete_reload" => pure do pure (errorAnswer (← completeReload run id))
  | "reload" => pure do pure (errorAnswer (← reload run id))
  | "reload_all" => pure do pure (errorAnswer (← reloadAll run))
  | "unload" => pure do pure (errorAnswer (← unload run id))
  | "setup_session" => do
    let sid := (← wholeOr s "session" 1).toNat
    let given ← infoOf (member s "info")
    let only ← text s "only"
    pure do
      let info := ((← get).host.info? sid).getD given
      pure (errorAnswer (← setupSession run info only))
  | "publish" => do
    let ev ← eventOf (member s "event")
    pure do
      let faults ← Stage.publish ev false
      match faults with
      | [] => pure []
      | fs => pure [("error", obj [("parts", arr (fs.map fun f => failure f.toFailure))])]
  | "stale_setup" => do
    let n := (← whole s "env").toNat
    pure do
      match ← Stage.addLate id n with
      | none => pure [("missing", .bool true)]
      | some r => pure (errorAnswer r)
  | "unsubscribe_listener" => pure do
      modify fun (st : Stage) => { st with listening := false }
      pure []
  | "modules" => pure do pure [("modules", arr ((← get).manager.modules.map moduleInfoJson))]
  | "module" => pure do
      match (← get).manager.module? id with
      | some m => pure [("found", .bool true), ("module", moduleInfoJson m)]
      | none => pure [("found", .bool false)]
  | "errors" => pure do
      pure [("errors", obj ((← get).manager.errors.map fun (m, f) => (m, str f.message)))]
  | "stats" => pure do pure [("stats", managerStatsJson (← get).manager.stats)]
  | "commands" => do
    let sid := (← wholeOr s "session" 1).toNat
    pure do
      let cs := match (← get).commands with
        | some reg => reg.commands sid
        | none => []
      pure [("commands", arr (cs.map commandJson))]
  | "subscriptions" => pure do
      let b := (← get).bus
      pure [("total", num b.count), ("by_owner", num (b.countOwned id))]
  | d => throw ("unknown step " ++ quoteText d)

def managerOp (j : Node) : Decode Node := do
  let defs := member j "modules"
  let infos ← (← items j "sessions").mapM infoOf
  let host := infos.foldl (fun h i => (h.openSession i).2) ({} : Host)
  let resumes ← flagOr j "with_host" true
  let commands : Option (Command.Registry Unit) := if ← flagOr j "with_commands" true then some {} else none
  let stage : Stage := { host, resumes, commands }
  let steps ← (← items j "steps").mapM (managerStep defs)
  let (outs, _) := (steps.mapM fun (step : Staged (List (String × Node))) => do
      modify fun (st : Stage) => { st with journal := [], heard := [] }
      let fields ← step
      let st : Stage ← get
      pure (obj (fields ++ [("log", arr (st.journal.map entryJson)),
        ("events", arr (st.heard.map announcementJson))]))).run stage
  pure (obj [("steps", arr outs)])

end MudClient.Wire
