/-
# Settings on the wire

Operations that read settings from text, from a disk or from the
environment, and answer with the settings and the answers to the queries
a request asks.  Paths of a request's disk are below a root of its own.
-/
import MudClient.Wire.Basic
import MudClient.Config.Read
import MudClient.Config.Env
import MudClient.Log.Level

namespace MudClient.Wire

open MudClient.Json (Node)

def mudJson (m : Config.Mud) : Node :=
  obj [("name", str m.name), ("host", str m.host), ("port", num m.port), ("tls", .bool m.tls),
    ("character", str m.character),
    ("extra", obj ((m.extra.getD []).map fun (k, v) => (k, str v))),
    ("extra_nil", .bool m.extra.isNone)]

def configJson (c : Config.Settings) : Node :=
  obj [
    ("scripts", obj [("dirs", strs c.scripts.dirs), ("watch", .bool c.scripts.watch),
      ("debounce", str (Time.format c.scripts.debounce)), ("timeout", str (Time.format c.scripts.timeout)),
      ("disabled", strs c.scripts.disabled)]),
    ("history", obj [("capacity", num c.history.capacity),
      ("skip_scripted", .bool c.history.skipScripted), ("prev_key", str c.history.prevKey),
      ("next_key", str c.history.nextKey)]),
    ("commands", obj [("prefix", str c.commands.leader)]),
    ("logging", obj [("level", str c.logging.level), ("format", str c.logging.format)]),
    ("metrics", obj [("addr", str c.metrics.addr)]),
    ("muds", arr (c.muds.map mudJson))]

def queriesJson (c : Config.Settings) (j : Node) : Decode Node := do
  match get? j "queries" with
  | none => pure (obj [])
  | some q =>
    let keys := (← texts q "history_keys").map fun m =>
      let (p, n) := c.historyKeys m
      obj [("mud", str m), ("prev", str p), ("next", str n)]
    let disabled := (← texts q "disabled").map fun n =>
      obj [("name", str n), ("disabled", .bool (c.moduleDisabled n))]
    let extras ← (← items q "extra").mapM fun
      | .array #[.string m, .string k] =>
        let v := c.extra m k
        pure (obj [("mud", str m), ("key", str k), ("value", str (v.getD "")), ("found", .bool v.isSome)])
      | _ => throw "an extra query is a pair of strings"
    pure (obj [("history_keys", arr keys), ("disabled", arr disabled), ("extra", arr extras)])

def diskOf (j : Node) : Decode Disk := do
  let (files, dirs) ← filesOf j
  pure { files, dirs }

def configParseOp (j : Node) : Decode Node := do
  match Config.parse (← textOr j "format" "json") (Bytes.ofString (← text j "data")) with
  | .error f => pure (failure f)
  | .ok c => pure (obj [("config", configJson c), ("queries", ← queriesJson c j)])

def configDefaultOp (j : Node) : Decode Node := do
  let c := Config.default
  pure (obj [("config", configJson c), ("valid", orNull c.validate), ("queries", ← queriesJson c j)])

def configEnvOp (j : Node) : Decode Node := do
  let start ← match get? j "data" with
    | some (.string d) => pure (Config.parse (← textOr j "format" "json") (Bytes.ofString d))
    | _ => pure (.ok Config.default)
  let env ← (entries j "env").mapM fun
    | (k, .string v) => pure (k, v)
    | _ => throw "field \"env\" must map names to strings"
  match start with
  | .error f => pure (obj [("parse_error", failure f)])
  | .ok c =>
    match c.applyEnv (fun k => env.lookup k) with
    | .error f => pure (failure f)
    | .ok c => pure (obj [("config", configJson c)])

def configLoadOp (j : Node) : Decode Node := do
  match Config.load (← diskOf j) (underRoot (← text j "path")) with
  | .error f => pure (failure f)
  | .ok c => pure (obj [("config", configJson c)])

def newLoggerOp (j : Node) : Decode Node := do
  match Log.loggerSettings (← text j "level") (← text j "format") with
  | .ok _ => pure (obj [("error", .null)])
  | .error m => pure (obj [("error", failure (.plain m))])

def configOps (op : String) (j : Node) : Option (Decode Node) :=
  match op with
  | "config_parse" => some (configParseOp j)
  | "config_default" => some (configDefaultOp j)
  | "config_format_for" => some do
    match Config.formatFor (← text j "path") with
    | .ok f => pure (obj [("format", str f.name)])
    | .error e => pure (failure e)
  | "config_env" => some (configEnvOp j)
  | "config_load" => some (configLoadOp j)
  | "new_logger" => some (newLoggerOp j)
  | _ => none

end MudClient.Wire
