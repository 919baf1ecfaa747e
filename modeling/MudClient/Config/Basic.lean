/-
# The client's configuration

The configuration has six parts: where script modules are found and how
they are run, input history, slash commands, logging, the metrics endpoint,
and the MUDs the client knows.  A configuration file is read over the
defaults, so a file names only what it changes, and is then checked as a
whole: every problem is reported at once, in a fixed order.

A MUD may carry extra settings by name; two of them, `history_prev` and
`history_next`, override the history keys for that MUD.
-/
import MudClient.Failure
import MudClient.Key.Code
import MudClient.Log.Level
import MudClient.Time.Duration
import MudClient.Text.Quote
import MudClient.Text.Case

namespace MudClient.Config

/-- Where script modules are found and how they run. -/
structure Scripts where
  /-- Directories searched in order; the first module of a name wins. -/
  dirs : List String := []
  watch : Bool := false
  debounce : Time.Duration := 0
  /-- The bound on each call into a script. -/
  timeout : Time.Duration := 0
  disabled : List String := []
deriving Repr, Inhabited, DecidableEq

/-- Input history. -/
structure History where
  capacity : Int := 0
  skipScripted : Bool := false
  prevKey : String := ""
  nextKey : String := ""
deriving Repr, Inhabited, DecidableEq

/-- Slash commands: the text that starts one. -/
structure Commands where
  leader : String := ""
deriving Repr, Inhabited, DecidableEq

/-- The logger: its level and its format. -/
structure Logging where
  level : String := ""
  format : String := ""
deriving Repr, Inhabited, DecidableEq

/-- The metrics endpoint; an empty address switches it off. -/
structure Metrics where
  addr : String := ""
deriving Repr, Inhabited, DecidableEq

/-- A game server, and the extra settings scripts read by name; `none` when
no extra settings were given at all. -/
structure Mud where
  name : String := ""
  host : String := ""
  port : Int := 0
  tls : Bool := false
  character : String := ""
  extra : Option (List (String × String)) := none
deriving Repr, Inhabited, DecidableEq

/-- The whole configuration. -/
structure Settings where
  scripts : Scripts := {}
  history : History := {}
  commands : Commands := {}
  logging : Logging := {}
  metrics : Metrics := {}
  muds : List Mud := []
deriving Repr, Inhabited, DecidableEq

def default : Settings :=
  { scripts := { dirs := ["scripts"], watch := true, debounce := 200 * Time.millisecond,
                 timeout := 5 * Time.second },
    history := { capacity := 1000, skipScripted := true, prevKey := "up", nextKey := "down" },
    commands := { leader := "/" },
    logging := { level := "info", format := "console" } }

def extraHistoryPrev : String := "history_prev"
def extraHistoryNext : String := "history_next"

namespace Settings

def mud (c : Settings) (name : String) : Option Mud := c.muds.find? (·.name == name)

def extra (c : Settings) (mud name : String) : Option String :=
  (c.mud mud).bind fun m => m.extra.bind (·.lookup name)

def historyKeys (c : Settings) (mud : String) : String × String :=
  ((c.extra mud extraHistoryPrev).getD c.history.prevKey,
   (c.extra mud extraHistoryNext).getD c.history.nextKey)

def moduleDisabled (c : Settings) (name : String) : Bool := c.scripts.disabled.contains name

def problems (c : Settings) : List String :=
  let keyProblem (name spec : String) : List String :=
    match Key.Code.ofSpec? spec with
    | .ok _ => []
    | .error e => [name ++ ": " ++ e.toFailure.message]
  let general :=
    (if c.scripts.dirs.isEmpty then ["scripts.dirs must not be empty"] else []) ++
    (if c.scripts.debounce < 0 then ["scripts.debounce must not be negative"] else []) ++
    (if c.scripts.timeout < 0 then ["scripts.timeout must not be negative"] else []) ++
    (if c.history.capacity < 1 then [s!"history.capacity must be at least 1, got {c.history.capacity}"] else []) ++
    keyProblem "history.prev_key" c.history.prevKey ++
    keyProblem "history.next_key" c.history.nextKey ++
    (if c.commands.leader.isEmpty then ["commands.prefix must not be empty"] else []) ++
    (match Log.parseLevel c.logging.level with
     | .ok _ => []
     | .error e => ["logging.level: " ++ e]) ++
    (if c.logging.format != "console" && c.logging.format != "json" then
      ["logging.format must be " ++ Text.quote "console" ++ " or " ++ Text.quote "json" ++ ", got " ++
        Text.quote c.logging.format]
     else [])
  let rec muds (i : Nat) (seen : List String) : List Mud → List String
    | [] => []
    | m :: rest =>
      if m.name.isEmpty then s!"muds[{i}].name is required" :: muds (i + 1) seen rest
      else
        let dup := if seen.contains m.name then [s!"muds[{i}]: duplicate name {Text.quote m.name}"] else []
        let port := if m.port < 0 || m.port > 65535 then [s!"muds[{i}].port out of range: {m.port}"] else []
        let extraKey (k : String) : List String :=
          match m.extra.bind (·.lookup k) with
          | some v => keyProblem s!"muds[{i}].extra.{k}" v
          | none => []
        dup ++ port ++ extraKey extraHistoryPrev ++ extraKey extraHistoryNext ++
          muds (i + 1) (m.name :: seen) rest
  general ++ muds 0 [] c.muds

def validate (c : Settings) : Except Failure Unit :=
  match c.problems with
  | [] => .ok ()
  | ps => .error { message := "invalid configuration: " ++ "; ".intercalate ps,
                   conditions := [.configInvalid], kinds := [.validation] }

end Settings

/-- The formats a configuration may be written in. -/
inductive Format where
  | toml | yaml | json
deriving DecidableEq, Repr

def Format.ofName? : String → Option Format
  | "toml" => some .toml
  | "yaml" => some .yaml
  | "json" => some .json
  | _ => none

def Format.name : Format → String
  | .toml => "toml" | .yaml => "yaml" | .json => "json"

def unsupported (what : String) : Failure :=
  { message := "unsupported config format: " ++ what, conditions := [.configBadFormat] }

def extension (path : String) : String :=
  let base := ((path.splitOn "/").getLast?.getD "").toList
  match base.reverse.findIdx? (· == '.') with
  | some k => String.ofList (base.drop (base.length - 1 - k))
  | none => ""

def formatFor (path : String) : Except Failure Format :=
  match Text.lower (extension path) with
  | ".toml" => .ok .toml
  | ".yaml" | ".yml" => .ok .yaml
  | ".json" => .ok .json
  | _ => .error (unsupported path)

end MudClient.Config
