/-
# Events

An event has a kind, the session it concerns (none for events of the whole
client), and a payload particular to its kind.  The host names fourteen
kinds; a kind outside them can still be built, and is reported as not valid.

Events expose named fields for filters.  `kind` and `session` exist on every
event (`session` only when there is one); the payload answers the others.
Two payloads reach inside structured data: a GMCP message answers
`json.<path>` with the value at that path of its JSON body, and a custom
event answers `data.<key>` with the entry of its data map.
-/
import MudClient.Data.Basic
import MudClient.Json.Path
import MudClient.Session.Basic

namespace MudClient.Event

open MudClient.Session

/-- The kind of an event, by name. -/
structure Kind where
  name : String
deriving DecidableEq, Repr, Inhabited

namespace Kind

def newSession : Kind := ⟨"new_session"⟩
def resumeSession : Kind := ⟨"resume_session"⟩
def sessionClosed : Kind := ⟨"session_closed"⟩
def connectionStatus : Kind := ⟨"connection_status"⟩
def lineReceived : Kind := ⟨"line_received"⟩
def promptChanged : Kind := ⟨"prompt_changed"⟩
def inputLineSent : Kind := ⟨"input_line_sent"⟩
def keyPressed : Kind := ⟨"key_pressed"⟩
def shortcutInvoked : Kind := ⟨"shortcut_invoked"⟩
def optionNegotiated : Kind := ⟨"option_negotiated"⟩
def gmcpMessage : Kind := ⟨"gmcp_message"⟩
def configReloaded : Kind := ⟨"config_reloaded"⟩
def modulesReloaded : Kind := ⟨"modules_reloaded"⟩
def custom : Kind := ⟨"custom"⟩

def all : List Kind :=
  [newSession, resumeSession, sessionClosed, connectionStatus, lineReceived, promptChanged,
   inputLineSent, keyPressed, shortcutInvoked, optionNegotiated, gmcpMessage, configReloaded,
   modulesReloaded, custom]

def valid (k : Kind) : Bool := all.contains k

def parse (name : String) : Kind × Bool := (⟨name⟩, valid ⟨name⟩)

end Kind

/-- The kind-specific part of an event. -/
inductive Payload where
  /-- A session opened or resumed; `module` limits a resume to one module. -/
  | session (info : Info) (module : String)
  | connection (status : Status) (info : Info)
  | line (text : String) (prompt gag : Bool)
  | prompt (before after : String)
  | input (line : InputLine)
  | key (code : String)
  | shortcut (name : String)
  /-- A telnet option, a byte, switched on or off. -/
  | option (option : Nat) (enabled : Bool)
  /-- A GMCP message: its package and its JSON body. -/
  | gmcp (package : String) (json : String)
  | custom (type : String) (data : List (String × Data))
  | reload (modules failed : List String)
deriving Inhabited

/-- An event: its kind, the session it concerns, and its payload. -/
structure Message where
  kind : Kind
  session : Option SessionId := none
  payload : Option Payload := none
deriving Inhabited

def jsonData : JsonPath.Value → Data
  | .null => .null
  | .bool b => .bool b
  | .num x => .float x
  | .str s => .str s
  | .arr xs => .list (xs.attach.map fun ⟨x, _⟩ => jsonData x)
  | .obj es => .map (es.attach.map fun ⟨(k, v), _⟩ => (k, jsonData v))
termination_by v => sizeOf v
decreasing_by
  all_goals first
    | decreasing_tactic
    | (rename_i h
       have := Array.sizeOf_lt_of_mem h
       simp only [Prod.mk.sizeOf_spec] at this
       simp only [JsonPath.Value.obj.sizeOf_spec]
       omega)

def Payload.field (p : Payload) (name : String) : Option Data :=
  match p with
  | .session info module =>
    match name with
    | "mud" => some (.text info.mud)
    | "character" => some (.text info.character)
    | "module" => some (.text module)
    | _ => none
  | .connection status info =>
    match name with
    | "status" => some (.text status.name)
    | "mud" => some (.text info.mud)
    | _ => none
  | .line text isPrompt gagged =>
    match name with
    | "text" => some (.text text)
    | "prompt" => some (.bool isPrompt)
    | "gag" => some (.bool gagged)
    | _ => none
  | .prompt before after =>
    match name with
    | "from" => some (.text before)
    | "to" => some (.text after)
    | _ => none
  | .input l =>
    match name with
    | "sent" => some (.text l.sent)
    | "original" => l.original.map Data.text
    | "scripted" => some (.bool l.scripted)
    | "echo_suppressed" => some (.bool l.echoSuppressed)
    | _ => none
  | .key code => if name == "code" then some (.text code) else none
  | .shortcut n => if name == "name" then some (.text n) else none
  | .option o enabled =>
    match name with
    | "option" => some (.int .uint8 o)
    | "enabled" => some (.bool enabled)
    | _ => none
  | .gmcp package json =>
    match name with
    | "package" => some (.text package)
    | "json" => some (.text json)
    | _ =>
      if name.startsWith "json." then
        let found := JsonPath.query (Bytes.ofString json) (Bytes.ofString (name.drop 5).toString)
        if found.exists then some (jsonData found.value) else none
      else none
  | .custom ty entries =>
    if name == "type" then some (.text ty)
    else if name.startsWith "data." then entries.lookup (name.drop 5).toString
    else none
  | .reload _ _ => none

namespace Message

def field (e : Message) (name : String) : Option Data :=
  match name with
  | "kind" => some (.text e.kind.name)
  | "session" => e.session.map fun id => .int .uint32 id
  | _ => e.payload.bind (·.field name)

def describe (e : Message) : String :=
  match e.session with
  | some id => s!"{e.kind.name}(session={id})"
  | none => e.kind.name

end Message

end MudClient.Event
