/-
# What a session engine tells the engine

A session engine opens and closes sessions, reports their connection
status, the lines the user submits, the keys and shortcuts pressed, and
what the MUD sends.  Each report checks the session first and then queues
its work, so reports keep their order; nothing of it runs before the loop
gets to it.  Output the MUD sends is shown at once, unless it is gagged.

Switching the configuration checks the new one first; the switch itself
is queued, and afterwards every live session is resumed for the history,
whose keys may have changed.
-/
import MudClient.Engine.Lifecycle

namespace MudClient.Engine

open MudClient.Session

def known (id : SessionId) : Run (Option Failure) := do
  match (← core).sessionInfo id with
  | .ok _ => pure none
  | .error f => pure (some f)

/-- Opens a session and announces it; answers its information, with the
number the host gave it. -/
def openSession (info : Info) : Run Info := do
  let (info, host) := (← core).host.openSession info
  modifyCore fun c => { c with host }
  modifyCore (·.emit { kind := .newSession, session := some info.id, payload := some (.session info "") })
  pure info

def closeSession (id : SessionId) : Run (Option Failure) := do
  match (← core).sessionInfo id with
  | .error f => pure (some f)
  | .ok info =>
    modifyCore (·.enqueue (.closeSession id info))
    pure none

def setStatus (id : SessionId) (s : Status) : Run (Option Failure) := do
  match (← core).host.setStatus id s with
  | .error f => pure (some f)
  | .ok host =>
    modifyCore fun c => { c with host }
    match (← core).sessionInfo id with
    | .error f => pure (some f)
    | .ok info =>
      modifyCore (·.emit { kind := .connectionStatus, session := some id, payload := some (.connection s info) })
      pure none

def forSession (id : SessionId) (work : Run (Option Failure)) : Run (Option Failure) := do
  match ← known id with
  | some f => pure (some f)
  | none => work

def announceFor (id : SessionId) (kind : Event.Kind) (payload : Event.Payload) : Run (Option Failure) :=
  forSession id do
    modifyCore (·.emit { kind, session := some id, payload := some payload })
    pure none

def submit (id : SessionId) (line : InputLine) : Run (Option Failure) :=
  forSession id do
    modifyCore (·.enqueue (.submit id line))
    pure none

def submitInput (id : SessionId) : Run (Option Failure) := do
  submit id ((← core).host.input id)

/-- Announces a key pressed in the input field, by its normal name; a key
that cannot be read fails before the session is looked at. -/
def pressKey (id : SessionId) (spec : String) : Run (Option Failure) :=
  match Key.Code.ofSpec? spec with
  | .error e => pure (some e.toFailure)
  | .ok code => announceFor id .keyPressed (.key code.render)

def invokeShortcut (id : SessionId) (name : String) : Run (Option Failure) :=
  announceFor id .shortcutInvoked (.shortcut name)

def receiveLine (id : SessionId) (text : String) (prompt gag : Bool) : Run (Option Failure) :=
  forSession id do
    if !gag then
      match (← core).addOutput id ⟨.text, text⟩ with
      | .error f => return some f
      | .ok c => modifyCore fun _ => c
    modifyCore (·.emit { kind := .lineReceived, session := some id, payload := some (.line text prompt gag) })
    pure none

def receiveGmcp (id : SessionId) (topic body : String) : Run (Option Failure) :=
  announceFor id .gmcpMessage (.gmcp topic body)

def noConfig : Failure :=
  { message := "apply config: validation failed", conditions := [.configInvalid] }

def applyConfig (cfg : Option Config.Settings) : Run (Option Failure) := do
  match cfg with
  | none => pure (some noConfig)
  | some cfg =>
    match cfg.validate with
    | .error f => pure (some f)
    | .ok _ =>
      modifyCore (·.enqueue (.applyConfig cfg))
      pure none

def history? (id : SessionId) : Run (Option History.Buffer) := do
  pure (((← core).histories.lookup id).map (·.history))

end MudClient.Engine
