/-
# The session host

The host keeps the open sessions, in the order they were opened: each with
its information, connection status, the line in its input field, whether the
input field hides what is typed, the lines sent to the MUD and the output
shown.  Sessions are numbered from 1 in opening order; a number is never
given twice.  Besides, the host keeps its traffic: every line sent and
every output shown, of any session, in the order they happened, as a
console attached to the host would print them.

Every operation on a session that is not open fails with an unknown-session
failure naming the number.
-/
import MudClient.Failure
import MudClient.Session.Basic

namespace MudClient.Session

/-- The state the host keeps for one open session. -/
structure Window where
  info : Info
  status : Status := .disconnected
  input : InputLine := {}
  password : Bool := false
  sent : List String := []
  output : List Output := []
deriving Repr

/-- One item of the host's traffic: a line sent to a session's MUD, or
output shown in a session. -/
inductive Traffic where
  | sent (id : SessionId) (text : String)
  | shown (id : SessionId) (o : Output)
deriving DecidableEq, Repr

/-- The open sessions, in opening order, the last number given, and the
traffic so far. -/
structure Host where
  lastId : Nat := 0
  windows : List Window := []
  traffic : List Traffic := []
deriving Repr

def unknownSession (id : SessionId) : Failure :=
  { message := "session " ++ toString id ++ ": unknown session",
    conditions := [.hostUnknownSession] }

namespace Host

def openSession (h : Host) (info : Info) : Info × Host :=
  let id := h.lastId + 1
  let info := { info with id }
  (info, { h with lastId := id, windows := h.windows ++ [{ info }] })

def window? (h : Host) (id : SessionId) : Option Window :=
  h.windows.find? (·.info.id == id)

def isOpen (h : Host) (id : SessionId) : Bool := (h.window? id).isSome

def close (h : Host) (id : SessionId) : Bool × Host :=
  (h.isOpen id, { h with windows := h.windows.filter (·.info.id != id) })

def update (h : Host) (id : SessionId) (f : Window → Window) : Except Failure Host :=
  if h.isOpen id then
    .ok { h with windows := h.windows.map fun w => if w.info.id == id then f w else w }
  else .error (unknownSession id)

def ids (h : Host) : List SessionId := h.windows.map (·.info.id)

def info? (h : Host) (id : SessionId) : Option Info := (h.window? id).map (·.info)

def setStatus (h : Host) (id : SessionId) (s : Status) : Except Failure Host :=
  h.update id fun w => { w with status := s }

def status (h : Host) (id : SessionId) : Status :=
  match h.window? id with
  | some w => w.status
  | none => .other ""

def setPassword (h : Host) (id : SessionId) (on : Bool) : Except Failure Host :=
  h.update id fun w => { w with password := on }

def isPassword (h : Host) (id : SessionId) : Bool :=
  match h.window? id with
  | some w => w.password
  | none => false

def send (h : Host) (id : SessionId) (text : String) : Except Failure Host :=
  (h.update id fun w => { w with sent := w.sent ++ [text] }).map fun h =>
    { h with traffic := h.traffic ++ [.sent id text] }

def setInput (h : Host) (id : SessionId) (l : InputLine) : Except Failure Host :=
  h.update id fun w => { w with input := l }

def clearInput (h : Host) (id : SessionId) : Except Failure Host := h.setInput id {}

def input (h : Host) (id : SessionId) : InputLine :=
  match h.window? id with
  | some w => w.input
  | none => {}

def addOutput (h : Host) (id : SessionId) (o : Output) : Except Failure Host :=
  (h.update id fun w => { w with output := w.output ++ [o] }).map fun h =>
    { h with traffic := h.traffic ++ [.shown id o] }

def sentLines (h : Host) (id : SessionId) : List String :=
  match h.window? id with
  | some w => w.sent
  | none => []

def outputLines (h : Host) (id : SessionId) : List Output :=
  match h.window? id with
  | some w => w.output
  | none => []

end Host

end MudClient.Session
