/-
# Sessions: identities, connection status, input lines and output

A session is one connection to a MUD, known by a positive number.  Its status
names the state of the connection; the client knows three, but a status is
free text and any other name is carried as given.

An input line is what was sent to the MUD, with the text the user typed when
that differs (an alias or a script rewrote it), and two marks: whether a
script sent it and whether its echo is suppressed (a password).  Output is a
line of text shown in the session's window, of one of four kinds.
-/
import MudClient.Text.Space

namespace MudClient.Session

abbrev SessionId := Nat

/-- The status of a session's connection. -/
inductive Status where
  | disconnected
  | connecting
  | connected
  /-- A status the client gives no meaning to. -/
  | other (name : String)
deriving DecidableEq, Repr

namespace Status

def name : Status → String
  | .disconnected => "disconnected"
  | .connecting => "connecting"
  | .connected => "connected"
  | .other n => n

def ofName : String → Status
  | "disconnected" => .disconnected
  | "connecting" => .connecting
  | "connected" => .connected
  | n => .other n

end Status

/-- What is known of a session: its number, the MUD and character it plays,
and where it connects. -/
structure Info where
  id : SessionId := 0
  mud : String := ""
  character : String := ""
  host : String := ""
  port : Int := 0
  tls : Bool := false
deriving DecidableEq, Repr

/-- A line of input: the text sent, the text typed if it differs, and whether
a script sent it and whether its echo is suppressed. -/
structure InputLine where
  sent : String := ""
  original : Option String := none
  scripted : Bool := false
  echoSuppressed : Bool := false
deriving DecidableEq, Repr

namespace InputLine

def ofText (s : String) : InputLine := { sent := s }

def withOriginal (l : InputLine) (o : String) : InputLine := { l with original := some o }

def hasOriginal (l : InputLine) : Bool := l.original.isSome

/-- Whether the line holds nothing but white space, in what was sent and in
what was typed. -/
def blank (l : InputLine) : Bool :=
  Text.isBlank l.sent && (match l.original with
    | none => true
    | some o => Text.isBlank o)

/-- The line as it is shown and kept in history: the typed text when there
is one, keeping only the echo mark. -/
def forDisplay (l : InputLine) : InputLine :=
  match l.original with
  | none => l
  | some o => { sent := o, echoSuppressed := l.echoSuppressed }

def text (l : InputLine) : String := l.original.getD l.sent

end InputLine

/-- The kinds of output shown in a session. -/
inductive OutputKind where
  | text
  | command
  | failed
  | debug
deriving DecidableEq, Repr

def OutputKind.name : OutputKind → String
  | .text => "text"
  | .command => "command"
  | .failed => "failed"
  | .debug => "debug"

/-- A line of output with its kind. -/
structure Output where
  kind : OutputKind
  text : String
deriving DecidableEq, Repr

end MudClient.Session
