/-
# A headless session fed line by line

The console opens one session and reads lines.  A plain line is submitted
as the user's input.  A line that starts with one colon is a directive that
drives the session instead: a line or a prompt from the MUD, a GMCP
message, a key press or a shortcut (after which the input field is shown),
replacing or submitting the input field, hiding it, a status change, or
quitting.  Two colons submit the line with one.

Everything the host sends or shows is printed as it happens: sent lines
after `> `, command results after `= `, failed commands after `! `, debug
output after `# `, and other output as it is.  A directive that fails
prints its fault after `error: `.  After each line the loop runs what the
line queued; once it has stopped, no more lines are read.  At the end the
session is closed, and the engine stops.
-/
import MudClient.Engine.Sessions

namespace MudClient.Console

open MudClient.Session
open MudClient.Engine (Run)

/-- What a directive line asks for. -/
inductive Directive where
  | recv (text : String)
  | prompt (text : String)
  | gmcp (args : String)
  | key (spec : String)
  | shortcut (name : String)
  | input (text : String)
  | submit
  | password (on : Bool)
  | status (s : String)
  | quit
  | unknown (name : String)
deriving DecidableEq, Repr

/-- The directive of a line starting with one colon: its name, in lower
case, up to the first blank, and the rest without surrounding blanks. -/
def Directive.ofLine? (line : String) : Option Directive :=
  if !line.startsWith ":" || line.startsWith "::" then none
  else
    let rest := (line.drop 1).toString
    let (name, args) := match rest.splitOn " " with
      | n :: more => (Text.lower n, Text.trimSpace (" ".intercalate more))
      | [] => ("", "")
    some <| match name with
      | "recv" => .recv args
      | "prompt" => .prompt args
      | "gmcp" => .gmcp args
      | "key" => .key args
      | "shortcut" => .shortcut args
      | "input" => .input args
      | "submit" => .submit
      | "password" => .password (args == "on")
      | "status" => .status args
      | "quit" | "q" => .quit
      | n => .unknown n

def unescape (line : String) : String :=
  if line.startsWith "::" then (line.drop 1).toString else line

def Output.print (o : Output) : String :=
  match o.kind with
  | .command => "= " ++ o.text
  | .failed => "! " ++ o.text
  | .debug => "# " ++ o.text
  | .text => o.text

def Traffic.print : Traffic → String
  | .sent _ text => "> " ++ text
  | .shown _ o => Output.print o

/-- The console: the engine, what was printed, and how many items of the
host's traffic were printed. -/
structure Screen where
  engine : MudClient.Engine.Runtime
  printed : String := ""
  seen : Nat := 0

abbrev Repl := StateM Screen

def onEngine {α : Type} (r : Run α) : Repl α :=
  modifyGet fun s =>
    let (a, e) := Id.run (r.run s.engine)
    (a, { s with engine := e })

def catchUp : Repl Unit :=
  modify fun s =>
    let t := s.engine.core.host.traffic
    { s with printed := s.printed ++ String.join ((t.drop s.seen).map (Traffic.print · ++ "\n")), seen := t.length }

def say (line : String) : Repl Unit := do
  catchUp
  modify fun s => { s with printed := s.printed ++ line ++ "\n" }

def showInput (id : SessionId) : Repl (Option Failure) := do
  match ← onEngine (MudClient.Engine.call .probe) with
  | .error f => pure (some f)
  | .ok _ =>
    let c ← onEngine MudClient.Engine.core
    say ("[input] " ++ (c.host.input id).text)
    pure none

def onHost (change : Host → Except Failure Host) : Run (Option Failure) := do
  match change (← MudClient.Engine.core).host with
  | .error f => pure (some f)
  | .ok host =>
    MudClient.Engine.modifyCore fun c => { c with host }
    pure none

/-- What handling a line came to: its fault, if any, or quitting. -/
inductive Handled where
  | done (fault : Option Failure)
  | quit

def handle (id : SessionId) (line : String) : Repl Handled := do
  let engine (r : Run (Option Failure)) : Repl Handled := do pure (.done (← onEngine r))
  let thenShow (r : Run (Option Failure)) : Repl Handled := do
    match ← onEngine r with
    | some f => pure (.done (some f))
    | none => pure (.done (← showInput id))
  match Directive.ofLine? line with
  | none => engine (MudClient.Engine.submit id (InputLine.ofText (unescape line)))
  | some d =>
    match d with
    | .recv text => engine (MudClient.Engine.receiveLine id text false false)
    | .prompt text => engine (MudClient.Engine.receiveLine id text true false)
    | .gmcp args =>
      let (topic, body) := match args.splitOn " " with
        | t :: more => (t, Text.trimSpace (" ".intercalate more))
        | [] => ("", "")
      if topic.isEmpty then pure (.done (some (.plain "usage: :gmcp PKG JSON")))
      else engine (MudClient.Engine.receiveGmcp id topic body)
    | .key spec => thenShow (MudClient.Engine.pressKey id spec)
    | .shortcut name => thenShow (MudClient.Engine.invokeShortcut id name)
    | .input text => engine (onHost (·.setInput id (InputLine.ofText text)))
    | .submit => engine (MudClient.Engine.submitInput id)
    | .password on => engine (onHost (·.setPassword id on))
    | .status s => engine (MudClient.Engine.setStatus id (Status.ofName s))
    | .quit => pure .quit
    | .unknown name => pure (.done (some (.plain ("unknown meta command " ++ Text.quote name))))

/-- Handles one line and lets the loop run what it queued; answers whether
more lines are read: not after quitting, nor once the loop stopped. -/
def step (id : SessionId) (line : String) : Repl Bool := do
  match ← handle id line with
  | .quit => pure false
  | .done fault =>
    if let some f := fault then say ("error: " ++ f.message)
    pure (← onEngine MudClient.Engine.flush).isNone

def feed (id : SessionId) : List String → Repl Unit
  | [] => pure ()
  | line :: rest => do
    if ← step id line then feed id rest

/-- The lines of a text as a line reader gives them: split at line feeds,
a carriage return before one dropped, and a last line only when it is not
empty. -/
def inputLines (s : String) : List String :=
  let parts := s.splitOn "\n"
  let parts := if parts.getLast? == some "" then parts.dropLast else parts
  parts.map fun p => if p.endsWith "\r" then (p.dropEnd 1).toString else p

/-- Opens a session of a MUD and a character, announces that it is
connected, and starts the engine; answers the session and the failure that
stopped the engine at its start, if one did. -/
def begin (mud character : String) : Repl (SessionId × Option Failure) := do
  let info ← onEngine (MudClient.Engine.openSession { mud, character })
  discard (onEngine (MudClient.Engine.setStatus info.id .connected))
  pure (info.id, ← onEngine MudClient.Engine.start)

/-- Closes the session and lets the loop announce it, then stops the
engine, unless it stopped at its start. -/
def finish (id : SessionId) (fault : Option Failure) : Repl Unit := do
  if (← onEngine (MudClient.Engine.closeSession id)).isNone then
    discard (onEngine MudClient.Engine.flush)
  if fault.isNone then onEngine MudClient.Engine.shutdown
  catchUp

/-- Runs a session of a MUD and a character over the lines of a text.
Answers what was printed and the failure that stopped the engine at its
start, if one did. -/
def runSession (e : MudClient.Engine.Runtime) (mud character : String) (text : String) : String × Option Failure :=
  let work : Repl (Option Failure) := do
    let (id, fault) ← begin mud character
    feed id (inputLines text)
    finish id fault
    pure fault
  let (fault, s) := Id.run (work.run { engine := e })
  (s.printed, fault)

end MudClient.Console
