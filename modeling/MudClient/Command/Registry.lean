/-
# The command registry and dispatch

Each session has its own table of commands.  A command is known by its name
and its aliases, all in lower case; blank aliases are dropped.  The table maps
every one of those names to the registration of the command, one
registration shared by all of its names.  Registering a command removes every
command of the session that shares one of its names, with all of that
command's names, so the names of a session's commands never overlap.
Commands are listed sorted by name.

Dispatching a line reads it as a command line under the dispatcher's prefix.
A line that is no command line is not handled.  An unknown command is
answered in the session's output, with the closest name when one matches; a
known one is run on the remainder of the line, and a failure it reports is
shown as failed output.

## Main statements

* `Registry.register`: refuses an empty name, a missing handler and a
  missing owner, in that order.
* `Registry.route`: what dispatching a line does, before any handler runs.
-/
import MudClient.Failure
import MudClient.KeyMap
import MudClient.Text.Quote
import MudClient.Session.Host
import MudClient.Command.Line
import MudClient.Command.Fuzzy

namespace MudClient.Command

open Session

/-- A command: its name, aliases, description, the module that owns it and
its handler. -/
structure Spec (α : Type) where
  name : String
  aliases : List String := []
  description : String := ""
  owner : String
  handler : α
deriving Repr

/-- The names a command is known by: its name and its non-blank aliases, in
lower case. -/
def Spec.names (c : Spec α) : List String :=
  Text.lower c.name :: (c.aliases.map (fun a => Text.lower (Text.trimSpace a))).filter (· ≠ "")

/-- Why a command was refused. -/
inductive RegisterError where
  | emptyName
  | noHandler (name : String)
  | noOwner (name : String)
deriving DecidableEq, Repr

def RegisterError.toFailure : RegisterError → Failure
  | .emptyName => { message := "command name is required", conditions := [.commandEmptyName] }
  | .noHandler n =>
    { message := "command " ++ Text.quote n ++ ": command handler cannot be nil",
      conditions := [.commandNoHandler] }
  | .noOwner n =>
    { message := "command " ++ Text.quote n ++ ": command owner is required",
      conditions := [.commandNoOwner] }

/-- A registered command with the number of its registration: two
registrations of equal commands are two registrations. -/
structure Registration (α : Type) where
  serial : Nat
  command : Spec α

/-- The registration a command makes under a serial number, its name
trimmed, or why it is refused: an empty name, a missing handler and a
missing owner, in that order. -/
def Registration.ofCommand (serial : Nat) (c : Spec (Option α)) :
    Except RegisterError (Registration α) :=
  let name := Text.trimSpace c.name
  if name.isEmpty then .error .emptyName
  else match c.handler with
    | none => .error (.noHandler name)
    | some h =>
      if c.owner.isEmpty then .error (.noOwner name)
      else .ok ⟨serial, { name, aliases := c.aliases, description := c.description,
                          owner := c.owner, handler := h }⟩

/-- The command tables of the sessions: each maps every name of its
commands to the registration made under it. -/
structure Registry (α : Type) where
  tables : KeyMap SessionId (KeyMap String (Registration α)) := {}
  issued : Nat := 0

/-- The registrations of a list, each once: a registration is kept where
it occurs last. -/
def distinct : List (Registration α) → List (Registration α)
  | [] => []
  | e :: es => if es.any (·.serial == e.serial) then distinct es else e :: distinct es

namespace Registry

def table (r : Registry α) (id : SessionId) : KeyMap String (Registration α) :=
  (r.tables.get? id).getD {}

/-- Puts a registration under one of its names.  A different registration
found there is first removed under all of its names. -/
def claim (t : KeyMap String (Registration α)) (e : Registration α) (name : String) :
    KeyMap String (Registration α) :=
  let t : KeyMap String (Registration α) := match t.get? name with
    | some old => if old.serial != e.serial then ⟨t.entries.filter (·.2.serial != old.serial)⟩ else t
    | none => t
  t.set name e

/-- Registers a command in a session.  Every command of the session that
shares a name with it is removed. -/
def register (r : Registry α) (id : SessionId) (c : Spec (Option α)) :
    Except RegisterError (Registry α) :=
  match Registration.ofCommand (r.issued + 1) c with
  | .error err => .error err
  | .ok e =>
    .ok { tables := r.tables.set id (e.command.names.foldl (claim · e ·) (r.table id)),
          issued := e.serial }

def lookup (r : Registry α) (id : SessionId) (name : String) : Option (Spec α) :=
  ((r.table id).get? (Text.lower name)).map (·.command)

def registrations (r : Registry α) (id : SessionId) : List (Registration α) :=
  distinct (r.table id).values

def commands (r : Registry α) (id : SessionId) : List (Spec α) :=
  ((r.registrations id).map (·.command)).mergeSort fun a b => a.name ≤ b.name

def count (r : Registry α) (id : SessionId) : Nat := (r.commands id).length

/-- A names table without the commands of a module; none when nothing is
left. -/
def withoutOwner (owner : String) (e : SessionId × KeyMap String (Registration α)) :
    Option (SessionId × KeyMap String (Registration α)) :=
  let t : KeyMap String (Registration α) := ⟨e.2.entries.filter (·.2.command.owner != owner)⟩
  if t.isEmpty then none else some (e.1, t)

/-- Removes every command of a module from every session; answers how many
commands were removed. -/
def retract (r : Registry α) (owner : String) : Nat × Registry α :=
  let gone := distinct (r.tables.values.flatMap fun t => t.values.filter (·.command.owner == owner))
  (gone.length, { r with tables := ⟨r.tables.entries.filterMap (withoutOwner owner)⟩ })

def drop (r : Registry α) (id : SessionId) : Registry α :=
  { r with tables := r.tables.erase id }

def suggest (r : Registry α) (id : SessionId) (name : String) : Option String :=
  ((fuzzyMatch name ((r.commands id).flatMap Spec.names)).head?).map (·.name)

end Registry

/-- What dispatching a line does. -/
inductive Route (α : Type) where
  /-- The line is no command line. -/
  | ignored
  /-- The command is unknown; the output to show. -/
  | unknown (reply : Output)
  /-- The command to run and the text it is given. -/
  | run (cmd : Spec α) (args : String)

def unknownReply (name : String) (pre : String) (near : Option String) : String :=
  "Unknown command " ++ Text.quote name ++
    (match near with
     | some n => ", did you mean " ++ pre ++ n ++ "?"
     | none => "")

/-- Decides what dispatching a line of a session does.  An empty prefix is
the default one. -/
def Registry.route (r : Registry α) (pre : String) (id : SessionId) (text : String) : Route α :=
  let pre := if pre.isEmpty then defaultPrefix else pre
  match Line.parse? text pre with
  | none => .ignored
  | some line =>
    match r.lookup id line.name with
    | none => .unknown ⟨.failed, unknownReply line.name pre (r.suggest id line.name)⟩
    | some cmd => .run cmd line.remainder

def failedReply (cmd : Spec α) (err : String) : Output := ⟨.failed, cmd.name ++ ": " ++ err⟩

/-- Dispatches a line of a session: answers whether it was a command line,
and the host after any output, or the failure to show it.  The handler runs
in the monad `m` and answers the text of its failure, if any. -/
def Registry.dispatch [Monad m] (r : Registry α) (pre : String) (id : SessionId)
    (text : String) (run : Spec α → String → m (Option String)) (host : Host) :
    m (Bool × Except Failure Host) := do
  match r.route pre id text with
  | .ignored => pure (false, .ok host)
  | .unknown reply => pure (true, host.addOutput id reply)
  | .run cmd args =>
    match ← run cmd args with
    | none => pure (true, .ok host)
    | some err => pure (true, host.addOutput id (failedReply cmd err))

end MudClient.Command
