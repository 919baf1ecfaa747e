/-
# The engine's own modules

Two modules come with the engine.  `builtin` registers three commands in
every session: `reload` (one module, or a rescan and reload of every
module), `modules` (every module with its state, then the broken ones) and
`help` (the session's commands, or those that match a query).  `history`
keeps a history of input per session, scrolled by two keys that each MUD
may choose, and registers the command `history`, which shows the latest
lines.  Histories outlive reloads and end when their session closes.

This module holds what these do to the core; running them on events is
the loop's business.
-/
import MudClient.Engine.Basic
import MudClient.Command.Fuzzy

namespace MudClient.Engine

open MudClient.Session

def padRight (s : String) (width : Nat) : String :=
  s ++ String.ofList (List.replicate (width - s.length) ' ')

def padLeft (s : String) (width : Nat) : String :=
  String.ofList (List.replicate (width - s.length) ' ') ++ s

/-- The report of `modules`: a line per module in registration order, with
its state, how often it was reloaded and its failure, then a line per
broken module in name order. -/
def modulesReport (c : Core) : String :=
  let loaded := c.manager.modules.map fun m =>
    padRight m.id 16 ++ " " ++ padRight m.state.name 8 ++
      (if m.reloads > 0 then " reloads=" ++ toString m.reloads else "") ++
      (match m.error with
       | some f => " " ++ f.message
       | none => "")
  let broken := (c.broken.mergeSort fun a b => decide (a.1 ≤ b.1)).map fun (n, f) =>
    padRight n 16 ++ " " ++ padRight "broken" 8 ++ " " ++ f.message
  "\n".intercalate (loaded ++ broken)

/-- The report of `help`: a line per command of the session in name order,
with its aliases, description and owner; with a query, only the commands
one of whose names matches it. -/
def helpReport (c : Core) (id : SessionId) (args : String) : String :=
  let query := Text.trimSpace args
  let all := c.commands.commands id
  let shown := if query.isEmpty then all
    else all.filter fun cmd => !(Command.fuzzyMatch query cmd.names).isEmpty
  if !query.isEmpty && shown.isEmpty then "No commands match " ++ Text.quote query
  else
    "\n".intercalate (shown.map fun cmd =>
      c.leader ++ cmd.name ++
        (if cmd.aliases.isEmpty then "" else " (" ++ ", ".intercalate cmd.aliases ++ ")") ++
        (if cmd.description.isEmpty then "" else " - " ++ cmd.description) ++
        " [" ++ cmd.owner ++ "]")

def builtinCommands (owner : String) : List (Command.Spec (Option Action)) :=
  [{ name := "reload", description := "Reload one module, or rescan and reload every module", owner,
     handler := some .reload },
   { name := "modules", description := "List modules and their state", owner, handler := some .modules },
   { name := "help", aliases := ["commands"], description := "List the commands of this session", owner,
     handler := some .help }]

def registerAll (c : Core) (id : SessionId) (cmds : List (Command.Spec (Option Action))) : Except Failure Core :=
  cmds.foldlM (fun c cmd =>
    match c.commands.register id cmd with
    | .ok commands => .ok { c with commands }
    | .error e => .error e.toFailure) c

/-! ## Histories -/

def historyKey (which mud spec : String) : Except Failure Key.Code :=
  match Key.Code.ofSpec? spec with
  | .ok k => .ok k
  | .error e => .error (e.toFailure.wrap ("history " ++ which ++ " key for " ++ mud))

/-- Prepares a session's history: keeps the history it has and takes the
keys its MUD uses now. -/
def Core.prepareHistory (c : Core) (info : Info) : Except Failure Core := do
  let (p, n) := c.config.historyKeys info.mud
  let prev ← historyKey "prev" info.mud p
  let next ← historyKey "next" info.mud n
  let histories := match c.histories.lookup info.id with
    | some t => c.histories.map fun (id, u) => if id == info.id then (id, { t with prev, next }) else (id, u)
    | none => c.histories ++ [(info.id, ⟨History.Buffer.new c.capacity, prev, next⟩)]
  pure { c with histories }

def setupHistory (c : Core) (owner : String) (info : Info) : Except Failure Core := do
  let c ← c.prepareHistory info
  registerAll c info.id
    [{ name := "history", description := "Show recent input", owner, handler := some .history }]

/-- Scrolls a session's history; answers whether the input changed and the
failure of changing it.  A session without history does nothing. -/
def Core.navigate (c : Core) (id : SessionId) (dir : History.Direction) : (Bool × Option Failure) × Core :=
  match c.histories.lookup id with
  | none => ((false, none), c)
  | some t =>
    let ((changed, res), hist) := History.navigate t.history c.host id c.skipScripted dir
    let histories := c.histories.map fun (i, u) => if i == id then (i, { t with history := hist }) else (i, u)
    match res with
    | .ok host => ((changed, none), { c with histories, host })
    | .error f => ((changed, some f), { c with histories })

def Core.recordInput (c : Core) (ev : Event.Message) : Core :=
  match ev.session, ev.payload with
  | some id, some (.input l) =>
    { c with histories := c.histories.map fun (i, t) =>
        if i == id then (i, { t with history := (t.history.append l).2 }) else (i, t) }
  | _, _ => c

def Core.scrollByKey (c : Core) (ev : Event.Message) : Option Failure × Core :=
  match ev.session, ev.payload with
  | some id, some (.key code) =>
    match c.histories.lookup id, Key.Code.ofSpec? code with
    | some t, .ok k =>
      if k == t.prev then
        let ((_, f), c) := c.navigate id .previous
        (f, c)
      else if k == t.next then
        let ((_, f), c) := c.navigate id .following
        (f, c)
      else (none, c)
    | _, _ => (none, c)
  | _, _ => (none, c)

def shortcutPrev : String := "history_prev"
def shortcutNext : String := "history_next"

def Core.scrollByShortcut (c : Core) (ev : Event.Message) : Option Failure × Core :=
  match ev.session, ev.payload with
  | some id, some (.shortcut n) =>
    if n == shortcutPrev then
      let ((_, f), c) := c.navigate id .previous
      (f, c)
    else if n == shortcutNext then
      let ((_, f), c) := c.navigate id .following
      (f, c)
    else (none, c)
  | _, _ => (none, c)

def Core.forgetHistory (c : Core) (ev : Event.Message) : Core :=
  match ev.session with
  | some id => { c with histories := c.histories.filter (·.1 != id) }
  | none => c

/-- The count a `history` command asks for: a whole number of at least
one, twenty when none is given. -/
def historyCount (args : String) : Option Nat :=
  if args.isEmpty then some 20
  else match Number.parseInt? args.toList 10 with
    | some n => if n < 1 then none else some n.toNat
    | none => none

/-- The output of `history`: the latest lines, oldest first and numbered,
with hidden input shown as such. -/
def historyReport (t : Option Tracked) (args : String) : Output :=
  match t with
  | none => ⟨.failed, "No history for this session"⟩
  | some t =>
    let a := Text.trimSpace args
    match historyCount a with
    | none => ⟨.failed, "Invalid count " ++ Text.quote a⟩
    | some limit =>
      let lines := t.history.lines
      let shown := lines.drop (lines.length - limit)
      let body := shown.zipIdx.map fun (l, i) =>
        padLeft (toString (i + 1)) 4 ++ "  " ++ (if l.echoSuppressed then "(hidden)" else l.text)
      ⟨.command, if body.isEmpty then "History is empty" else "\n".intercalate body⟩

end MudClient.Engine
