/-
# The mudscript program

The program has three commands of its own: `run` feeds a headless session
from its input, `check` loads every module once and reports each, and
`version` names the build.  Every command takes the settings from the
defaults or a configuration file, then from `MUDSCRIPT_*` variables, then
from flags; the settings are checked before anything runs.

A run, a check or a command line that fails ends with status 1 and the
fault on the error stream after `Error: `; otherwise the status is 0.
-/
import MudClient.CommandLine.Tree
import MudClient.Console.Session
import MudClient.Config.Read
import MudClient.Log.Level

namespace MudClient.Console

open MudClient.CommandLine

/-- What the program runs in: its arguments, its environment, its input,
the files, and the working directory. -/
structure World where
  args : List String
  env : List (String × String)
  stdin : String := ""
  disk : Disk := {}
  workDir : String

/-- How the program ends: its status and what it wrote. -/
structure Ending where
  exit : Nat
  stdout : String := ""
  stderr : String := ""
deriving DecidableEq, Repr

def World.lookup (w : World) (name : String) : Option String := w.env.lookup name

def World.home (w : World) : Option String :=
  match w.lookup "HOME" with
  | some h => if h.isEmpty then none else some h
  | none => none

/-! ## Flags and commands -/

def configFlag : Flag :=
  { name := "config", shorthand := some 'c', usage := "Path to configuration file (.toml, .yaml or .json)", kind := .text "" }

def levelFlag : Flag := { name := "log-level", usage := "Log level (debug, info, warn, error)", kind := .text "" }

def formatFlag : Flag := { name := "log-format", usage := "Log format (console, json)", kind := .text "" }

def scriptsFlag : Flag :=
  { name := "scripts", shorthand := some 's', usage := "Script directory; repeat to search several", kind := .texts }

def mudFlag : Flag := { name := "mud", shorthand := some 'm', usage := "MUD name of the session", kind := .text "local" }

def characterFlag : Flag := { name := "character", usage := "Character name of the session", kind := .text "" }

def noWatchFlag : Flag := { name := "no-watch", usage := "Do not reload scripts when they change", kind := .switch }

def runHelp : String :=
  "Run opens one session on an in-memory host and reads lines from stdin.\n" ++
  "Plain lines are submitted as user input. Lines starting with ':' drive the\n" ++
  "session instead:\n\n" ++
  "  :recv TEXT          a line received from the MUD\n" ++
  "  :prompt TEXT        a prompt received from the MUD\n" ++
  "  :gmcp PKG JSON      a GMCP message\n" ++
  "  :key SPEC           a key press in the input area (up, ctrl+p, ...)\n" ++
  "  :shortcut NAME      a bound shortcut\n" ++
  "  :input TEXT         replace the input area\n" ++
  "  :submit             submit the input area\n" ++
  "  :password on|off    mask the input area\n" ++
  "  :status STATUS      connection status (connecting, connected, disconnected)\n" ++
  "  :quit               close the session and exit\n\n" ++
  "Start a line with '::' to submit it with a single leading ':'."

def program : Program :=
  Program.standard "mudscript"
    [{ path := [], use := "mudscript", short := "Scripting runtime for MUD clients", runnable := false,
       persistent := [configFlag, levelFlag, formatFlag, scriptsFlag] },
     { path := ["run"], use := "run", short := "Run scripts against a headless session fed from stdin",
       long := runHelp, flags := [mudFlag, characterFlag, noWatchFlag] },
     { path := ["check"], use := "check", short := "Load every script module once and report failures" },
     { path := ["version"], use := "version", short := "Print version information" }]

/-! ## Settings -/

def World.file (w : World) (path : String) : String :=
  if Path.isAbs path then Path.clean path else Path.join [w.workDir, path]

/-- What the program's own flags give: the configuration file, the log
level and format, and the script directories, each empty when not given. -/
structure Flags where
  configPath : String := ""
  logLevel : String := ""
  logFormat : String := ""
  scriptDirs : List String := []

def Flags.ofParsed (given : Parsed) : Flags :=
  { configPath := given.text configFlag, logLevel := given.text levelFlag,
    logFormat := given.text formatFlag, scriptDirs := given.texts scriptsFlag.name }

/-- Lays the flags over a configuration: each flag given replaces its
setting. -/
def Flags.overlay (g : Flags) (cfg : Config.Settings) : Config.Settings :=
  { cfg with logging := { level := if g.logLevel.isEmpty then cfg.logging.level else g.logLevel,
                          format := if g.logFormat.isEmpty then cfg.logging.format else g.logFormat },
             scripts := { cfg.scripts with dirs := if g.scriptDirs.isEmpty then cfg.scripts.dirs else g.scriptDirs } }

/-- The configuration: the defaults or the configuration file, then the
environment, then the flags, checked. -/
def loadConfig (w : World) (g : Flags) : Except Failure Config.Settings := do
  let cfg ← (if g.configPath.isEmpty then pure Config.default
    else Config.loadFile w.disk (w.file g.configPath) g.configPath)
  let cfg ← cfg.applyEnv w.lookup
  let cfg := g.overlay cfg
  cfg.validate
  pure cfg

def settings (w : World) (given : Parsed) : Except Failure Config.Settings := do
  let cfg ← loadConfig w (Flags.ofParsed given)
  match Log.loggerSettings cfg.logging.level cfg.logging.format with
  | .ok _ => pure cfg
  | .error m => throw (.plain m)

def World.options (w : World) (cfg : Config.Settings) : MudClient.Engine.Options :=
  { config := cfg, root := w.workDir, disk := w.disk, home := w.home, workDir := some w.workDir }

/-! ## The commands -/

def failed (printed : String) (f : Failure) : Ending :=
  { exit := 1, stdout := printed, stderr := "Error: " ++ f.message ++ "\n" }

/-- How a session ends: status 1 and the fault when the engine did not
start, after what was printed. -/
def sessionEnding (printed : String) (fault : Option Failure) : Ending :=
  match fault with
  | some f => failed printed f
  | none => { exit := 0, stdout := printed }

/-- The engine a session runs on, with its MUD and character, or how the
program ends before one runs. -/
def sessionFor (w : World) (given : Parsed) : Except Ending (MudClient.Engine.Runtime × String × String) :=
  match settings w given with
  | .error f => .error (failed "" f)
  | .ok cfg =>
    let cfg := if given.switch noWatchFlag.name then { cfg with scripts := { cfg.scripts with watch := false } } else cfg
    match MudClient.Engine.Runtime.create (w.options cfg) with
    | .error f => .error (failed "" f)
    | .ok e => .ok (e, given.text mudFlag, given.text characterFlag)

/-- The report of a check: a line per module, then a line per script that
could not be registered, and how many failed. -/
def checkReport (c : MudClient.Engine.Core) : String × Nat :=
  let modules := c.manager.modules.map fun m =>
    match m.state, m.error with
    | .loaded, _ => ("ok      " ++ m.id ++ "\n", 0)
    | _, e => ("FAIL    " ++ m.id ++ ": " ++ ((e.map (·.message)).getD "") ++ "\n", 1)
  let broken := (c.broken.mergeSort fun a b => decide (a.1 ≤ b.1)).map fun (n, f) =>
    ("FAIL    " ++ n ++ ": " ++ f.message ++ "\n", 1)
  let all := modules ++ broken
  (String.join (all.map (·.1)), all.foldl (fun n r => n + r.2) 0)

def checkCommand (w : World) (given : Parsed) : Ending :=
  match settings w given with
  | .error f => failed "" f
  | .ok cfg =>
    let cfg := { cfg with scripts := { cfg.scripts with watch := false } }
    match MudClient.Engine.Runtime.create (w.options cfg) with
    | .error f => failed "" f
    | .ok e =>
      let work : MudClient.Engine.Run (String × Nat) := do
        discard (Plugin.loadAll MudClient.Engine.runner)
        let report := checkReport (← MudClient.Engine.core)
        for id in (← MudClient.Engine.core).manager.ids.reverse do
          discard (Plugin.unload MudClient.Engine.runner id)
        pure report
      let ((printed, n), _) := Id.run (work.run e)
      if n > 0 then failed printed (.plain (toString n ++ " module(s) failed"))
      else { exit := 0, stdout := printed }

def versionText : String := "mudscript dev\nCommit: unknown\nBuilt: unknown\n"

def topicText (words : List String) : String :=
  "[" ++ " ".intercalate (words.map fun x => "\x60" ++ x ++ "\x60") ++ "]"

/-- Shows the help of the command some words name; words that name none
are reported on the error stream, with the program's usage. -/
def helpCommand (words : List String) : Ending :=
  match program.find words with
  | .ok (c, _) => { exit := 0, stdout := program.help c }
  | .error _ => { exit := 0, stderr := "Unknown help topic " ++ topicText words ++ "\n" ++ program.usage program.root }

/-- What the program does: end at once, or run a session, which reads
its input line by line. -/
inductive Plan where
  | done (e : Ending)
  | session (engine : MudClient.Engine.Runtime) (mud character : String)

/-- What the program does in a world; a session does not read the world's
input yet. -/
def plan (w : World) : Plan :=
  match program.request w.args with
  | .refused m => .done (failed "" (.plain m))
  | .help c => .done { exit := 0, stdout := program.help c }
  | .run c given =>
    match c.path with
    | ["run"] =>
      match sessionFor w given with
      | .ok (e, mud, character) => .session e mud character
      | .error ending => .done ending
    | ["check"] => .done (checkCommand w given)
    | ["version"] => .done { exit := 0, stdout := versionText }
    | ["help"] => .done (helpCommand given.args)
    | _ => .done { exit := 0 }

def run (w : World) : Ending :=
  match plan w with
  | .done e => e
  | .session e mud character =>
    let (printed, fault) := runSession e mud character w.stdin
    sessionEnding printed fault

end MudClient.Console
