/-
# Settings from the environment

Variables named `MUDSCRIPT_` and a setting override that setting; the
result is then checked as a whole.  Directories are a list separated by
colons, where the empty text is the empty list; switches, whole numbers
and durations are read in the host's syntax for each, and a value that
does not read fails with the variable's name in front.  The log level and
format are taken in lower case.

The variables are applied one after another to the configuration in place,
and the first that does not read stops the others.  The host leaves the
order of the variables open: `Settings.applyEnvIn` takes it as an argument,
and `Settings.applyEnv` visits them in the order they are listed.
-/
import MudClient.Config.Basic
import MudClient.Number.Parse
import MudClient.Text.Quote
import MudClient.Text.Case

namespace MudClient.Config

def envPrefix : String := "MUDSCRIPT_"

def readSwitch (v : String) : Except String Bool :=
  if ["1", "t", "T", "TRUE", "true", "True"].contains v then .ok true
  else if ["0", "f", "F", "FALSE", "false", "False"].contains v then .ok false
  else .error ("strconv.ParseBool: parsing " ++ Text.quote v ++ ": invalid syntax")

def readWhole (v : String) : Except String Int :=
  match Number.readInt v.toList with
  | .ok n => .ok n
  | .error .malformed => .error ("strconv.Atoi: parsing " ++ Text.quote v ++ ": invalid syntax")
  | .error .range => .error ("strconv.Atoi: parsing " ++ Text.quote v ++ ": value out of range")

def splitDirs (v : String) : List String :=
  if v.isEmpty then [] else v.splitOn ":"

/-- How a variable's text overrides a setting: the change it makes, or why
the text does not read. -/
abbrev Setter := String → Except String (Settings → Settings)

/-- The setter that reads a variable's text into a value and writes the
value into one setting.  The text is read before the configuration is
looked at, so whether a setter fails does not depend on what it is applied
to. -/
def setting {α : Type} (read : String → Except String α) (write : α → Settings → Settings) : Setter :=
  fun v => (read v).map write

def envSetters : List (String × Setter) :=
  [("SCRIPTS_DIRS", setting (fun v => .ok (splitDirs v)) fun d c => { c with scripts.dirs := d }),
   ("SCRIPTS_WATCH", setting readSwitch fun b c => { c with scripts.watch := b }),
   ("SCRIPTS_DEBOUNCE", setting Time.parse fun d c => { c with scripts.debounce := d }),
   ("SCRIPTS_TIMEOUT", setting Time.parse fun d c => { c with scripts.timeout := d }),
   ("HISTORY_CAPACITY", setting readWhole fun n c => { c with history.capacity := n }),
   ("HISTORY_SKIP_SCRIPTED", setting readSwitch fun b c => { c with history.skipScripted := b }),
   ("COMMANDS_PREFIX", setting (fun v => .ok v) fun p c => { c with commands.leader := p }),
   ("LOG_LEVEL", setting (fun v => .ok (Text.lower v)) fun l c => { c with logging.level := l }),
   ("LOG_FORMAT", setting (fun v => .ok (Text.lower v)) fun f c => { c with logging.format := f }),
   ("METRICS_ADDR", setting (fun v => .ok v) fun a c => { c with metrics.addr := a })]

def envFailure (name e : String) : Failure := Failure.plain (envPrefix ++ name ++ ": " ++ e)

/-- Runs the setters of the variables `lookup` finds, in the order given,
over the configuration in place: each changes it as it stands, and the first
text that does not read stops the run, keeping the changes made before it.
Gives the configuration as it is left, and the failure. -/
def Settings.setFrom (c : Settings) (lookup : String → Option String) :
    List (String × Setter) → Settings × Option Failure
  | [] => (c, none)
  | (name, set) :: rest =>
    match lookup (envPrefix ++ name) with
    | none => c.setFrom lookup rest
    | some v =>
      match set v with
      | .ok f => (f c).setFrom lookup rest
      | .error e => (c, some (envFailure name e))

/-- Overrides settings from the variables `lookup` finds, visiting the
setters in `order`, then checks the result.  Gives the configuration as it
is left, and the failure.  The host visits its setters in an order it does
not fix, so every order is a possible run. -/
def Settings.applyEnvIn (c : Settings) (lookup : String → Option String) (order : List (String × Setter)) :
    Settings × Option Failure :=
  match c.setFrom lookup order with
  | (c', some f) => (c', some f)
  | (c', none) =>
    match c'.validate with
    | .ok _ => (c', none)
    | .error f => (c', some f)

/-- Overrides settings from the variables `lookup` finds, then checks the
result; the setters are visited in the order they are listed. -/
def Settings.applyEnv (c : Settings) (lookup : String → Option String) : Except Failure Settings :=
  match c.applyEnvIn lookup envSetters with
  | (c', none) => .ok c'
  | (_, some f) => .error f

end MudClient.Config
