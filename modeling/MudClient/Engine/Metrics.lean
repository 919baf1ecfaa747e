/-
# The engine's metrics

The engine reports counters and gauges over its bus, its manager, its
script watcher and its loop, each family named `mudscript_<part>_<name>`.
Families are listed in name order and the samples of a family in the order
of their label values.  The time spent in handlers is not reported.

The text form is the exposition format of metric scrapers: for each family
a `# HELP` line, a `# TYPE` line and a line per sample, with whole values
written as the shortest decimal, switching to an exponent from a million.
-/
import MudClient.Engine.Basic

namespace MudClient.Engine

/-- Whether a family counts up or measures a level. -/
inductive MetricKind where
  | counter
  | gauge
deriving DecidableEq, Repr

def MetricKind.name : MetricKind → String
  | .counter => "COUNTER"
  | .gauge => "GAUGE"

/-- One sample of a family: its labels and its value. -/
structure Sample where
  labels : List (String × String) := []
  value : Nat
deriving DecidableEq, Repr

/-- A family of metrics. -/
structure Family where
  name : String
  help : String
  kind : MetricKind
  samples : List Sample
deriving Repr

def single (name help : String) (kind : MetricKind) (v : Nat) : Family :=
  { name := "mudscript_" ++ name, help, kind, samples := [{ value := v }] }

def families (c : Core) : List Family :=
  let bs := c.bus.stats
  let ms := c.manager.stats
  let ws : Nat × Nat := match c.watcher with
    | some w => (w.paths.length, w.changes.length)
    | none => (0, 0)
  let t := c.transitions
  [single "events_delivered_total" "Handler invocations." .counter bs.delivered,
   single "events_filtered_total" "Subscriptions skipped by their filter." .counter bs.filtered,
   single "events_handler_errors_total" "Handlers that returned an error." .counter bs.handlerErrors,
   single "events_handler_panics_total" "Handlers that panicked." .counter bs.handlerPanics,
   single "events_published_total" "Events published on the bus." .counter bs.published,
   single "events_retracted_total" "Subscriptions removed by owner retraction." .counter bs.retracted,
   single "events_subscriptions" "Active subscriptions." .gauge c.bus.count,
   single "loop_pending" "Work items waiting for the dispatch loop." .gauge c.queue.length,
   single "loop_reloads_total" "Reload requests handled by the dispatch loop." .counter c.reloads,
   single "loop_tasks_total" "Work items run by the dispatch loop." .counter c.tasks,
   { name := "mudscript_modules_count", help := "Modules by state.", kind := .gauge,
     samples := [⟨[("state", "error")], ms.errored⟩, ⟨[("state", "loaded")], ms.loaded⟩,
                 ⟨[("state", "unloaded")], ms.modules - ms.loaded - ms.errored⟩] },
   single "modules_load_failures_total" "Module loads that failed." .counter ms.loadFailures,
   single "modules_reloads_total" "Successful module reloads." .counter ms.reloads,
   single "modules_setup_errors_total" "Session setup hooks that failed." .counter ms.setupErrors,
   { name := "mudscript_modules_transitions_total", help := "Module lifecycle transitions by event.",
     kind := .counter,
     samples := [⟨[("event", "error")], t.failed⟩, ⟨[("event", "loaded")], t.loaded⟩,
                 ⟨[("event", "reloaded")], t.reloaded⟩, ⟨[("event", "unloaded")], t.unloaded⟩] },
   single "watcher_changes_total" "Debounced script changes reported." .counter ws.2,
   single "watcher_errors_total" "File watcher errors." .counter 0,
   single "watcher_paths" "Directories watched for script changes." .gauge ws.1]

/-- A whole value as the shortest decimal: positional below a million, and
with an exponent of at least two digits from a million on. -/
def valueText (n : Nat) : String :=
  if n < 1000000 then toString n
  else
    let digits := (toString n).toList
    let exp := digits.length - 1
    let kept := (digits.reverse.dropWhile (· == '0')).reverse
    let mantissa := match kept with
      | d :: [] => String.singleton d
      | d :: rest => String.singleton d ++ "." ++ String.ofList rest
      | [] => "0"
    let e := toString exp
    mantissa ++ "e+" ++ (if e.length < 2 then "0" ++ e else e)

def exposition (fs : List Family) : List String :=
  fs.flatMap fun f =>
    ["# HELP " ++ f.name ++ " " ++ f.help, "# TYPE " ++ f.name ++ " " ++ (if f.kind == .counter then "counter" else "gauge")] ++
      f.samples.map fun s =>
        let labels := if s.labels.isEmpty then ""
          else "\x7b" ++ ",".intercalate (s.labels.map fun (k, v) => k ++ "=\"" ++ v ++ "\"") ++ "\x7d"
        f.name ++ labels ++ " " ++ valueText s.value

end MudClient.Engine
